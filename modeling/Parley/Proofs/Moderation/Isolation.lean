import Parley.Proofs.Moderation.Mirroring

/-!
# Senders are isolated

Messages of many senders are screened one after the other in one world. The verdicts that one of
them gets follow from the own standing alone: they are what the sender's messages get when nobody
else sends any. Between two messages of a sender others may send theirs, and for the sender's
standing that is only time that passes.
-/

namespace Parley.Moderation

/-- A message that is to be screened at a time. -/
structure Submission where
  time : Nat
  sender : Uuid
  scope : Option BanScope
  content : String
  deriving DecidableEq, Repr

abbrev Answer := Except Failure Verdict

/-- Screens messages one after the other, each at its time. -/
def screenAll (rules : Rules) : List Submission → World → List (Submission × Answer)
  | [], _ => []
  | message :: rest, world =>
    let (answer, after) := (screen rules message.sender message.scope message.content).perform
      { world with clock := message.time }
    (message, answer) :: screenAll rules rest after

/-- What a sender is answered, up to the identifiers of bans. -/
def answersTo (sender : Uuid) (answers : List (Submission × Answer)) : List (Submission × Answer) :=
  (answers.filter (·.1.sender = sender)).map (Prod.map id (Except.map Verdict.unnamed))

/-- Messages of one sender, screened by the standing of the sender. -/
def Conduct.screenAll (config : Config.Moderation) :
    List Submission → Standing → List (Submission × Answer)
  | [], _ => []
  | message :: rest, standing =>
    let (answer, after) := (Conduct.screen config message.sender message.scope
      message.content).perform (standing.later message.time)
    (message, answer) :: Conduct.screenAll config rest after

variable {config : Config.Moderation} {messages : List Submission} {world : World} {sender : Uuid}

/-- Time that passes before the first message does not show. -/
theorem Conduct.screenAll_later {standing : Standing} {time : Nat}
    (later : ∀ message ∈ messages, time ≤ message.time) :
    Conduct.screenAll config messages (standing.later time) =
      Conduct.screenAll config messages standing := by
  cases messages with
  | nil => rfl
  | cons message rest =>
    rw [Conduct.screenAll, Conduct.screenAll,
      Standing.later_later (later message List.mem_cons_self)]

theorem answersTo_cons_of_eq {message : Submission} (own : message.sender = sender)
    (answer : Answer) (answers : List (Submission × Answer)) :
    answersTo sender ((message, answer) :: answers) =
      (message, answer.map Verdict.unnamed) :: answersTo sender answers := by
  rw [answersTo, List.filter_cons_of_pos (by simpa using own)]
  rfl

theorem answersTo_cons_of_ne {message : Submission} (apart : message.sender ≠ sender)
    (answer : Answer) (answers : List (Submission × Answer)) :
    answersTo sender ((message, answer) :: answers) = answersTo sender answers := by
  rw [answersTo, List.filter_cons_of_neg (by simpa using apart)]
  rfl

/-- The standing of a sender carries the answers. A message of the sender takes it one step on, and
a message of another sender is time that passes. -/
theorem answersTo_screenAll (sender : Uuid) (sound : Sound messages.length world)
    (later : ∀ message ∈ messages, world.clock ≤ message.time)
    (ordered : messages.Pairwise fun first second => first.time ≤ second.time) :
    answersTo sender (screenAll (Rules.ofConfig config) messages world) =
      Conduct.screenAll config (messages.filter (·.sender = sender)) (standingOf sender world) := by
  induction messages generalizing world with
  | nil => rfl
  | cons message rest ih =>
    have timely : ∀ next ∈ rest, message.time ≤ next.time := (List.pairwise_cons.mp ordered).1
    have begun : Sound (rest.length + 1) { world with clock := message.time } :=
      ⟨sound.distinct, sound.issued, sound.counters⟩
    have passed : ∀ other, standingOf other { world with clock := message.time } =
        (standingOf other world).later message.time := fun other =>
      standingOf_later (later message List.mem_cons_self)
    have reflects : Reflects message.sender Verdict.unnamed rest.length
        { world with clock := message.time }
        ((screen (Rules.ofConfig config) message.sender message.scope message.content).perform
          { world with clock := message.time })
        ((Conduct.screen config message.sender message.scope message.content).perform
          (standingOf message.sender { world with clock := message.time })) :=
      mirrors_screen message.content rest.length _ begun
    rw [screenAll]
    generalize (screen (Rules.ofConfig config) message.sender message.scope
      message.content).perform { world with clock := message.time } = outcome at reflects ⊢
    have remaining := ih reflects.sound (fun next listed => reflects.clock ▸ timely next listed)
      ordered.of_cons
    by_cases own : message.sender = sender
    · subst own
      have same := reflects.same
      rw [passed] at same
      rw [List.filter_cons_of_pos (by simp), Conduct.screenAll, same]
      exact (answersTo_cons_of_eq rfl _ _).trans (congrArg (List.cons _) remaining)
    · have untouched : standingOf sender outcome.2 = (standingOf sender world).later message.time :=
        (reflects.others sender own).trans (passed sender)
      have quiet : ∀ next ∈ rest.filter (·.sender = sender), message.time ≤ next.time :=
        fun next listed => timely next (List.mem_of_mem_filter listed)
      rw [List.filter_cons_of_neg (by simpa using own), ← Conduct.screenAll_later quiet,
        ← untouched, ← remaining]
      exact answersTo_cons_of_ne own _ _

/-- The answers to a sender are the same when all messages of others are left out, whatever
identifiers are handed out then. -/
theorem answersTo_screenAll_filter (config : Config.Moderation) (uptime : Nat)
    (supply supply' : Nat → Uuid) (messages : List Submission) (sender : Uuid)
    (distinct : SuppliesDistinct supply messages.length)
    (distinct' : SuppliesDistinct supply' (messages.filter (·.sender = sender)).length)
    (ordered : messages.Pairwise fun first second => first.time ≤ second.time) :
    answersTo sender (screenAll (Rules.ofConfig config) messages { uptime, supply }) =
      answersTo sender (screenAll (Rules.ofConfig config)
        (messages.filter (·.sender = sender)) { uptime, supply := supply' }) := by
  have together : answersTo sender (screenAll (Rules.ofConfig config) messages { uptime, supply }) =
      Conduct.screenAll config (messages.filter (·.sender = sender))
        (standingOf sender { uptime, supply }) :=
    answersTo_screenAll sender (sound_of_suppliesDistinct distinct) (fun _ _ => Nat.zero_le _)
      ordered
  have alone : answersTo sender (screenAll (Rules.ofConfig config)
      (messages.filter (·.sender = sender)) { uptime, supply := supply' }) =
      Conduct.screenAll config (messages.filter (·.sender = sender))
        (standingOf sender { uptime, supply := supply' }) := by
    rw [answersTo_screenAll sender (sound_of_suppliesDistinct distinct') (fun _ _ => Nat.zero_le _)
      (ordered.filter _), List.filter_filter]
    simp only [Bool.and_self]
  rw [together, alone]
  rfl

/-- A message of another sender between two equal messages. -/
theorem answersTo_screenAll_filter_between :
    let config : Config.Moderation := { spamBurstLimit := 0 }
    let first : Submission := ⟨1000, ⟨1⟩, none, "hello"⟩
    let other : Submission := ⟨1500, ⟨2⟩, none, "hello"⟩
    let second : Submission := ⟨1500, ⟨1⟩, none, "hello"⟩
    SuppliesDistinct Uuid.ofSerial 3 ∧ SuppliesDistinct Uuid.ofSerial 2 ∧
    [first, other, second].Pairwise (fun first second => first.time ≤ second.time) ∧
    answersTo ⟨1⟩ (screenAll (Rules.ofConfig config) [first, other, second] {}) =
      answersTo ⟨1⟩ (screenAll (Rules.ofConfig config) [first, second] {}) :=
  ⟨by decide, by decide, by decide,
    answersTo_screenAll_filter _ _ Uuid.ofSerial Uuid.ofSerial _ ⟨1⟩ (by decide) (by decide)
      (by decide)⟩

end Parley.Moderation
