import Parley.Proofs.Listener.Deeds

/-!
# What a listener reads

From the deeds of a listener one can tell which messages it has taken up: those that it wants, in
the order in which they were published and each once, save those that were passed over because they
had fallen out of the ring.
-/

namespace Parley

namespace Deed

/-- The number of the event that a deed takes up. -/
def takesUp? : Deed → Option Nat
  | .read _ _ number fate => if fate = .ignored then none else some number
  | _ => none

/-- The number of the event that a deed settles, and the outcome. -/
def settles? : Deed → Option (Nat × EventOutcome)
  | .read _ _ number fate | .resumed number fate => fate.outcome?.map (number, ·)
  | _ => none

/-- Whether the message with this number had fallen out of the ring when a message was read. -/
def passesOver (number : Nat) : Deed → Bool
  | .read stood _ next _ => stood ≤ number && number < next
  | _ => false

def isOnEvent : Deed → Bool
  | .read .. | .resumed .. => true
  | _ => false

def isFinish : Deed → Bool
  | .finished _ => true
  | _ => false

/-- The numbers of the events that were taken up, in the order in which they were. -/
def takenUp (deeds : List Deed) : List Nat := deeds.filterMap takesUp?

/-- The events that were settled, in the order in which they were. -/
def settled (deeds : List Deed) : List (Nat × EventOutcome) := deeds.filterMap settles?

def passedOver (deeds : List Deed) (number : Nat) : Bool := deeds.any (passesOver number)

variable (deeds : List Deed) (deed : Deed)

theorem takenUp_concat : takenUp (deeds ++ [deed]) = takenUp deeds ++ deed.takesUp?.toList := by
  rw [takenUp, takenUp, List.filterMap_append]
  cases taken : deed.takesUp? <;> simp [taken]

theorem settled_concat : settled (deeds ++ [deed]) = settled deeds ++ deed.settles?.toList := by
  rw [settled, settled, List.filterMap_append]
  cases found : deed.settles? <;> simp [found]

theorem passedOver_concat (number : Nat) :
    passedOver (deeds ++ [deed]) number = (passedOver deeds number || deed.passesOver number) := by
  rw [passedOver, passedOver, List.any_append, List.any_cons, List.any_nil, Bool.or_false]

end Deed

/-- Whether the message with this number is one that a handler listens to. -/
def Bus.isWanted (bus : Bus) (handler : Handler) (number : Nat) : Bool :=
  (bus.messages[number]?).any fun message => handler.wants message.topic

/-- A listener that began behind `start` messages and has come to a position has taken up what it
wants of the messages between, in order and each once, but for those that it passed over. It passes
messages over only when more of them than the ring holds lie ahead, and then goes on with the oldest
one kept. -/
structure Reads (handler : Handler) (start : Nat) (deeds : List Deed) (bus : Bus) (position : Nat) :
    Prop where
  began : start ≤ position
  within : position ≤ bus.size
  inOrder : Deed.takenUp deeds = (List.range' start (position - start)).filter fun number =>
    bus.isWanted handler number && !Deed.passedOver deeds number
  lagging : ∀ stood size number fate, .read stood size number fate ∈ deeds →
    size ≤ bus.size ∧ number < position ∧
      number = if bus.capacity < size - stood then size - bus.capacity else stood

namespace Reads

variable {handler : Handler} {start position : Nat} {deeds : List Deed} {bus : Bus}

theorem nothing (within : start ≤ bus.size) : Reads handler start [] bus start where
  began := Nat.le_refl _
  within := within
  inOrder := by
    rw [Nat.sub_self]
    rfl
  lagging := nofun

theorem later {after : Bus} (reads : Reads handler start deeds bus position)
    (before : bus.Precedes after) : Reads handler start deeds after position where
  began := reads.began
  within := Nat.le_trans reads.within before.size_le
  inOrder := by
    rw [reads.inOrder]
    refine List.filter_congr fun number listed => ?_
    have known : number < bus.size := by
      have := List.mem_range'_1.mp listed
      have := reads.within
      have := reads.began
      omega
    rw [Bus.isWanted, Bus.isWanted, before.getElem? known]
  lagging := by
    intro stood size number fate listed
    obtain ⟨shorter, behind, same⟩ := reads.lagging stood size number fate listed
    rw [before.capacity]
    exact ⟨Nat.le_trans shorter before.size_le, behind, same⟩

/-- A deed that is not a reading changes nothing. -/
theorem other {deed : Deed} (reads : Reads handler start deeds bus position)
    (silent : ∀ stood size number fate, deed ≠ .read stood size number fate) :
    Reads handler start (deeds ++ [deed]) bus position where
  began := reads.began
  within := reads.within
  inOrder := by
    have nothing : deed.takesUp? = none ∧ ∀ number, deed.passesOver number = false := by
      cases deed with
      | read stood size number fate => exact absurd rfl (silent _ _ _ _)
      | _ => exact ⟨rfl, fun _ => rfl⟩
    rw [Deed.takenUp_concat, nothing.1, Option.toList_none, List.append_nil, reads.inOrder]
    refine List.filter_congr fun number _ => ?_
    rw [Deed.passedOver_concat, nothing.2, Bool.or_false]
  lagging := by
    intro stood size number fate listed
    rcases List.mem_append.mp listed with early | last
    · exact reads.lagging stood size number fate early
    · exact absurd (List.mem_singleton.mp last).symm (silent _ _ _ _)

theorem not_passedOver (reads : Reads handler start deeds bus position) {number : Nat}
    (ahead : position ≤ number) : Deed.passedOver deeds number = false := by
  refine List.any_eq_false.mpr fun deed listed => ?_
  cases deed with
  | read stood size next fate =>
    have behind := (reads.lagging stood size next fate listed).2.1
    rw [Deed.passesOver, decide_eq_false (show ¬ number < next by omega), Bool.and_false]
    exact Bool.false_ne_true
  | _ => exact Bool.false_ne_true

/-- What is missing fell out of the ring before it was read, or was not read yet. -/
theorem missing (reads : Reads handler start deeds bus position) {number : Nat}
    (since : start ≤ number) (wanted : bus.isWanted handler number)
    (absent : number ∉ Deed.takenUp deeds) :
    (∃ stood size next fate, .read stood size next fate ∈ deeds ∧ bus.capacity < size - stood ∧
      stood ≤ number ∧ number < next) ∨ position ≤ number := by
  rcases Nat.lt_or_ge number position with behind | ahead
  · left
    have passed : Deed.passedOver deeds number := by
      by_contra kept
      refine absent (reads.inOrder ▸ List.mem_filter.mpr ⟨List.mem_range'_1.mpr ?_, ?_⟩)
      · omega
      · rw [wanted, Bool.true_and, Bool.not_eq_true']
        simpa using kept
    obtain ⟨deed, listed, passes⟩ := List.any_eq_true.mp passed
    cases deed with
    | read stood size next fate =>
      obtain ⟨from_stood, below⟩ := Bool.and_eq_true_iff.mp passes
      have from_stood := of_decide_eq_true from_stood
      have below := of_decide_eq_true below
      have place := (reads.lagging stood size next fate listed).2.2
      refine ⟨stood, size, next, fate, listed, ?_, from_stood, below⟩
      by_contra close
      rw [if_neg close] at place
      omega
    | _ => exact absurd passes Bool.false_ne_true
  · exact .inr ahead

/-- The numbers up to a message that is read: those behind the position, those in between, and its
own. -/
theorem range'_of_read {number : Nat} (began : start ≤ position) (ahead : position ≤ number) :
    List.range' start (number + 1 - start) = List.range' start (position - start) ++
      (List.range' position (number - position) ++ [number]) := by
  rw [show number + 1 - start = position - start + (number - position + 1) by omega,
    ← List.range'_append_1, List.range'_concat, Nat.one_mul,
    show start + (position - start) = position by omega,
    show position + (number - position) = number by omega]

/-- With a reading, what lies between the position and the message that is read is passed over, and
nothing else that was not. -/
theorem filter_read (reads : Reads handler start deeds bus position) {number : Nat}
    (ahead : position ≤ number) (size : Nat) (fate : Fate) :
    ((List.range' start (number + 1 - start)).filter fun other =>
        bus.isWanted handler other &&
          !Deed.passedOver (deeds ++ [.read position size number fate]) other) =
      Deed.takenUp deeds ++ if bus.isWanted handler number then [number] else [] := by
  have earlier : ((List.range' start (position - start)).filter fun other =>
      bus.isWanted handler other &&
        !Deed.passedOver (deeds ++ [.read position size number fate]) other) =
      Deed.takenUp deeds := by
    have began := reads.began
    rw [reads.inOrder]
    refine List.filter_congr fun other listed => ?_
    have before := (List.mem_range'_1.mp listed).2
    rw [Deed.passedOver_concat, Deed.passesOver, decide_eq_false (by omega), Bool.false_and,
      Bool.or_false]
  have between : ((List.range' position (number - position)).filter fun other =>
      bus.isWanted handler other &&
        !Deed.passedOver (deeds ++ [.read position size number fate]) other) = [] := by
    refine List.filter_eq_nil_iff.mpr fun other listed => ?_
    have inside := List.mem_range'_1.mp listed
    rw [Deed.passedOver_concat, Deed.passesOver, decide_eq_true inside.1,
      decide_eq_true (show other < number by omega), Bool.true_and, Bool.or_true, Bool.not_true,
      Bool.and_false]
    exact Bool.false_ne_true
  have here : Deed.passedOver (deeds ++ [.read position size number fate]) number = false := by
    rw [Deed.passedOver_concat, reads.not_passedOver ahead, Deed.passesOver,
      decide_eq_false (Nat.lt_irrefl number), Bool.and_false, Bool.or_false]
  rw [range'_of_read reads.began ahead, List.filter_append, List.filter_append, earlier, between,
    List.nil_append, List.filter_singleton, here, Bool.not_false, Bool.and_true,
    Bool.cond_eq_ite]

/-- The next message is taken up if it is wanted, and those in front of it are passed over. -/
theorem read {message : Message} {next : Nat} {fate : Fate}
    (reads : Reads handler start deeds bus position)
    (found : bus.read? position = some (message, next))
    (taken : fate = .ignored ↔ handler.wants message.topic = false) :
    Reads handler start (deeds ++ [.read position bus.size (next - 1) fate]) bus next := by
  obtain ⟨place, listed⟩ := Bus.read?_eq_some found
  obtain ⟨number, rfl⟩ : ∃ number, next = number + 1 := ⟨_, place⟩
  rw [Nat.add_sub_cancel] at listed ⊢
  have oldest : number = max position bus.oldest := Nat.succ.inj place
  have kept : number < bus.size := (Array.getElem?_eq_some_iff.mp listed).1
  have began := reads.began
  refine ⟨by omega, kept, ?_, ?_⟩
  · have wanted : bus.isWanted handler number = handler.wants message.topic := by
      rw [Bus.isWanted, listed, Option.any_some]
    rw [reads.filter_read (by omega), wanted, Deed.takenUp_concat, Deed.takesUp?]
    cases wants : handler.wants message.topic with
    | true =>
      rw [if_neg fun ignored => Bool.noConfusion (wants.symm.trans (taken.mp ignored))]
      rfl
    | false =>
      rw [if_pos (taken.mpr wants)]
      rfl
  · intro stood size other fate listed
    rcases List.mem_append.mp listed with early | last
    · obtain ⟨shorter, behind, same⟩ := reads.lagging stood size other fate early
      exact ⟨shorter, by omega, same⟩
    · obtain ⟨rfl, rfl, rfl, rfl⟩ := Deed.read.inj (List.mem_singleton.mp last)
      refine ⟨Nat.le_refl _, Nat.lt_succ_self _, ?_⟩
      rw [Bus.oldest] at oldest
      split <;> omega

end Reads

end Parley
