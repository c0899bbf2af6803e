import Mathlib.Logic.Function.Basic
import Parley.Moderation.Screening
import Parley.Proofs.Store.Counters
import Parley.Proofs.Uuid

/-!
# The standing of a sender

Screening goes by the standing of a sender: the time, the open windows of the sender's counters, and
the sender's bans. The standings of all senders lie in the same tables, but no key of one sender is
a key of another, so a table can be read as one standing for each sender.
-/

namespace Parley

/-- A ban up to its identifier. -/
def Ban.unnamed (ban : Ban) : Ban := { ban with id := default }

namespace Moderation

open Calendar (Instant)

/-- The counters that are kept for a sender. Contents are counted by their digest. -/
inductive CounterName where
  | burst
  | duplicates (digest : String)
  | violations
  deriving DecidableEq

namespace CounterName

def key (sender : Uuid) : CounterName → String
  | burst => Rules.burstKey sender
  | duplicates digest => "chat:spam:dup:" ++ toString sender ++ ":" ++ digest
  | violations => Rules.violationKey sender

/-- What stands before the sender in a key. -/
def label : CounterName → String
  | burst => "chat:spam:burst:"
  | duplicates _ => "chat:spam:dup:"
  | violations => "chat:violations:"

/-- What stands behind the sender in a key. -/
def ending : CounterName → String
  | duplicates digest => ":" ++ digest
  | burst | violations => ""

theorem key_eq (sender : Uuid) (name : CounterName) :
    name.key sender = name.label ++ (toString sender ++ name.ending) := by
  cases name with
  | burst => rw [ending, String.append_empty]; rfl
  | duplicates digest =>
    change "chat:spam:dup:" ++ toString sender ++ ":" ++ digest =
      "chat:spam:dup:" ++ (toString sender ++ (":" ++ digest))
    rw [String.append_assoc, String.append_assoc]
  | violations => rw [ending, String.append_empty]; rfl

def labels : List String := ["chat:spam:burst:", "chat:spam:dup:", "chat:violations:"]

theorem label_mem (name : CounterName) : name.label ∈ labels := by
  cases name <;> simp [label, labels]

/-- The labels differ in their first eleven characters. -/
theorem eq_of_take_label : ∀ a ∈ labels, ∀ b ∈ labels,
    a.toList.take 11 = b.toList.take 11 → a = b := by
  decide

theorem length_label : ∀ a ∈ labels, 11 ≤ a.toList.length := by
  decide

theorem eq_of_label {name other : CounterName} (label_eq : name.label = other.label)
    (ending_eq : name.ending = other.ending) : name = other := by
  cases name <;> cases other <;> simp_all [label, ending]

/-- A key tells whose counter it is, and which one. -/
theorem key_injective {sender sender' : Uuid} {name other : CounterName}
    (h : name.key sender = other.key sender') : sender = sender' ∧ name = other := by
  rw [key_eq, key_eq] at h
  have chars := congrArg String.toList h
  rw [String.toList_append, String.toList_append, String.toList_append, String.toList_append,
    Uuid.toList_toString sender, Uuid.toList_toString sender'] at chars
  have label_eq : name.label = other.label := by
    have first := congrArg (List.take 11) chars
    rw [List.take_append_of_le_length (length_label _ (label_mem name)),
      List.take_append_of_le_length (length_label _ (label_mem other))] at first
    exact eq_of_take_label _ (label_mem name) _ (label_mem other) first
  rw [label_eq] at chars
  have lengths : sender.toChars.length = sender'.toChars.length := by
    rw [Uuid.length_toChars, Uuid.length_toChars]
  obtain ⟨senders, endings⟩ := List.append_inj (List.append_cancel_left chars) lengths
  exact ⟨Uuid.toChars_injective senders, eq_of_label label_eq (String.toList_injective endings)⟩

/-- Counters of different names have different keys, whosever they are. -/
theorem key_ne_of_ne {sender sender' : Uuid} {name other : CounterName} (h : name ≠ other) :
    name.key sender ≠ other.key sender' :=
  fun same => h (key_injective same).2

theorem burstKey_ne_duplicateKey (sender actor : Uuid) (content : String) :
    Rules.burstKey sender ≠ Rules.duplicateKey actor content :=
  key_ne_of_ne (show burst ≠ duplicates (Digest.Sha256.hex content) by simp)

theorem violationKey_ne_burstKey (sender actor : Uuid) :
    Rules.violationKey sender ≠ Rules.burstKey actor :=
  key_ne_of_ne (show violations ≠ burst by simp)

theorem violationKey_ne_duplicateKey (sender actor : Uuid) (content : String) :
    Rules.violationKey sender ≠ Rules.duplicateKey actor content :=
  key_ne_of_ne (show violations ≠ duplicates (Digest.Sha256.hex content) by simp)

end CounterName

/-- What screening goes by for one sender. -/
@[ext] structure Standing where
  clock : Nat
  /-- What the monotonic clock read when the clock stood at zero. -/
  uptime : Nat
  windows : CounterName → Option Window
  bans : List Ban

namespace Standing

/-- What the monotonic clock reads. -/
def reading (standing : Standing) : Nat := standing.uptime + standing.clock

/-- Some time later the windows that have closed are gone. -/
def later (standing : Standing) (time : Nat) : Standing :=
  { standing with
    clock := time
    windows := fun name => (standing.windows name).filter (·.isOpen time) }

/-- Sets or drops one window. A window that closes at once is none. -/
def withWindow (standing : Standing) (name : CounterName) (window? : Option Window) : Standing :=
  { standing with
    windows := Function.update standing.windows name
      (window?.filter (·.isOpen standing.clock)) }

theorem windows_withWindow (standing : Standing) (name other : CounterName)
    (window? : Option Window) : (standing.withWindow name window?).windows other =
      if other = name then window?.filter (·.isOpen standing.clock) else standing.windows other :=
  Function.update_apply ..

theorem later_later {standing : Standing} {time time' : Nat} (h : time ≤ time') :
    (standing.later time).later time' = standing.later time' := by
  refine Standing.ext rfl rfl (funext fun name => ?_) rfl
  simp only [later, Option.filter_filter]
  congr 1
  funext window
  cases isOpen : window.isOpen time' with
  | true => rw [Window.isOpen_of_le h isOpen]; rfl
  | false => rw [Bool.and_false]

end Standing

/-- The standing of a sender in a world. -/
def standingOf (sender : Uuid) (world : World) : Standing where
  clock := world.clock
  uptime := world.uptime
  windows name := world.counters.window? world.clock (name.key sender)
  bans := (world.store.bans.filter (·.characterId == sender)).map Ban.unnamed

variable {sender other : Uuid} {world : World} {name : CounterName} {counters : Counters}

theorem standingOf_later {time : Nat} (h : world.clock ≤ time) :
    standingOf sender { world with clock := time } = (standingOf sender world).later time :=
  Standing.ext rfl rfl (funext fun _ => Counters.window?_of_le h) rfl

/-- A standing changes in one window when the counters change under its key. -/
theorem standingOf_withWindow {window? : Option Window}
    (own : counters.window? world.clock (name.key sender) =
      window?.filter (·.isOpen world.clock))
    (rest : ∀ key, name.key sender ≠ key →
      counters.window? world.clock key = world.counters.window? world.clock key) :
    standingOf sender { world with counters } =
      (standingOf sender world).withWindow name window? := by
  refine Standing.ext rfl rfl (funext fun n => ?_) rfl
  rw [Standing.windows_withWindow]
  by_cases h : n = name
  · rw [if_pos h, h]
    exact own
  · rw [if_neg h]
    exact rest _ fun same => h (CounterName.key_injective same).2.symm

/-- The counters of one sender are nothing to another. -/
theorem standingOf_of_ne (h : sender ≠ other)
    (rest : ∀ key, name.key sender ≠ key →
      counters.window? world.clock key = world.counters.window? world.clock key) :
    standingOf other { world with counters } = standingOf other world := by
  refine Standing.ext rfl rfl (funext fun n => rest _ ?_) rfl
  exact fun same => h (CounterName.key_injective same).1

open Store in
theorem newest?_map {α β : Type} {createdAt : α → Instant} {createdAt' : β → Instant} {f : α → β}
    (kept : ∀ row, createdAt' (f row) = createdAt row) (rows : List α) :
    newest? createdAt' (rows.map f) = (newest? createdAt rows).map f := by
  induction rows with
  | nil => rfl
  | cons row rows ih =>
    rw [List.map_cons, newest?, newest?, ih]
    cases newest? createdAt rows with
    | none => rfl
    | some best =>
      simp only [Option.map_some, kept]
      split <;> rfl

/-- The newest ban in force in exactly this channel, or everywhere. -/
def Standing.activeBan? (standing : Standing) (channel : Option Uuid) (now : Instant) :
    Option Ban :=
  Store.newest? Ban.createdAt
    (standing.bans.filter fun ban => ban.appliesTo channel && ban.inForceAt now)

theorem activeBan?_standingOf (sender : Uuid) (world : World) (channel : Option Uuid)
    (now : Instant) : (standingOf sender world).activeBan? channel now =
      (world.store.activeBan? sender channel now).map Ban.unnamed := by
  have bans : (standingOf sender world).bans.filter
      (fun ban => ban.appliesTo channel && ban.inForceAt now) =
      (world.store.bans.filter fun ban =>
        ban.characterId == sender && ban.appliesTo channel && ban.inForceAt now).map
          Ban.unnamed := by
    rw [standingOf, List.filter_map, List.filter_filter]
    congr 1
    refine List.filter_congr fun ban _ => ?_
    exact (Bool.and_comm _ _).trans (Bool.and_assoc _ _ _).symm
  rw [Standing.activeBan?, bans]
  exact newest?_map (fun _ => rfl) _

end Moderation

end Parley
