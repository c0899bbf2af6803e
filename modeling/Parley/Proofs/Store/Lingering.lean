import Mathlib.Logic.Function.Basic
import Parley.Proofs.Flow.Trace

/-!
# Counters that linger

A register forgets every window at the moment at which it closes. Counters in memory linger for a
while after their deadline, and are to be told from a register by nothing that is answered. They are
so in a run exactly if every deadline is timely: none is set for a counter that lingers, which would
bring it back, and none that the clock does not reach.
-/

namespace Parley

/-- What is done with the counters of a world; in between, time passes. -/
inductive Use where
  | wait (ms : Nat)
  | increment (key : String)
  | expire (key : String) (ttl : Nat)
  | count (key : String) (window : Nat)
  | read (key : String)
  | delete (key : String)
  | purge
  deriving DecidableEq, Repr

namespace Use

/-- The number that is answered, if one is. -/
def value (world : World) : Use → Option Int
  | increment key => ((Action.increment key).perform world).1.toOption
  | count key window => ((Action.countInWindow key window).perform world).1.toOption
  | read key => ((Action.readCounter key).perform world).1.toOption.join
  | wait _ | expire .. | delete _ | purge => none

def after (world : World) : Use → World
  | wait ms => { world with clock := world.clock + ms }
  | increment key => ((Action.increment key).perform world).2
  | expire key ttl => ((Action.expire key ttl).perform world).2
  | count key window => ((Action.countInWindow key window).perform world).2
  | read key => ((Action.readCounter key).perform world).2
  | delete key => ((Action.deleteCounter key).perform world).2
  | purge => { world with counters := world.counters.sweep world.clock }

/-- The numbers that are answered in a run, one place for each use. -/
def answers : List Use → World → List (Option Int)
  | [], _ => []
  | use :: rest, world => use.value world :: answers rest (use.after world)

/-- The world that a run leads to. -/
def run (uses : List Use) (world : World) : World := uses.foldl after world

def setsDeadline : Use → Bool
  | expire .. | count .. => true
  | _ => false

/-- A deadline is set for no counter that lingers, unless it has passed at once or cannot be set at
all; and for the others it is one that the clock reaches. -/
def Timely (world : World) : Use → Prop
  | expire key ttl => ∀ counter ∈ world.counters.find? key,
    if counter.isLive world.clock then Counters.isReachable world.reading ttl = true
    else ttl = 0 ∨ ¬ Counters.isReachable world.reading ttl = true
  | count key window => (Window.raised (world.counters.window? world.clock key)).count = 1 →
    Counters.isReachable world.reading window = true
  | _ => True

/-- Every use of a run is timely when its turn comes. -/
def AllTimely : List Use → World → Prop
  | [], _ => True
  | use :: rest, world => use.Timely world ∧ AllTimely rest (use.after world)

end Use

/-- A store of windows that forgets each of them at the moment at which it closes. -/
@[ext] structure Register where
  clock : Nat := 0
  window? : String → Option Window := fun _ => none

namespace Register

variable (register : Register)

/-- Writes the window of a key, if it is open. -/
def put (key : String) (window? : Option Window) : Register :=
  { register with
    window? := Function.update register.window? key (window?.filter (·.isOpen register.clock)) }

def wait (ms : Nat) : Register where
  clock := register.clock + ms
  window? key := (register.window? key).filter (·.isOpen (register.clock + ms))

def raise (key : String) : Register :=
  register.put key (some (Window.raised (register.window? key)))

/-- Sets when the window of a key closes, if there is one. -/
def expire (key : String) (ttl : Nat) : Register :=
  register.put key ((register.window? key).map fun window =>
    { window with closes := some (register.clock + ttl) })

def value : Use → Option Int
  | .increment key | .count key _ => some (Window.raised (register.window? key)).count
  | .read key => (register.window? key).map Window.count
  | .wait _ | .expire .. | .delete _ | .purge => none

def after : Use → Register
  | .wait ms => register.wait ms
  | .increment key => register.raise key
  | .expire key ttl => register.expire key ttl
  | .count key window =>
    if (Window.raised (register.window? key)).count = 1 then (register.raise key).expire key window
    else register.raise key
  | .delete key => register.put key none
  | .read _ | .purge => register

/-- The numbers that are answered in a run, one place for each use. -/
def answers : List Use → Register → List (Option Int)
  | [], _ => []
  | use :: rest, register => register.value use :: answers rest (register.after use)

/-- The register of the counters of a world: those that linger are not in it. -/
def ofWorld (world : World) : Register := ⟨world.clock, world.counters.window? world.clock⟩

variable {register}

theorem window?_put_self {window? : Option Window} {key : String} :
    (register.put key window?).window? key = window?.filter (·.isOpen register.clock) :=
  Function.update_self ..

theorem window?_put_of_ne {window? : Option Window} {key other : String} (h : key ≠ other) :
    (register.put key window?).window? other = register.window? other :=
  Function.update_of_ne h.symm ..

theorem put_put {former window? : Option Window} {key : String} :
    (register.put key former).put key window? = register.put key window? :=
  Register.ext rfl (Function.update_idem ..)

section OfWorld

variable {world after : World} {key : String} {ttl : Nat}

theorem ofWorld_window? :
    (ofWorld world).window? key = world.counters.window? world.clock key := rfl

theorem ofWorld_eq_put {window? : Option Window} (clock : after.clock = world.clock)
    (own : after.counters.window? world.clock key = window?.filter (·.isOpen world.clock))
    (others : ∀ other, key ≠ other →
      after.counters.window? world.clock other = world.counters.window? world.clock other) :
    ofWorld after = (ofWorld world).put key window? := by
  refine Register.ext clock (funext fun other => ?_)
  rw [ofWorld_window?, clock]
  by_cases same : key = other
  · subst same
    rw [window?_put_self]
    exact own
  · rw [window?_put_of_ne same]
    exact others other same

theorem ofWorld_wait (ms : Nat) :
    ofWorld { world with clock := world.clock + ms } = (ofWorld world).wait ms :=
  Register.ext rfl (funext fun _ => Counters.window?_of_le (Nat.le_add_right _ _))

theorem ofWorld_increment (distinct : world.counters.Distinct) :
    ofWorld { world with counters := (world.counters.increment world.clock key).2 } =
      (ofWorld world).raise key :=
  ofWorld_eq_put rfl ((Counters.window?_increment_self distinct).trans Counters.filter_raised.symm)
    fun _ => Counters.window?_increment_of_ne distinct

/-- A deadline that is set for a live counter closes its window. -/
theorem ofWorld_expire_of_window? {window : Window}
    (isOpen : world.counters.window? world.clock key = some window) :
    ofWorld { world with counters := world.counters.expire world.clock key ttl } =
      (ofWorld world).expire key ttl := by
  refine ofWorld_eq_put rfl ?_ fun _ => Counters.window?_expire_of_ne
  rw [ofWorld_window?, isOpen]
  exact Counters.window?_expire_self isOpen

theorem expire_of_none (closed : (ofWorld world).window? key = none) :
    (ofWorld world).expire key ttl = ofWorld world := by
  refine Register.ext rfl ?_
  dsimp only [expire, put]
  rw [closed, Option.map_none, Option.filter_none, ← closed, Function.update_eq_self]

/-- A deadline that has passed at once brings no counter back. -/
theorem ofWorld_expire_of_find? {counter : Counter}
    (found : world.counters.find? key = some counter)
    (lapsed : counter.isLive world.clock = false) :
    ofWorld { world with counters := world.counters.expire world.clock key 0 } =
      (ofWorld world).expire key 0 := by
  have closed : (ofWorld world).window? key = none := by
    rw [ofWorld_window?, Counters.window?_of_found found, if_neg (by simp [lapsed])]
  refine ofWorld_eq_put rfl ?_ fun _ => Counters.window?_expire_of_ne
  dsimp only
  rw [closed, Counters.window?_expire_of_find? found]
  simp [Window.isOpen]

end OfWorld

/-- The open windows close at times that the clock reaches. -/
def Near (uptime : Nat) (register : Register) : Prop :=
  ∀ key, ∀ window ∈ register.window? key, ∀ t ∈ window.closes,
    Counters.isReachable uptime t = true

variable {uptime : Nat} {key : String} {ttl : Nat}

theorem Near.wait (near : register.Near uptime) (ms : Nat) : (register.wait ms).Near uptime :=
  fun key window isOpen => near key window (Option.filter_eq_some_iff.mp isOpen).1

theorem Near.put (near : register.Near uptime) {window? : Option Window}
    (written : ∀ window ∈ window?, ∀ t ∈ window.closes, Counters.isReachable uptime t = true) :
    (register.put key window?).Near uptime := by
  intro other window isOpen
  by_cases same : other = key
  · subst same
    rw [window?_put_self] at isOpen
    exact written window (Option.filter_eq_some_iff.mp isOpen).1
  · rw [window?_put_of_ne (Ne.symm same)] at isOpen
    exact near other window isOpen

theorem Near.raise (near : register.Near uptime) : (register.raise key).Near uptime := by
  refine near.put fun window raised => ?_
  cases before : register.window? key with
  | none =>
    rw [before] at raised
    obtain rfl : Window.raised none = window := Option.some.inj raised
    intro t closes
    cases closes
  | some former =>
    rw [before] at raised
    obtain rfl : Window.raised (some former) = window := Option.some.inj raised
    exact near key former before

theorem Near.expire (near : register.Near uptime)
    (reachable : ∀ window ∈ register.window? key,
      Counters.isReachable (uptime + register.clock) ttl = true) :
    (register.expire key ttl).Near uptime := by
  refine near.put fun window changed => ?_
  obtain ⟨former, isOpen, rfl⟩ := Option.map_eq_some_iff.mp changed
  intro t closes
  obtain rfl : register.clock + ttl = t := Option.some.inj closes
  exact Counters.isReachable_of_le (Nat.le_of_eq (Nat.add_assoc ..).symm) (reachable former isOpen)

end Register

namespace Use

open Register (ofWorld)

variable {world : World} {use : Use}

theorem distinct_after (use : Use) (distinct : world.counters.Distinct) :
    (use.after world).counters.Distinct := by
  cases use with
  | wait ms => exact distinct
  | increment key => exact Counters.increment_distinct distinct
  | expire key ttl =>
    rw [after, Action.perform_expire]
    split
    · exact Counters.expire_distinct distinct
    · exact distinct
  | count key window =>
    rw [after, Action.perform_countInWindow]
    split
    · split
      · exact Counters.expire_distinct (Counters.increment_distinct distinct)
      · exact Counters.increment_distinct distinct
    · exact Counters.increment_distinct distinct
  | read key => exact Counters.read_distinct distinct
  | delete key => exact Counters.delete_distinct distinct
  | purge => exact Table.nodup_filter distinct _

theorem uptime_after (use : Use) : (use.after world).uptime = world.uptime := by
  cases use with
  | wait | purge => rfl
  | _ => exact Action.uptime_perform _ world

/-- A timely use is answered as the register of the counters answers it. -/
theorem value_ofWorld (distinct : world.counters.Distinct) (timely : use.Timely world) :
    use.value world = (ofWorld world).value use := by
  cases use with
  | increment key => exact congrArg some (Counters.increment_value distinct)
  | count key window =>
    rw [value, Action.perform_countInWindow, Counters.increment_value distinct]
    rw [Register.value, Register.ofWorld_window?]
    split
    · next first => rw [if_pos (timely first), first]; rfl
    · rfl
  | read key => exact Counters.read_value
  | _ => rfl

theorem ofWorld_after_expire {key : String} {ttl : Nat} (timely : (expire key ttl).Timely world) :
    ofWorld ((expire key ttl).after world) = (ofWorld world).expire key ttl := by
  rw [after, Action.perform_expire]
  cases found : world.counters.find? key with
  | none =>
    have closed : (ofWorld world).window? key = none := Counters.window?_of_missing found
    have nothing : world.counters.expire world.clock key ttl = world.counters := by
      rw [Counters.expire, Table.modify_of_none]
      rw [Table.modify, show Table.find? Counter.key key world.counters.entries = none from found]
    rw [Register.expire_of_none closed, nothing]
    rfl
  | some counter =>
    have bound := timely counter found
    have own : (ofWorld world).window? key = _ := Counters.window?_of_found found
    rw [Option.isNone_some, Bool.false_or]
    cases live : counter.isLive world.clock with
    | true =>
      rw [if_pos live] at bound own
      rw [if_pos bound]
      exact Register.ofWorld_expire_of_window? own
    | false =>
      rw [if_neg (by simp [live])] at bound own
      by_cases reachable : Counters.isReachable world.reading ttl = true
      · obtain rfl : ttl = 0 := bound.resolve_right (not_not_intro reachable)
        rw [if_pos reachable]
        exact Register.ofWorld_expire_of_find? found live
      · rw [if_neg reachable, Register.expire_of_none own]

/-- A timely use does to the register of the counters what it does to a register. -/
theorem ofWorld_after (distinct : world.counters.Distinct) (timely : use.Timely world) :
    ofWorld (use.after world) = (ofWorld world).after use := by
  cases use with
  | wait ms => exact Register.ofWorld_wait ms
  | increment key => exact Register.ofWorld_increment distinct
  | expire key ttl => exact ofWorld_after_expire timely
  | count key window =>
    have raised : ofWorld { world with counters := (world.counters.increment world.clock key).2 } =
        (ofWorld world).raise key := Register.ofWorld_increment distinct
    rw [after, Action.perform_countInWindow, Counters.increment_value distinct, Register.after,
      Register.ofWorld_window?, ← raised]
    by_cases first : (Window.raised (world.counters.window? world.clock key)).count = 1
    · rw [if_pos first, if_pos first, if_pos (timely first)]
      let counted : World :=
        { world with counters := (world.counters.increment world.clock key).2 }
      have isOpen : counted.counters.window? counted.clock key = some _ :=
        Counters.window?_increment_self distinct
      exact Register.ofWorld_expire_of_window? isOpen
    · rw [if_neg first, if_neg first]
  | read key => exact Register.ext rfl (funext fun _ => Counters.window?_read distinct)
  | delete key =>
    exact Register.ofWorld_eq_put rfl Counters.window?_delete_self
      fun _ => Counters.window?_delete_of_ne distinct
  | purge => exact Register.ext rfl (funext fun _ => Counters.window?_sweep distinct)

variable {uses : List Use}

/-- A run of timely uses is answered as a register answers it. -/
theorem answers_eq_register (distinct : world.counters.Distinct) (timely : AllTimely uses world) :
    answers uses world = Register.answers uses (ofWorld world) := by
  induction uses generalizing world with
  | nil => rfl
  | cons use rest ih =>
    rw [answers, Register.answers, value_ofWorld distinct timely.1,
      ih (distinct_after use distinct) timely.2, ofWorld_after distinct timely.1]

theorem near_after (near : (ofWorld world).Near world.uptime) (timely : use.Timely world) :
    ((ofWorld world).after use).Near world.uptime := by
  cases use with
  | wait ms => exact near.wait ms
  | increment key => exact near.raise
  | expire key ttl =>
    refine near.expire fun window isOpen => ?_
    cases found : world.counters.find? key with
    | none =>
      rw [Register.ofWorld_window?, Counters.window?_of_missing found] at isOpen
      cases isOpen
    | some counter =>
      have bound := timely counter found
      rw [Register.ofWorld_window?, Counters.window?_of_found found] at isOpen
      split at isOpen
      · next live => rw [if_pos live] at bound; exact bound
      · cases isOpen
  | count key window =>
    rw [Register.after, Register.ofWorld_window?]
    split
    · next first => exact near.raise.expire fun _ _ => timely first
    · exact near.raise
  | read key => exact near
  | delete key => exact near.put fun _ written => absurd written.symm (Option.some_ne_none _)
  | purge => exact near

/-- A deadline that cannot be set leaves a counter to close as it would have closed. -/
theorem answers_expire_of_unreachable {key : String} {ttl : Nat} {counter : Counter}
    (distinct : world.counters.Distinct) (found : world.counters.find? key = some counter)
    (live : counter.isLive world.clock = true)
    (unreachable : ¬ Counters.isReachable world.reading ttl = true) (ms : Nat) :
    answers [expire key ttl, wait ms, read key] world =
      [none, none, if counter.isLive (world.clock + ms) then some counter.value else none] := by
  have own : (ofWorld world).window? key = some counter.window := by
    rw [Register.ofWorld_window?, Counters.window?_of_found found, if_pos live]
  have still : (expire key ttl).after world = world := by
    rw [after, Action.perform_expire, found, Option.isNone_some, Bool.false_or, if_neg unreachable]
  have late : value ((wait ms).after world) (read key) =
      (Register.ofWorld ((wait ms).after world)).value (read key) :=
    value_ofWorld distinct trivial
  rw [answers, answers, answers, answers, still, late, after, Register.ofWorld_wait]
  change [none, none, (((ofWorld world).window? key).filter
    (·.isOpen (world.clock + ms))).map Window.count] = _
  rw [own, Option.filter_some, Counter.isOpen_window]
  split <;> rfl

/-- In a register every deadline is set. -/
theorem answers_expire_register {register : Register} {key : String} {ttl : Nat} {window : Window}
    (own : register.window? key = some window) (ms : Nat) :
    Register.answers [expire key ttl, wait ms, read key] register =
      [none, none, if ms < ttl then some window.count else none] := by
  change [none, none, (((register.expire key ttl).window? key).filter
    (·.isOpen (register.clock + ms))).map Window.count] = _
  rw [Register.expire, Register.window?_put_self, own, Option.filter_filter, Option.map_some,
    Option.filter_some]
  by_cases before : ms < ttl
  · rw [if_pos before, if_pos]
    · rfl
    · simp [Window.isOpen]
      omega
  · rw [if_neg before, if_neg]
    · rfl
    · simp [Window.isOpen]
      omega

/-- A deadline that cannot be set shows when the counter is read late enough: after the time at
which its window should have closed, or else after the earlier one at which it closes still. -/
theorem exists_probe_of_live {key : String} {ttl : Nat} {counter : Counter}
    (distinct : world.counters.Distinct) (near : (ofWorld world).Near world.uptime)
    (found : world.counters.find? key = some counter) (live : counter.isLive world.clock = true)
    (unreachable : ¬ Counters.isReachable world.reading ttl = true) :
    ∃ ms, answers [expire key ttl, wait ms, read key] world ≠
      Register.answers [expire key ttl, wait ms, read key] (ofWorld world) := by
  have own : (ofWorld world).window? key = some counter.window := by
    rw [Register.ofWorld_window?, Counters.window?_of_found found, if_pos live]
  have kept := answers_expire_of_unreachable distinct found live unreachable
  have moved (ms : Nat) : Register.answers [expire key ttl, wait ms, read key] (ofWorld world) =
      [none, none, if ms < ttl then some counter.value else none] :=
    answers_expire_register own ms
  cases closes : counter.deadline with
  | none =>
    refine ⟨ttl, ?_⟩
    have open_still : counter.isLive (world.clock + ttl) = true := by rw [Counter.isLive, closes]; rfl
    rw [kept, moved, if_pos open_still, if_neg (Nat.lt_irrefl ttl)]
    simp
  | some t =>
    have reachable : Counters.isReachable world.uptime t = true := near key _ own t closes
    have ahead : world.clock < t := by
      rw [Counter.isLive, closes] at live
      exact of_decide_eq_true live
    have lapsed : ¬ counter.isLive (world.clock + (t - world.clock)) = true := by
      rw [Counter.isLive, closes, Nat.add_sub_of_le (Nat.le_of_lt ahead)]
      simp
    have before : t - world.clock < ttl := by
      by_contra behind
      refine unreachable (Counters.isReachable_of_le ?_ reachable)
      rw [World.reading]
      omega
    refine ⟨t - world.clock, ?_⟩
    rw [kept, moved, if_neg lapsed, if_pos before]
    simp

/-- A counter that a new deadline brings back shows when it is read. -/
theorem answers_ne_of_lapsed {key : String} {ttl : Nat} {counter : Counter}
    (distinct : world.counters.Distinct) (found : world.counters.find? key = some counter)
    (lapsed : counter.isLive world.clock = false) (later : ttl ≠ 0)
    (reachable : Counters.isReachable world.reading ttl = true) :
    answers [expire key ttl, read key] world ≠
      Register.answers [expire key ttl, read key] (ofWorld world) := by
  have closed : (ofWorld world).window? key = none := by
    rw [Register.ofWorld_window?, Counters.window?_of_found found, if_neg (by simp [lapsed])]
  have revived : (ofWorld ((expire key ttl).after world)).window? key =
      some ⟨counter.value, some (world.clock + ttl)⟩ := by
    rw [after, Action.perform_expire, if_pos (by rw [reachable, Bool.or_true])]
    refine (Counters.window?_expire_of_find? found).trans ?_
    rw [Option.filter_some, if_pos]
    · rfl
    · simpa [Window.isOpen] using Nat.pos_of_ne_zero later
  have read_revived : value ((expire key ttl).after world) (read key) =
      (Register.ofWorld ((expire key ttl).after world)).value (read key) :=
    value_ofWorld (distinct_after _ distinct) trivial
  rw [answers, answers, answers, read_revived, Register.value, revived, Register.answers,
    Register.answers, Register.after, Register.expire_of_none closed, Register.value, closed]
  simp

/-- A count that opens a window which the clock does not reach the end of breaks off. -/
theorem value_count_of_untimely {key : String} {window : Nat}
    (distinct : world.counters.Distinct) (untimely : ¬ (count key window).Timely world) :
    (count key window).value world = none := by
  obtain ⟨first, unreachable⟩ := Classical.not_imp.mp untimely
  rw [value, Action.perform_countInWindow, Counters.increment_value distinct, if_pos first,
    if_neg unreachable]
  rfl

/-- A use that is not timely is told from that of a register, at once or by uses that set no
deadline. -/
theorem exists_probe (distinct : world.counters.Distinct) (near : (ofWorld world).Near world.uptime)
    (untimely : ¬ use.Timely world) :
    ∃ later : List Use, (∀ use ∈ later, use.setsDeadline = false) ∧
      answers (use :: later) world ≠ Register.answers (use :: later) (ofWorld world) := by
  cases use with
  | expire key ttl =>
    obtain ⟨counter, found, bound⟩ : ∃ counter, world.counters.find? key = some counter ∧
        ¬ if counter.isLive world.clock then Counters.isReachable world.reading ttl = true
          else ttl = 0 ∨ ¬ Counters.isReachable world.reading ttl = true := by
      simpa only [Timely, not_forall, Option.mem_def, exists_prop] using untimely
    cases live : counter.isLive world.clock with
    | true =>
      rw [if_pos live] at bound
      obtain ⟨ms, differ⟩ := exists_probe_of_live distinct near found live bound
      exact ⟨[wait ms, read key], by simp [setsDeadline], differ⟩
    | false =>
      rw [if_neg (by simp [live]), not_or, not_not] at bound
      exact ⟨[read key], by simp [setsDeadline],
        answers_ne_of_lapsed distinct found live bound.1 bound.2⟩
  | count key window =>
    refine ⟨[], nofun, fun same => ?_⟩
    have answered : (count key window).value world = some _ := (List.cons.inj same).1
    rw [value_count_of_untimely distinct untimely] at answered
    cases answered
  | _ => exact absurd trivial untimely

theorem timely_of_setsDeadline (h : use.setsDeadline = false) : use.Timely world := by
  cases use with
  | expire => cases h
  | count => cases h
  | _ => trivial

theorem allTimely_of_setsDeadline (h : ∀ use ∈ uses, use.setsDeadline = false) :
    AllTimely uses world := by
  induction uses generalizing world with
  | nil => trivial
  | cons use rest ih =>
    rw [List.forall_mem_cons] at h
    exact ⟨timely_of_setsDeadline h.1, ih h.2⟩

theorem allTimely_append {more : List Use} :
    AllTimely (uses ++ more) world ↔ AllTimely uses world ∧ AllTimely more (run uses world) := by
  induction uses generalizing world with
  | nil => exact (and_iff_right trivial).symm
  | cons use rest ih =>
    rw [List.cons_append, AllTimely, AllTimely, ih, and_assoc]
    rfl

/-- Whatever is done in the end without setting a deadline is answered after each part of a run as a
register answers it, exactly if every deadline of the run is timely. -/
theorem answers_eq_ofWorld_iff (distinct : world.counters.Distinct)
    (near : (ofWorld world).Near world.uptime) :
    (∀ before later, before <+: uses → (∀ use ∈ later, use.setsDeadline = false) →
      answers (before ++ later) world = Register.answers (before ++ later) (ofWorld world)) ↔
      AllTimely uses world := by
  constructor
  · intro agree
    induction uses generalizing world with
    | nil => trivial
    | cons use rest ih =>
      have timely : use.Timely world := by
        by_contra untimely
        obtain ⟨later, harmless, differ⟩ := exists_probe distinct near untimely
        exact differ (agree [use] later (List.prefix_append [use] rest) harmless)
      refine ⟨timely, ih (distinct_after use distinct) ?_ fun before later initial harmless => ?_⟩
      · rw [ofWorld_after distinct timely, uptime_after]
        exact near_after near timely
      · have whole := agree (use :: before) later
          (List.cons_prefix_cons.mpr ⟨rfl, initial⟩) harmless
        rw [ofWorld_after distinct timely]
        exact (List.cons.inj whole).2
  · rintro timely before later ⟨after, rfl⟩ harmless
    refine answers_eq_register distinct (allTimely_append.mpr ⟨?_, ?_⟩)
    · exact (allTimely_append.mp timely).1
    · exact allTimely_of_setsDeadline harmless

/-- Counters in memory are told from a register by nothing that is answered, whatever is done in the
end without setting a deadline, exactly if every deadline is timely. -/
theorem answers_eq_register_iff (uptime : Nat) (uses : List Use) :
    (∀ before later, before <+: uses → (∀ use ∈ later, use.setsDeadline = false) →
      answers (before ++ later) { uptime } = Register.answers (before ++ later) {}) ↔
      AllTimely uses { uptime } :=
  answers_eq_ofWorld_iff List.nodup_nil fun _ _ isOpen => nomatch isOpen

/-- A counter that lapsed and lingers is brought back by a new deadline. -/
theorem answers_of_revived :
    answers [increment "k", expire "k" 10, wait 20, expire "k" 1000, read "k"] {} =
        [some 1, none, none, none, some 1] ∧
      Register.answers [increment "k", expire "k" 10, wait 20, expire "k" 1000, read "k"] {} =
        [some 1, none, none, none, none] := by
  decide

end Use

end Parley
