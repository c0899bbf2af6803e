import Parley.Proofs.Moderation.Mirroring
import Parley.Proofs.Store.Newest

/-!
# Bans and their history

What a look-up of a ban answers follows from the journal of the run: it is a ban that some call gave
and no later call lifted. What one call does to the ban of one identifier carries this. Rows stay in
the store for ever, and all that changes in one is that it is lifted.
-/

namespace Parley.Moderation

open Calendar (Instant)

/-- A ban that a call gave and that no later call lifted. -/
def Outstanding (entries : List Entry) (ban : Ban) : Prop :=
  ∃ before entry later, entries = before ++ entry :: later ∧ ban ∈ entry.created ∧
    ∀ next ∈ later, next.call.operation ≠ .removeBan ban.id

/-- By the history, the ban keeps the actor from speaking in exactly this channel, or everywhere. -/
structure InForce (entries : List Entry) (actor : Uuid) (channel : Option Uuid) (now : Instant)
    (ban : Ban) : Prop where
  outstanding : Outstanding entries ban
  actor : ban.characterId = actor
  channel : ban.channelId = channel
  lasting : ∀ expiry ∈ ban.expiresAt, now < expiry

/-- One of the newest bans that there are of a kind, or none where there is none. -/
def IsNewest (kind : Ban → Prop) : Option Ban → Prop
  | none => ∀ ban, ¬ kind ban
  | some ban => kind ban ∧ ∀ other, kind other → other.createdAt ≤ ban.createdAt

/-- The ban is stored as it was given, and was not lifted. -/
structure Stands (world : World) (ban : Ban) : Prop where
  stored : world.store.ban? ban.id = some ban
  active : ban.isActive = true

variable {config : Config.Moderation} {world after : World} {operation : Operation} {left : Nat}
  {created : List Ban} {ban : Ban}

theorem ban?_lifted {id : Uuid}
    (bans : after.store.bans = (Table.modify Ban.id id lifted world.store.bans).2) (other : Uuid) :
    after.store.ban? other =
      if id = other then (world.store.ban? other).map lifted else world.store.ban? other := by
  have kept : ∀ row, (lifted row).id = row.id := fun row => rfl
  rw [Store.ban?, bans]
  split
  · next same =>
    subst same
    exact Table.find?_modify_self kept
  · next apart => exact Table.find?_modify_of_ne kept apart

theorem ban?_given {given : Ban} (bans : after.store.bans = Table.put Ban.id given world.store.bans)
    (other : Uuid) :
    after.store.ban? other = if given.id = other then some given else world.store.ban? other := by
  rw [Store.ban?, bans]
  split
  · next same =>
    subst same
    exact Table.find?_put_self given _
  · next apart => exact Table.find?_put_of_ne apart

/-- A row changes only by being lifted, unless a ban is given under its identifier. -/
theorem ban?_of_step (step : BanStep operation world created after) {id : Uuid}
    (fresh : world.supply (world.issued + 1) ≠ id) (stored : world.store.ban? id = some ban) :
    after.store.ban? id = some ban ∨
      operation = .removeBan id ∧ after.store.ban? id = some (lifted ban) := by
  cases step with
  | filed kept filed =>
    cases filed with
    | nothing spent issued bans =>
      left
      rw [Store.ban?, bans]
      exact stored
    | ban given named active issued bans =>
      left
      rw [ban?_given bans, if_neg (named ▸ fresh)]
      exact stored
  | lifted other removal issued bans =>
    rw [ban?_lifted bans]
    by_cases same : other = id
    · right
      rw [if_pos same, stored]
      exact ⟨same ▸ removal, rfl⟩
    · left
      rw [if_neg same]
      exact stored

/-- A ban that stands goes on standing until it is lifted. -/
theorem Stands.step (stands : Stands world ban) (step : BanStep operation world created after)
    (fresh : world.supply (world.issued + 1) ≠ ban.id) (kept : operation ≠ .removeBan ban.id) :
    Stands after ban := by
  rcases ban?_of_step step fresh stands.stored with stored | ⟨removal, _⟩
  · exact ⟨stored, stands.active⟩
  · exact absurd removal kept

theorem Stands.of_created (step : BanStep operation world created after) (given : ban ∈ created) :
    Stands after ban := by
  cases step with
  | filed kept filed =>
    cases filed with
    | nothing spent issued bans => exact absurd given List.not_mem_nil
    | ban other named active issued bans =>
      obtain rfl : ban = other := List.mem_singleton.mp given
      refine ⟨?_, active⟩
      rw [ban?_given bans, if_pos rfl]
  | lifted id removal issued bans => exact absurd given List.not_mem_nil

/-- What stands after a call was given by it, or stood before. -/
theorem Stands.of_step (step : BanStep operation world created after) (stands : Stands after ban) :
    ban ∈ created ∨ Stands world ban ∧ operation ≠ .removeBan ban.id := by
  cases step with
  | filed kept filed =>
    cases filed with
    | nothing spent issued bans =>
      have stored := stands.stored
      rw [Store.ban?, bans] at stored
      exact .inr ⟨⟨stored, stands.active⟩, kept ban.id⟩
    | ban given named active issued bans =>
      have stored := stands.stored
      rw [ban?_given bans] at stored
      split at stored
      · left
        rw [Option.some.inj stored]
        exact List.mem_singleton_self ban
      · exact .inr ⟨⟨stored, stands.active⟩, kept ban.id⟩
  | lifted id removal issued bans =>
    have stored := stands.stored
    rw [ban?_lifted bans] at stored
    split at stored
    · -- The row of a lifted ban is not active.
      obtain ⟨row, _, same⟩ := Option.map_eq_some_iff.mp stored
      have active := stands.active
      rw [← same] at active
      exact absurd active Bool.false_ne_true
    · next apart =>
      refine .inr ⟨⟨stored, stands.active⟩, ?_⟩
      rw [removal]
      intro same
      exact apart (Operation.removeBan.inj same)

theorem BanStep.issued (step : BanStep operation world created after) :
    after.issued ≤ world.issued + 1 ∧ world.issued ≤ after.issued := by
  cases step with
  | filed kept filed => cases filed <;> omega
  | lifted id removal issued bans => omega

/-- A call spends one identifier at most, and only a ban that it gives has it. -/
theorem Sound.banStep (sound : Sound (left + 1) world)
    (step : BanStep operation world created after) (supply : after.supply = world.supply)
    (counters : after.counters.Distinct) :
    Sound left after := by
  have issued := step.issued
  have within : ∀ row ∈ world.store.bans, ∃ i < after.issued, row.id = after.supply (i + 1) := by
    intro row listed
    obtain ⟨i, lt, named⟩ := sound.issued row listed
    exact ⟨i, by omega, supply ▸ named⟩
  refine ⟨?_, ?_, counters⟩
  · intro i hi j hj same
    rw [supply] at same
    exact sound.distinct i (by omega) j (by omega) same
  · intro row listed
    cases step with
    | filed kept filed =>
      cases filed with
      | nothing spent issued bans => exact within row (bans ▸ listed)
      | ban given named active next bans =>
        rw [bans] at listed
        rcases Table.mem_put listed with rfl | stored
        · exact ⟨world.issued, by omega, by rw [named, supply]⟩
        · exact within row stored
    | lifted id removal next bans =>
      rw [bans] at listed
      rcases Table.mem_modify listed with stored | ⟨other, stored, rfl⟩
      · exact within row stored
      · exact within other stored

theorem Sound.call (sound : Sound (left + 1) world) (call : Call) :
    Sound left (call.after (Rules.ofConfig config) world) :=
  sound.banStep (call.banStep world) (call.supply_after _ world)
    (distinct_perform _ _ sound.counters)

/-- The next identifier is not that of a stored ban. -/
theorem Sound.fresh_of_stored (sound : Sound (left + 1) world) {id : Uuid}
    (stored : world.store.ban? id = some ban) : world.supply (world.issued + 1) ≠ id := by
  intro same
  apply sound.fresh
  rw [same, ← Table.key_of_find? stored]
  exact List.mem_map_of_mem (Table.mem_of_find? stored)

theorem Sound.reached {calls : List Call} (sound : Sound (left + calls.length) world) :
    Sound left (reached (Rules.ofConfig config) calls world) := by
  induction calls generalizing world with
  | nil => exact sound
  | cons call calls ih =>
    rw [List.length_cons, ← Nat.add_assoc] at sound
    exact ih (sound.call call)

/-- A ban stands until it is lifted, if no ban is given under its identifier. -/
theorem Stands.reached {calls : List Call} (stands : Stands world ban)
    (fresh : ∀ i, world.issued < i → i ≤ world.issued + calls.length → world.supply i ≠ ban.id)
    (kept : ∀ call ∈ calls, call.operation ≠ .removeBan ban.id) :
    Stands (reached (Rules.ofConfig config) calls world) ban := by
  induction calls generalizing world with
  | nil => exact stands
  | cons call calls ih =>
    have step : BanStep call.operation world (call.created (Rules.ofConfig config) world)
        (call.after (Rules.ofConfig config) world) := call.banStep world
    obtain ⟨notThis, notLater⟩ := List.forall_mem_cons.mp kept
    rw [List.length_cons] at fresh
    apply ih (stands.step step (fresh _ (by omega) (by omega)) notThis) _ notLater
    intro i more less
    have issued := step.issued
    rw [call.supply_after]
    exact fresh i (by omega) (by omega)

theorem nodup_bans_reached (rules : Rules) (calls : List Call)
    (nodup : (world.store.bans.map Ban.id).Nodup) :
    ((reached rules calls world).store.bans.map Ban.id).Nodup := by
  induction calls generalizing world with
  | nil => exact nodup
  | cons call calls ih => exact ih (nodup_bans_perform _ (call.start world) nodup)

/-- A stored row stays in the store, as it is or lifted. -/
theorem ban?_reached {calls : List Call} (sound : Sound calls.length world) {id : Uuid}
    (stored : world.store.ban? id = some ban) :
    (reached (Rules.ofConfig config) calls world).store.ban? id = some ban ∨
      (reached (Rules.ofConfig config) calls world).store.ban? id = some (lifted ban) := by
  induction calls generalizing world ban with
  | nil => exact .inl stored
  | cons call calls ih =>
    have fresh := sound.fresh_of_stored stored
    have step : BanStep call.operation world (call.created (Rules.ofConfig config) world)
        (call.after (Rules.ofConfig config) world) := call.banStep world
    have later : Sound calls.length (call.after (Rules.ofConfig config) world) := sound.call call
    rcases ban?_of_step step fresh stored with same | ⟨_, gone⟩
    · exact ih later same
    · -- A ban that was lifted twice is as one that was lifted once.
      exact .inr ((ih later gone).elim (fun still => still) fun still => still)

theorem outstanding_cons {entry : Entry} {entries : List Entry} :
    Outstanding (entry :: entries) ban ↔ Outstanding entries ban ∨
      ban ∈ entry.created ∧ ∀ next ∈ entries, next.call.operation ≠ .removeBan ban.id := by
  constructor
  · rintro ⟨before, other, later, split, given, kept⟩
    cases before with
    | nil =>
      obtain ⟨rfl, rfl⟩ := List.cons.inj split
      exact .inr ⟨given, kept⟩
    | cons first before => exact .inl ⟨before, other, later, (List.cons.inj split).2, given, kept⟩
  · rintro (⟨before, other, later, rfl, given, kept⟩ | ⟨given, kept⟩)
    · exact ⟨entry :: before, other, later, rfl, given, kept⟩
    · exact ⟨[], entry, entries, rfl, given, kept⟩

/-- The bans that stand in the end are those that the history leaves outstanding, and those that
stood at the start and were not lifted. -/
theorem stands_reached_iff {calls : List Call} (sound : Sound calls.length world) :
    Stands (reached (Rules.ofConfig config) calls world) ban ↔
      Outstanding (journal (Rules.ofConfig config) calls world) ban ∨
      Stands world ban ∧ ∀ call ∈ calls, call.operation ≠ .removeBan ban.id := by
  induction calls generalizing world with
  | nil =>
    constructor
    · intro stands
      exact .inr ⟨stands, fun call listed => absurd listed List.not_mem_nil⟩
    · rintro (⟨before, entry, later, split, _⟩ | ⟨stands, _⟩)
      · exact absurd split.symm (List.append_ne_nil_of_right_ne_nil before (by simp))
      · exact stands
  | cons call calls ih =>
    have step : BanStep call.operation world (call.created (Rules.ofConfig config) world)
        (call.after (Rules.ofConfig config) world) := call.banStep world
    have later : Sound calls.length (call.after (Rules.ofConfig config) world) := sound.call call
    rw [reached, journal, outstanding_cons, ih later]
    have rest : (∀ next ∈ journal (Rules.ofConfig config) calls
          (call.after (Rules.ofConfig config) world), next.call.operation ≠ .removeBan ban.id) ↔
        ∀ next ∈ calls, next.operation ≠ .removeBan ban.id :=
      forall_journal (Rules.ofConfig config) (p := fun next => next.operation ≠ .removeBan ban.id)
    rw [rest, List.forall_mem_cons]
    constructor
    · rintro (outstanding | ⟨stands, kept⟩)
      · exact .inl (.inl outstanding)
      · rcases stands.of_step step with given | ⟨before, notThis⟩
        · exact .inl (.inr ⟨given, kept⟩)
        · exact .inr ⟨before, notThis, kept⟩
    · rintro ((outstanding | ⟨given, kept⟩) | ⟨stands, notThis, kept⟩)
      · exact .inl outstanding
      · exact .inr ⟨.of_created step given, kept⟩
      · have fresh := sound.fresh_of_stored stands.stored
        exact .inr ⟨stands.step step fresh notThis, kept⟩

theorem created_checkBan (actor : Uuid) (channel : Option Uuid) (world : World) :
    (checkBan actor channel).created world = [] := rfl

theorem mem_activeBans_iff (nodup : (world.store.bans.map Ban.id).Nodup) {actor : Uuid}
    {channel : Option Uuid} {now : Instant} :
    (ban ∈ world.store.bans.filter fun ban =>
      ban.characterId == actor && ban.appliesTo channel && ban.inForceAt now) ↔
    Stands world ban ∧ ban.characterId = actor ∧ ban.channelId = channel ∧
      ∀ expiry ∈ ban.expiresAt, now < expiry := by
  have lasting : (ban.expiresAt.map fun t => decide (now < t)).getD true = true ↔
      ∀ expiry ∈ ban.expiresAt, now < expiry := by
    cases ban.expiresAt <;> simp
  have stored : ban ∈ world.store.bans ↔ world.store.ban? ban.id = some ban :=
    Table.mem_iff_find?_eq_some nodup
  simp only [List.mem_filter, Bool.and_eq_true, beq_iff_eq, Ban.appliesTo, Ban.inForceAt, lasting,
    stored]
  constructor
  · rintro ⟨found, ⟨actor, channel⟩, active, expiry⟩
    exact ⟨⟨found, active⟩, actor, channel, expiry⟩
  · rintro ⟨⟨found, active⟩, actor, channel, expiry⟩
    exact ⟨found, ⟨actor, channel⟩, active, expiry⟩

/-- What a look-up chooses from are the bans that the history says to be in force. -/
theorem mem_activeBans_reached_iff {uptime : Nat} {supply : Nat → Uuid} {calls : List Call}
    (sound : Sound calls.length { uptime, supply }) {actor : Uuid} {channel : Option Uuid}
    {now : Instant} :
    (ban ∈ (reached (Rules.ofConfig config) calls { uptime, supply }).store.bans.filter fun ban =>
      ban.characterId == actor && ban.appliesTo channel && ban.inForceAt now) ↔
    InForce (journal (Rules.ofConfig config) calls { uptime, supply }) actor channel now ban := by
  have nodup :
      ((reached (Rules.ofConfig config) calls { uptime, supply }).store.bans.map Ban.id).Nodup :=
    nodup_bans_reached _ calls List.nodup_nil
  have nothing : ¬ Stands { uptime, supply } ban := by
    intro stands
    exact absurd stands.stored (by simp [Store.ban?, Table.find?])
  rw [mem_activeBans_iff nodup, stands_reached_iff sound]
  constructor
  · rintro ⟨outstanding | ⟨stands, _⟩, own, here, lasting⟩
    · exact ⟨outstanding, own, here, lasting⟩
    · exact absurd stands nothing
  · rintro ⟨outstanding, own, here, lasting⟩
    exact ⟨.inl outstanding, own, here, lasting⟩

theorem isNewest_newest? {rows : List Ban} {kind : Ban → Prop} (h : ∀ ban, ban ∈ rows ↔ kind ban) :
    IsNewest kind (Store.newest? Ban.createdAt rows) := by
  cases found : Store.newest? Ban.createdAt rows with
  | none =>
    intro ban ofKind
    rw [Store.newest?_eq_none_iff.mp found] at h
    exact absurd ((h ban).mpr ofKind) List.not_mem_nil
  | some ban =>
    refine ⟨(h ban).mp (Store.mem_of_newest? found), fun other ofKind => ?_⟩
    exact Store.le_newest? found other ((h other).mpr ofKind)

theorem checkBan_journal (config : Config.Moderation) (uptime : Nat) (supply : Nat → Uuid)
    (calls : List Call) (distinct : SuppliesDistinct supply calls.length) :
    let rules := Rules.ofConfig config
    let entries := journal rules calls { uptime, supply }
    (∀ actor channel time, ∃ found,
      ((checkBan actor channel).perform
        { reached rules calls { uptime, supply } with clock := time }).1 = .ok found ∧
      IsNewest (InForce entries actor channel (Instant.ofMillis time)) found) ∧
    (∀ before call rest, calls = before ++ call :: rest →
      ∀ ban ∈ call.created rules (reached rules before { uptime, supply }),
        Stands (reached rules (before ++ [call]) { uptime, supply }) ban) ∧
    (∀ before rest, calls = before ++ rest → ∀ id ban,
      (reached rules before { uptime, supply }).store.ban? id = some ban →
      (reached rules calls { uptime, supply }).store.ban? id = some ban ∨
      (reached rules calls { uptime, supply }).store.ban? id = some (lifted ban)) := by
  intro rules entries
  have sound : Sound calls.length { uptime, supply } := sound_of_suppliesDistinct distinct
  refine ⟨?_, ?_, ?_⟩
  · intro actor channel time
    exact ⟨_, rfl, isNewest_newest? fun ban => mem_activeBans_reached_iff sound⟩
  · rintro before call rest rfl ban given
    rw [reached_append]
    exact .of_created (call.banStep _) given
  · rintro before rest rfl id ban stored
    rw [List.length_append, Nat.add_comm] at sound
    rw [reached_append]
    exact ban?_reached sound.reached stored

/-- When a ban for ever is lifted, an older one of an hour is found. -/
theorem checkBan_journal_lifted :
    let rules := Rules.ofConfig {}
    let ban : Ban := {
      id := Uuid.ofSerial 1, characterId := ⟨1⟩, channelId := none, channelType := none
      reason := "noise", adminId := some ⟨9⟩, expiresAt := some (Instant.ofMillis 3600000)
      createdAt := Instant.ofMillis 0, isActive := true }
    let calls : List Call := [
      ⟨0, .createBan ⟨9⟩ ⟨⟨1⟩, none, none, "noise", some 1⟩⟩,
      ⟨1000, .createBan ⟨9⟩ ⟨⟨1⟩, none, none, "noise", some 0⟩⟩,
      ⟨2000, .removeBan (Uuid.ofSerial 2)⟩]
    SuppliesDistinct Uuid.ofSerial 3 ∧
    ((checkBan ⟨1⟩ none).perform { reached rules calls {} with clock := 3000 }).1 = .ok (some ban) ∧
    InForce (journal rules calls {}) ⟨1⟩ none (Instant.ofMillis 3000) ban := by
  intro rules ban calls
  have found : ((checkBan ⟨1⟩ none).perform { reached rules calls {} with clock := 3000 }).1 =
      .ok (some ban) := by decide +kernel
  refine ⟨by decide, found, ?_⟩
  obtain ⟨answer, answered, newest⟩ :=
    (checkBan_journal {} _ Uuid.ofSerial calls (by decide)).1 ⟨1⟩ none 3000
  obtain rfl : some ban = answer := Except.ok.inj (found.symm.trans answered)
  exact newest.1

end Parley.Moderation
