import Parley.Proofs.Moderation.Ledger

/-!
# Silence while a ban is in force

A ban that was not lifted refuses every message of its character in its channel, or everywhere,
until it expires, whatever else is called in between. Such a refusal changes nothing, so a run does
not tell whether it took place.
-/

namespace Parley.Moderation

open Calendar (Instant)

variable {rules : Rules} {world : World} {sender : Uuid} {scope : Option BanScope}
  {content : String} {ban : Ban}

/-- A message that was refused because of a ban. -/
inductive Entry.Refused : Entry → Prop
  | screen (time : Nat) (sender : Uuid) (scope : Option BanScope) (content : String) (given : Ban)
      (created : List Ban) :
      Refused ⟨⟨time, .screen sender scope content⟩, .ok (.banned given), created⟩

/-- What becomes of a message whose sender is not banned. -/
def weigh (rules : Rules) (sender : Uuid) (scope : Option BanScope) (content : String) :
    Action Verdict := do
  if ← detectSpam rules sender content then
    attempt (autoBanForSpam rules sender scope)
    pure .spam
  else
    let outcome ← filterMessage rules content
    if outcome.violation then attempt (recordViolation rules sender scope)
    pure (.accepted outcome.content outcome.violation)

theorem perform_screen (rules : Rules) (sender : Uuid) (scope : Option BanScope) (content : String)
    (world : World) : (screen rules sender scope content).perform world =
      match world.store.activeBan? sender (scope.map (·.channelId)) world.now with
      | some ban => (.ok (.banned ban), world)
      | none => (weigh rules sender scope content).perform world := by
  rw [screen, Action.perform_bind, perform_checkBan]
  cases world.store.activeBan? sender (scope.map (·.channelId)) world.now <;> rfl

theorem eq_of_perform_then_pure {α β : Type} {action : Action α} {a b : β}
    (h : ((action >>= fun _ => pure a).perform world).1 = .ok b) : b = a := by
  rw [Action.perform_bind] at h
  cases result : (action.perform world).1 with
  | error e => simp [result] at h
  | ok value =>
    rw [result] at h
    exact (Except.ok.inj h).symm

theorem weigh_ne_banned :
    ((weigh rules sender scope content).perform world).1 ≠ .ok (.banned ban) := by
  intro answered
  rw [weigh, Action.perform_bind] at answered
  cases result : ((detectSpam rules sender content).perform world).1 with
  | error e => simp [result] at answered
  | ok isSpam =>
    rw [result] at answered
    cases isSpam with
    | true => exact Verdict.noConfusion (eq_of_perform_then_pure answered)
    | false =>
      dsimp only at answered
      rw [if_neg Bool.false_ne_true, Action.perform_bind] at answered
      split at answered
      · split at answered
        · exact Verdict.noConfusion (eq_of_perform_then_pure answered)
        · exact Verdict.noConfusion (Except.ok.inj answered)
      · simp at answered

/-- A message is refused because of a ban before anything is counted. -/
theorem perform_screen_of_banned
    (h : ((screen rules sender scope content).perform world).1 = .ok (.banned ban)) :
    (screen rules sender scope content).perform world = (.ok (.banned ban), world) := by
  rw [perform_screen] at h ⊢
  cases found : world.store.activeBan? sender (scope.map (·.channelId)) world.now with
  | some given =>
    rw [found] at h
    exact Prod.ext h rfl
  | none =>
    rw [found] at h
    exact absurd h weigh_ne_banned

theorem Entry.Refused.after_eq {call : Call} (refused : (call.entry rules world).Refused) :
    call.after rules world = { world with clock := call.time } := by
  obtain ⟨time, operation⟩ := call
  generalize made : Call.entry rules ⟨time, operation⟩ world = entry at refused
  cases refused with
  | screen time' sender scope content given created =>
    obtain ⟨same, answered, _⟩ := Entry.mk.inj made
    obtain ⟨rfl, rfl⟩ := Call.mk.inj same
    exact congrArg Prod.snd (perform_screen_of_banned (eq_of_heq answered))

/-- The items that are not marked. -/
def unmarked {α : Type} (items : List (α × Bool)) : List α :=
  (items.filter fun item => !item.2).map Prod.fst

/-- Refusals that are left out are not missed. -/
theorem journal_unmarked (marked : List (Call × Bool)) (world : World)
    (refused : ∀ item ∈ (journal rules (marked.map Prod.fst) world).zip (marked.map Prod.snd),
      item.2 = true → item.1.Refused) :
    journal rules (unmarked marked) world =
      unmarked ((journal rules (marked.map Prod.fst) world).zip (marked.map Prod.snd)) := by
  induction marked generalizing world with
  | nil => rfl
  | cons item marked ih =>
    obtain ⟨call, isMarked⟩ := item
    obtain ⟨here, later⟩ := List.forall_mem_cons.mp refused
    have rest := ih _ later
    cases isMarked with
    | false => exact congrArg (List.cons _) rest
    | true =>
      rw [(here rfl).after_eq, journal_clock, journal_clock] at rest
      rw [List.map_cons, List.map_cons, journal, List.zip_cons_cons, (here rfl).after_eq,
        journal_clock]
      exact rest

theorem exists_activeBan? {channel : Option Uuid} {now : Instant} (stands : Stands world ban)
    (here : ban.channelId = channel) (lasting : ∀ expiry ∈ ban.expiresAt, now < expiry) :
    ∃ given ∈ world.store.bans, world.store.activeBan? ban.characterId channel now = some given ∧
      given.characterId = ban.characterId ∧ given.channelId = channel ∧
      given.inForceAt now = true := by
  have inForce : ban.inForceAt now = true := by
    rw [Ban.inForceAt, stands.active, Bool.true_and]
    cases expiresAt : ban.expiresAt with
    | none => rfl
    | some expiry => simpa using lasting expiry expiresAt
  cases found : world.store.activeBan? ban.characterId channel now with
  | none =>
    have listed : ban ∈ world.store.bans.filter fun other =>
        other.characterId == ban.characterId && other.appliesTo channel && other.inForceAt now := by
      simp [Ban.appliesTo, Table.mem_of_find? stands.stored, here, inForce]
    rw [Store.newest?_eq_none_iff.mp found] at listed
    exact absurd listed List.not_mem_nil
  | some given =>
    have listed := Store.mem_of_newest? found
    simp only [List.mem_filter, Bool.and_eq_true, beq_iff_eq, Ban.appliesTo] at listed
    obtain ⟨stored, ⟨own, at_channel⟩, active⟩ := listed
    exact ⟨given, stored, rfl, own, at_channel, active⟩

/-- Until it expires or is lifted, a ban has every message of its character in its scope refused
without any effect. Refusals can be left out of a run, and all other entries stay the same. -/
theorem screen_silenced (config : Config.Moderation) (world : World) :
    let rules := Rules.ofConfig config
    (∀ ban before time scope content, Stands world ban →
      (∀ i, world.issued < i → i ≤ world.issued + before.length → world.supply i ≠ ban.id) →
      (∀ call ∈ before, call.operation ≠ .removeBan ban.id) →
      scope.map BanScope.channelId = ban.channelId →
      (∀ expiry ∈ ban.expiresAt, Instant.ofMillis time < expiry) →
      let call : Call := ⟨time, .screen ban.characterId scope content⟩
      let now := reached rules before world
      (∃ given ∈ now.store.bans, given.characterId = ban.characterId ∧
        given.channelId = ban.channelId ∧ given.inForceAt (Instant.ofMillis time) = true ∧
        call.answer rules now = .ok (.banned given)) ∧
      call.after rules now = { now with clock := time }) ∧
    (∀ marked : List (Call × Bool),
      let entries := (journal rules (marked.map Prod.fst) world).zip (marked.map Prod.snd)
      (∀ item ∈ entries, item.2 = true → item.1.Refused) →
      journal rules (unmarked marked) world = unmarked entries) := by
  intro rules
  refine ⟨?_, fun marked => journal_unmarked marked world⟩
  intro ban before time scope content stands fresh kept here lasting call now
  have standing : Stands now ban := stands.reached fresh kept
  obtain ⟨given, stored, found, own, channel, inForce⟩ :=
    exists_activeBan? standing here.symm lasting
  have refused : (screen rules ban.characterId scope content).perform (call.start now) =
      (.ok (.banned given), call.start now) := by
    rw [perform_screen, show (call.start now).store.activeBan? ban.characterId
      (scope.map (·.channelId)) (call.start now).now = some given from found]
  refine ⟨⟨given, stored, own, channel.trans here, inForce, ?_⟩, ?_⟩
  · exact congrArg Prod.fst refused
  · exact congrArg Prod.snd refused

/-- A muted message between two others. -/
theorem screen_silenced_muted :
    let rules := Rules.ofConfig {}
    let ban : Ban := {
      id := Uuid.ofSerial 1, characterId := ⟨1⟩, channelId := none, channelType := none
      reason := "noise", adminId := none, expiresAt := some (Instant.ofMillis 3600000)
      createdAt := Instant.ofMillis 0, isActive := true }
    let world : World := { issued := 1, store := { bans := [ban] } }
    let other : Call := ⟨1000, .screen ⟨2⟩ none "hello"⟩
    let muted : Call := ⟨2000, .screen ⟨1⟩ none "hello"⟩
    let last : Call := ⟨3000, .detectSpam ⟨1⟩ "hello"⟩
    Stands world ban ∧
    muted.answer rules (reached rules [other] world) = .ok (.banned ban) ∧
    muted.after rules (reached rules [other] world) =
      { reached rules [other] world with clock := 2000 } ∧
    journal rules [other, last] world =
      [other.entry rules world, last.entry rules (reached rules [other, muted] world)] := by
  intro rules ban world other muted last
  have stands : Stands world ban := ⟨by decide, rfl⟩
  have fresh : ∀ i, 1 < i → i ≤ 1 + 1 → Uuid.ofSerial i ≠ Uuid.ofSerial 1 := by
    intro i more less
    obtain rfl : i = 2 := by omega
    decide
  have silenced := screen_silenced {} world
  obtain ⟨⟨given, stored, -, -, -, answered⟩, unchanged⟩ :=
    silenced.1 ban [other] 2000 none "hello" stands fresh (by decide) rfl (by decide)
  have refused : (muted.entry rules (reached rules [other] world)).Refused := by
    rw [Call.entry, show muted.answer rules (reached rules [other] world) = _ from answered]
    exact .screen 2000 ⟨1⟩ none "hello" given _
  refine ⟨stands, by decide +kernel, unchanged, ?_⟩
  refine silenced.2 [(other, false), (muted, true), (last, false)] ?_
  intro item listed marked
  simp only [List.map_cons, List.map_nil, journal, List.zip_cons_cons, List.zip_nil_right,
    List.mem_cons, List.not_mem_nil, or_false] at listed
  rcases listed with rfl | rfl | rfl
  · exact absurd marked Bool.false_ne_true
  · exact refused
  · exact absurd marked Bool.false_ne_true

end Parley.Moderation
