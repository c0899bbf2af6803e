import Parley.Proofs.Moderation.Violations

/-!
# One ban at a time

A message is screened for spam and violations only where no ban is in force for its sender in its
scope, and it brings one ban at most. So screening never gives a second ban to an actor in a scope,
whatever was lifted or has expired in between. Only an administrator who bans without looking does,
or a caller of the automatic bans alone.
-/

namespace Parley

open Calendar (Instant)

/-- Whether the ban keeps the actor from speaking at a time in exactly this channel, or everywhere
the global ban applies. -/
def Ban.silences (ban : Ban) (actor : Uuid) (channel : Option Uuid) (now : Instant) : Bool :=
  ban.characterId == actor && ban.appliesTo channel && ban.inForceAt now

/-- The bans in force for an actor in exactly this channel, or everywhere. -/
def Store.bansInForce (store : Store) (actor : Uuid) (channel : Option Uuid) (now : Instant) :
    List Ban :=
  store.bans.filter fun ban => ban.silences actor channel now

/-- A ban that is in force was in force at any time before. -/
theorem Ban.inForceAt_of_le {ban : Ban} {earlier later : Instant} (order : earlier ≤ later)
    (h : ban.inForceAt later = true) : ban.inForceAt earlier = true := by
  rw [Ban.inForceAt, Bool.and_eq_true] at h ⊢
  refine ⟨h.1, ?_⟩
  cases expiresAt : ban.expiresAt with
  | none => rfl
  | some expiry =>
    have ahead : later < expiry := by simpa [expiresAt] using h.2
    simpa using Instant.lt_of_le_of_lt order ahead

theorem Ban.silences_of_le {ban : Ban} {actor : Uuid} {channel : Option Uuid}
    {earlier later : Instant} (order : earlier ≤ later)
    (h : ban.silences actor channel later = true) : ban.silences actor channel earlier = true := by
  rw [Ban.silences, Bool.and_eq_true] at h ⊢
  exact ⟨h.1, Ban.inForceAt_of_le order h.2⟩

theorem Store.bansInForce_eq_nil_iff {store : Store} {actor : Uuid} {channel : Option Uuid}
    {now : Instant} :
    store.bansInForce actor channel now = [] ↔ store.activeBan? actor channel now = none :=
  Store.newest?_eq_none_iff.symm

namespace Moderation

variable {config : Config.Moderation} {sender : Uuid} {scope : Option BanScope} {content : String}
  {world after : World} {operation : Operation}

/-- Whether a call gives bans to none but senders who have none in force: all do but the automatic
bans, when they are called alone, and the ban by an administrator. -/
def Operation.looksFirst : Operation → Bool
  | autoBanForSpam .. | autoBanForViolations .. | createBan .. => false
  | _ => true

theorem gives_recordViolation :
    Gives (IsAutoBan sender scope .severe)
      (recordViolation (Rules.ofConfig config) sender scope) := by
  have given : ∀ violations, Gives (IsAutoBan sender scope .severe)
      (autoBanForViolations (Rules.ofConfig config) sender scope violations) :=
    fun violations => .ite (.of_spares (.pure none)) ((gives_autoBan _ _).map _)
  refine .bind (.of_spares (spares_count _ _)) fun count => ?_
  refine .ite (.bind (given count) fun ban => .of_spares ?_) (.of_spares (.pure ()))
  exact .ite (Action.Asks.ask (r := .deleteCounter _) trivial).answered (.pure ())

theorem gives_weigh :
    Gives (fun ban => ∃ cause, IsAutoBan sender scope cause ban)
      (weigh (Rules.ofConfig config) sender scope content) := by
  refine .bind (.of_spares (asks_detectSpam (spares_count _) (spares_count _))) fun isSpam => ?_
  refine .ite ?_ (.bind (.of_spares (asks_filterMessage _ fun _ => trivial)) fun outcome => ?_)
  · refine .bind (.attempt (gives_autoBanForSpam.mono fun ban given => ?_)) fun _ => ?_
    · exact ⟨.spam, given⟩
    · exact .of_spares (.pure _)
  · refine .ite (.bind (.attempt (gives_recordViolation.mono fun ban given => ?_)) fun _ => ?_) ?_
    · exact ⟨.severe, given⟩
    · exact .of_spares (.pure _)
    · exact .of_spares (.pure _)

theorem created_screen (rules : Rules) (sender : Uuid) (scope : Option BanScope)
    (content : String) (world : World) : (screen rules sender scope content).created world =
      match world.store.activeBan? sender (scope.map (·.channelId)) world.now with
      | some _ => []
      | none => (weigh rules sender scope content).created world := by
  rw [screen, Action.created_bind, created_checkBan, perform_checkBan]
  cases world.store.activeBan? sender (scope.map (·.channelId)) world.now <;> rfl

theorem created_createReport (reporter : Uuid) (request : ReportRequest) (world : World) :
    (createReport reporter request).created world = [] := by
  have nothing : Gives (fun _ => False) (createReport reporter request) :=
    .of_asks (asks_createReport rfl rfl (fun _ => rfl) fun _ _ => rfl)
  exact List.eq_nil_iff_forall_not_mem.mpr (nothing world)

/-- Where a call that looks first gives a ban, none was in force. -/
theorem activeBan?_of_created (careful : operation.looksFirst = true) {ban : Ban}
    (given : ban ∈ (operation.action (Rules.ofConfig config)).created world) :
    world.store.activeBan? ban.characterId ban.channelId world.now = none := by
  have spared {α : Type} {action : Action α} (h : action.Asks Request.SparesBans) :
      ban ∉ action.created world := by
    rw [created_of_spares h]
    exact List.not_mem_nil
  cases operation with
  | autoBanForSpam _ _ | autoBanForViolations _ _ _ | createBan _ _ =>
    exact absurd careful Bool.false_ne_true
  | screen sender scope content =>
    change ban ∈ (screen (Rules.ofConfig config) sender scope content).created world at given
    rw [created_screen] at given
    cases found : world.store.activeBan? sender (scope.map (·.channelId)) world.now with
    | some other =>
      rw [found] at given
      exact absurd given List.not_mem_nil
    | none =>
      rw [found] at given
      obtain ⟨cause, id, now, expiry, rfl⟩ := gives_weigh world ban given
      exact found
  | removeBan id =>
    change ban ∈ (removeBan id).created world at given
    rw [(lifts_removeBan id world).1] at given
    exact absurd given List.not_mem_nil
  | createReport reporter request =>
    change ban ∈ (createReport reporter request).created world at given
    rw [created_createReport] at given
    exact absurd given List.not_mem_nil
  | checkBan actor channel =>
    exact absurd given (spared (asks_checkBan trivial fun _ => trivial))
  | filterMessage content =>
    exact absurd given (spared (asks_filterMessage _ fun _ => trivial))
  | detectSpam actor content =>
    exact absurd given (spared (asks_detectSpam (spares_count _) (spares_count _)))
  | listBans character limit offset =>
    exact absurd given (spared (Action.Asks.ask (r := .listBans ..) trivial).answered)
  | listReports status limit offset =>
    exact absurd given (spared (Action.Asks.ask (r := .listReports ..) trivial).answered)
  | resolveReport id admin status =>
    exact absurd given (spared (spares_resolveReport id admin status))

/-- From some time on, no actor has two bans in force in one scope. -/
def OneAtMost (since : Instant) (world : World) : Prop :=
  ∀ now, since ≤ now → ∀ actor channel, (world.store.bansInForce actor channel now).length ≤ 1

theorem OneAtMost.later {since now : Instant} (one : OneAtMost since world) (order : since ≤ now) :
    OneAtMost now world :=
  fun time passed => one time (Instant.le_trans order passed)

/-- A ban adds nothing where some ban is in force, and one where none is. -/
theorem OneAtMost.step {since : Instant} {created : List Ban} (one : OneAtMost since world)
    (step : BanStep operation world created after)
    (looked : ∀ ban ∈ created, world.store.activeBan? ban.characterId ban.channelId since = none) :
    OneAtMost since after := by
  intro now passed actor channel
  have before := one now passed actor channel
  rw [Store.bansInForce, ← List.countP_eq_length_filter] at before ⊢
  cases step with
  | filed kept filed =>
    cases filed with
    | nothing spent issued bans =>
      rw [bans]
      exact before
    | ban ban named active issued bans =>
      have added : after.store.bans.countP (fun ban => ban.silences actor channel now) ≤
          world.store.bans.countP (fun ban => ban.silences actor channel now) +
            if ban.silences actor channel now then 1 else 0 :=
        bans ▸ Table.countP_put_le ban world.store.bans _
      by_cases silenced : ban.silences actor channel now = true
      · -- The sender had no ban in force, so the new one is the only one.
        have own : ban.characterId = actor ∧ ban.channelId = channel := by
          simp only [Ban.silences, Ban.appliesTo, Bool.and_eq_true, beq_iff_eq] at silenced
          exact silenced.1
        obtain ⟨rfl, rfl⟩ := own
        have none_before := Store.bansInForce_eq_nil_iff.mpr
          (looked ban (List.mem_singleton_self ban))
        have none_now : world.store.bans.countP
            (fun other => other.silences ban.characterId ban.channelId now) = 0 := by
          refine List.countP_eq_zero.mpr fun other listed silent => ?_
          exact List.filter_eq_nil_iff.mp none_before other listed
            (Ban.silences_of_le passed silent)
        rw [none_now, if_pos silenced] at added
        exact added
      · rw [if_neg silenced] at added
        omega
  | lifted id removal issued bans =>
    rw [bans]
    refine Nat.le_trans (Table.countP_modify_le fun row => ?_) before
    simp [Ban.silences, Ban.inForceAt, lifted]

theorem OneAtMost.call {since : Instant} (one : OneAtMost since world) {call : Call}
    (careful : call.operation.looksFirst = true) (order : since ≤ Instant.ofMillis call.time) :
    OneAtMost (Instant.ofMillis call.time) (call.after (Rules.ofConfig config) world) :=
  (one.later order).step (call.banStep world) fun ban given =>
    show (call.start world).store.activeBan? ban.characterId ban.channelId
      (call.start world).now = none from activeBan?_of_created careful given

theorem OneAtMost.reached {since now : Instant} {calls : List Call} (one : OneAtMost since world)
    (careful : ∀ call ∈ calls, call.operation.looksFirst = true)
    (ordered : calls.Pairwise fun first second => first.time ≤ second.time)
    (begun : since ≤ now) (starts : ∀ call ∈ calls, since ≤ Instant.ofMillis call.time)
    (ended : ∀ call ∈ calls, Instant.ofMillis call.time ≤ now) :
    OneAtMost now (reached (Rules.ofConfig config) calls world) := by
  induction calls generalizing world since with
  | nil => exact one.later begun
  | cons call calls ih =>
    obtain ⟨thisCareful, restCareful⟩ := List.forall_mem_cons.mp careful
    obtain ⟨thisEnded, restEnded⟩ := List.forall_mem_cons.mp ended
    obtain ⟨follow, restOrdered⟩ := List.pairwise_cons.mp ordered
    have onward : OneAtMost (Instant.ofMillis call.time)
        (call.after (Rules.ofConfig config) world) :=
      one.call thisCareful (starts call List.mem_cons_self)
    exact ih onward restCareful restOrdered thisEnded
      (fun next listed => Instant.ofMillis_le (follow next listed)) restEnded

/-- However messages are screened and bans lifted, and whatever has expired, no actor ever has two
bans in force in one channel, nor two that apply everywhere. -/
theorem bansInForce_length_le_one (config : Config.Moderation) (uptime : Nat)
    (supply : Nat → Uuid) {calls : List Call}
    (careful : ∀ call ∈ calls, call.operation.looksFirst = true)
    (ordered : calls.Pairwise fun first second => first.time ≤ second.time) {now : Instant}
    (ended : ∀ call ∈ calls, Instant.ofMillis call.time ≤ now) (actor : Uuid)
    (channel : Option Uuid) :
    ((reached (Rules.ofConfig config) calls { uptime, supply }).store.bansInForce actor channel
      now).length ≤ 1 := by
  cases calls with
  | nil => exact Nat.zero_le 1
  | cons call calls =>
    have empty : OneAtMost (Instant.ofMillis call.time) { uptime, supply } :=
      fun _ _ _ _ => Nat.zero_le 1
    have starts : ∀ next ∈ call :: calls, Instant.ofMillis call.time ≤ Instant.ofMillis next.time :=
      List.forall_mem_cons.mpr ⟨Instant.le_refl _, fun next listed =>
        Instant.ofMillis_le ((List.pairwise_cons.mp ordered).1 next listed)⟩
    exact empty.reached careful ordered (ended call List.mem_cons_self) starts ended now
      (Instant.le_refl now) actor channel

/-- Banned for spam, banned again when the ban is lifted, and then refused. -/
theorem bansInForce_length_le_one_again :
    let rules := Rules.ofConfig { spamBurstLimit := 1 }
    let calls : List Call := [
      ⟨0, .screen ⟨1⟩ none "a"⟩, ⟨1, .screen ⟨1⟩ none "b"⟩, ⟨2, .removeBan (Uuid.ofSerial 1)⟩,
      ⟨3, .screen ⟨1⟩ none "c"⟩, ⟨4, .screen ⟨1⟩ none "d"⟩]
    let bans := (reached rules calls {}).store.bansInForce ⟨1⟩ none (Instant.ofMillis 5)
    (∀ call ∈ calls, call.operation.looksFirst = true) ∧
    calls.Pairwise (fun first second => first.time ≤ second.time) ∧
    (∀ call ∈ calls, Instant.ofMillis call.time ≤ Instant.ofMillis 5) ∧
    bans.map Ban.id = [Uuid.ofSerial 2] ∧ bans.length ≤ 1 := by
  intro rules calls bans
  refine ⟨by decide, by decide, by decide, by decide +kernel, ?_⟩
  exact bansInForce_length_le_one { spamBurstLimit := 1 } _ Uuid.ofSerial (by decide) (by decide)
    (by decide) ⟨1⟩ none

end Moderation

end Parley
