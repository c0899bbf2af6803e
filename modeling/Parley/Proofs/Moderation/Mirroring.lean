import Parley.Proofs.Moderation.Conduct
import Parley.Proofs.Moderation.Filing

/-!
# Services of a sender

Each request that screening makes for a sender mirrors a step on the standing of the sender, and so
does screening itself. A ban is the only step that spends an identifier. Metrics and announcements
show in no standing.
-/

namespace Parley.Moderation

open Calendar (Instant)

variable {sender : Uuid} {config : Config.Moderation} {scope : Option BanScope}

/-- New counters that differ under one key change one window of one standing. -/
theorem Sound.reflects_counters {α β : Type} {erase : α → β} {left : Nat} {world : World}
    (sound : Sound left world) {counters : Counters} {name : CounterName} {window? : Option Window}
    (distinct : counters.Distinct)
    (own : counters.window? world.clock (name.key sender) =
      window?.filter (·.isOpen world.clock))
    (rest : ∀ key, name.key sender ≠ key →
      counters.window? world.clock key = world.counters.window? world.clock key)
    {result : Except Failure α} (aborts : ∀ e, result = .error e → e = .aborted) :
    Reflects sender erase left world (result, { world with counters })
      (result.map erase, (standingOf sender world).withWindow name window?) := by
  refine ⟨⟨sound.distinct, sound.issued, distinct⟩, rfl, aborts, ?_, fun other apart => ?_⟩
  · rw [standingOf_withWindow own rest]
  · exact standingOf_of_ne apart rest

theorem mirrors_deleteCounter (name : CounterName) :
    Mirrors sender 0 id (Action.deleteCounter (name.key sender)) (Conduct.drop name) := by
  intro left world sound
  have done : (Action.deleteCounter (name.key sender)).perform world =
      (.ok (), { world with counters := world.counters.delete (name.key sender) }) := rfl
  rw [done]
  exact sound.reflects_counters (Counters.delete_distinct sound.counters)
    Counters.window?_delete_self (fun key => Counters.window?_delete_of_ne sound.counters)
    (fun e h => absurd h (by simp))

theorem Conduct.perform_count (name : CounterName) (ttl : Nat) (standing : Standing) :
    (Conduct.count name ttl).perform standing =
      if (Window.raised (standing.windows name)).count = 1 then
        if Counters.isReachable standing.reading ttl then
          (.ok 1, standing.withWindow name (some
            { Window.raised (standing.windows name) with closes := some (standing.clock + ttl) }))
        else (.error .aborted,
          standing.withWindow name (some (Window.raised (standing.windows name))))
      else (.ok (Window.raised (standing.windows name)).count,
        standing.withWindow name (some (Window.raised (standing.windows name)))) := rfl

theorem mirrors_count (name : CounterName) (ttl : Nat) :
    Mirrors sender 0 id (Action.countInWindow (name.key sender) ttl) (Conduct.count name ttl) := by
  intro left world sound
  have before : (standingOf sender world).windows name =
      world.counters.window? world.clock (name.key sender) := rfl
  have reading : (standingOf sender world).reading = world.reading := rfl
  have distinct : (world.counters.increment world.clock (name.key sender)).2.Distinct :=
    Counters.increment_distinct sound.counters
  have own : (world.counters.increment world.clock (name.key sender)).2.window? world.clock
      (name.key sender) =
        some (Window.raised (world.counters.window? world.clock (name.key sender))) :=
    Counters.window?_increment_self sound.counters
  have rest : ∀ key, name.key sender ≠ key →
      (world.counters.increment world.clock (name.key sender)).2.window? world.clock key =
        world.counters.window? world.clock key := fun key =>
    Counters.window?_increment_of_ne sound.counters
  rw [Action.perform_countInWindow, Conduct.perform_count, before, reading,
    Counters.increment_value sound.counters]
  split
  · split
    · exact sound.reflects_counters (Counters.expire_distinct distinct)
        (Counters.window?_expire_self own)
        (fun key apart => (Counters.window?_expire_of_ne apart).trans (rest key apart))
        (fun e h => absurd h (by simp))
    · exact sound.reflects_counters distinct (own.trans Counters.filter_raised.symm) rest
        (fun e h => (Except.error.inj h).symm)
  · exact sound.reflects_counters distinct (own.trans Counters.filter_raised.symm) rest
      (fun e h => absurd h (by simp))

theorem mirrors_readCounter (name : CounterName) :
    Mirrors sender 0 id (Action.readCounter (name.key sender)) (Conduct.read name) := by
  intro left world sound
  have unchanged : ∀ other, standingOf other
      { world with counters := (world.counters.read world.clock (name.key sender)).2 } =
      standingOf other world := fun other =>
    Standing.ext rfl rfl (funext fun _ => Counters.window?_read sound.counters) rfl
  rw [Action.perform_readCounter, Counters.read_value]
  exact Reflects.ok ⟨sound.distinct, sound.issued, Counters.read_distinct sound.counters⟩ rfl
    (unchanged sender).symm fun other _ => unchanged other

theorem perform_checkBan (actor : Uuid) (channel : Option Uuid) (world : World) :
    (checkBan actor channel).perform world =
      (.ok (world.store.activeBan? actor channel world.now), world) := rfl

theorem mirrors_checkBan (channel : Option Uuid) :
    Mirrors sender 0 (Option.map Ban.unnamed) (checkBan sender channel)
      (Conduct.activeBan? channel) := by
  intro left world sound
  rw [perform_checkBan]
  have same : (standingOf sender world).activeBan? channel world.now =
      (world.store.activeBan? sender channel world.now).map Ban.unnamed :=
    activeBan?_standingOf sender world channel world.now
  have answered : (Conduct.activeBan? channel).perform (standingOf sender world) =
      (.ok ((standingOf sender world).activeBan? channel world.now), standingOf sender world) := rfl
  rw [answered, same]
  exact Reflects.ok sound rfl rfl fun other _ => rfl

theorem perform_draftBan (cause : BanCause) (hours : Int) (world : World) :
    (draftBan sender (scope.map (·.channelId)) (scope.map (·.channelType)) cause.reason none
        (some hours)).perform world =
      ((world.now.addHours? hours).elim (.error .aborted) fun expiry =>
          .ok (autoBanned (world.supply (world.issued + 1)) sender scope cause world.now expiry),
        { world with issued := world.issued + 1 }) := by
  rw [perform_draft, expiryOf]
  cases world.now.addHours? hours <;> rfl

theorem Sound.issue {left : Nat} {world : World} (sound : Sound (left + 1) world) :
    Sound left { world with issued := world.issued + 1 } := by
  refine ⟨fun i hi j hj => sound.distinct i ?_ j ?_, fun ban listed => ?_, sound.counters⟩
  · change i < world.issued + 1 + left at hi
    omega
  · change j < world.issued + 1 + left at hj
    omega
  · obtain ⟨i, lt, named⟩ := sound.issued ban listed
    exact ⟨i, Nat.lt_succ_of_lt lt, named⟩

/-- An identifier that is handed out is no ban's yet. -/
theorem Sound.fresh {left : Nat} {world : World} (sound : Sound (left + 1) world) :
    world.supply (world.issued + 1) ∉ world.store.bans.map Ban.id := by
  intro listed
  obtain ⟨ban, member, named⟩ := List.mem_map.mp listed
  obtain ⟨i, lt, supplied⟩ := sound.issued ban member
  have same : i = world.issued :=
    sound.distinct i (by omega) world.issued (by omega) (supplied.symm.trans named)
  omega

/-- So a new ban comes after the others. -/
theorem Sound.bans_putBan {left : Nat} {world : World} (sound : Sound (left + 1) world) {ban : Ban}
    (named : ban.id = world.supply (world.issued + 1)) :
    (world.store.putBan ban).bans = world.store.bans ++ [ban] :=
  Table.put_of_notMem (named ▸ sound.fresh)

/-- A ban is stored, counted and announced. -/
theorem perform_autoBan (sender : Uuid) (scope : Option BanScope) (cause : BanCause) {hours : Int}
    {world : World} {expiry : Instant}
    (h : world.now.addHours? hours = some expiry) :
    ∃ ban bus metrics,
      ban = autoBanned (world.supply (world.issued + 1)) sender scope cause world.now expiry ∧
      (autoBan sender scope cause hours).perform world = (.ok ban, { world with
        issued := world.issued + 1, store := world.store.putBan ban, bus, metrics }) := by
  rw [autoBan, Action.perform_bind, perform_draftBan, h]
  exact ⟨_, _, _, rfl, rfl⟩

theorem perform_autoBan_of_none {cause : BanCause} {hours : Int} {world : World}
    (h : world.now.addHours? hours = none) :
    (autoBan sender scope cause hours).perform world =
      (.error .aborted, { world with issued := world.issued + 1 }) := by
  rw [autoBan, Action.perform_bind, perform_draftBan, h]
  rfl

theorem Sound.putBan {left : Nat} {world : World} (sound : Sound (left + 1) world) {ban : Ban}
    (named : ban.id = world.supply (world.issued + 1)) {bus : Bus} {metrics : Tally} :
    Sound left { world with
      issued := world.issued + 1, store := world.store.putBan ban, bus, metrics } := by
  refine ⟨sound.issue.distinct, fun other listed => ?_, sound.counters⟩
  rcases Table.mem_put listed with rfl | stored
  · exact ⟨world.issued, Nat.lt_succ_self _, named⟩
  · exact sound.issue.issued other stored

/-- A new ban is added to the standing of the character that is banned. -/
theorem standingOf_putBan {left : Nat} {world : World} (sound : Sound (left + 1) world)
    {ban : Ban} (named : ban.id = world.supply (world.issued + 1))
    (own : ban.characterId = sender) {bus : Bus} {metrics : Tally} :
    standingOf sender { world with
        issued := world.issued + 1, store := world.store.putBan ban, bus, metrics } =
      { standingOf sender world with
        bans := (standingOf sender world).bans ++ [ban.unnamed] } := by
  refine Standing.ext rfl rfl rfl ?_
  simp only [standingOf, sound.bans_putBan named, List.filter_append, List.map_append]
  rw [List.filter_singleton, beq_iff_eq.mpr own]
  rfl

theorem standingOf_putBan_of_ne {left : Nat} {world : World} (sound : Sound (left + 1) world)
    {ban : Ban} (named : ban.id = world.supply (world.issued + 1)) {other : Uuid}
    (apart : ban.characterId ≠ other) {bus : Bus} {metrics : Tally} :
    standingOf other { world with
        issued := world.issued + 1, store := world.store.putBan ban, bus, metrics } =
      standingOf other world := by
  refine Standing.ext rfl rfl rfl ?_
  simp only [standingOf, sound.bans_putBan named, List.filter_append, List.map_append]
  rw [List.filter_singleton, beq_eq_false_iff_ne.mpr apart, cond_false, List.map_nil,
    List.append_nil]

theorem Conduct.perform_ban (cause : BanCause) {hours : Int} (standing : Standing) :
    (Conduct.ban sender scope cause hours).perform standing =
      match (Instant.ofMillis standing.clock).addHours? hours with
      | none => (.error .aborted, standing)
      | some expiry =>
        let ban := autoBanned default sender scope cause (Instant.ofMillis standing.clock) expiry
        (.ok ban, { standing with bans := standing.bans ++ [ban] }) := rfl

theorem mirrors_autoBan (cause : BanCause) (hours : Int) :
    Mirrors sender 1 Ban.unnamed (autoBan sender scope cause hours)
      (Conduct.ban sender scope cause hours) := by
  intro left world sound
  have clock : Instant.ofMillis (standingOf sender world).clock = world.now := rfl
  rw [Conduct.perform_ban, clock]
  cases ends : world.now.addHours? hours with
  | none =>
    rw [perform_autoBan_of_none ends]
    exact ⟨sound.issue, rfl, fun e h => (Except.error.inj h).symm, rfl, fun other _ => rfl⟩
  | some expiry =>
    obtain ⟨ban, bus, metrics, drafted, done⟩ := perform_autoBan sender scope cause ends
    have named : ban.id = world.supply (world.issued + 1) := by rw [drafted]; rfl
    have own : ban.characterId = sender := by rw [drafted]; rfl
    have unnamed : autoBanned default sender scope cause world.now expiry = ban.unnamed := by
      rw [drafted]
      rfl
    dsimp only
    rw [done, unnamed, ← standingOf_putBan sound named own]
    exact Reflects.ok (sound.putBan named) rfl rfl fun other apart =>
      standingOf_putBan_of_ne sound named (own ▸ apart)

theorem mirrors_tally (metric : Metric) :
    Mirrors sender 0 (fun _ => ()) (Action.tally metric) (pure ()) := by
  intro left world sound
  have done : (Action.tally metric).perform world =
      (.ok (), { world with metrics := Tally.add metric world.metrics }) := rfl
  rw [done]
  exact Reflects.ok ⟨sound.distinct, sound.issued, sound.counters⟩ rfl rfl fun other _ => rfl

theorem mirrors_filterMessage (content : String) :
    Mirrors sender 0 id (filterMessage (Rules.ofConfig config) content)
      (pure ((Rules.ofConfig config).filter.apply content)) := by
  refine (mirrors_tally .messagesChecked).skip ?_
  dsimp only
  split
  · exact (mirrors_tally .violations).skip (Mirrors.pure _)
  · exact Mirrors.pure _

theorem mirrors_detectSpam (content : String) :
    Mirrors sender 0 id (detectSpam (Rules.ofConfig config) sender content)
      (Conduct.detectSpam config content) := by
  rw [detectSpam, Conduct.detectSpam]
  change Mirrors sender (0 + (0 + 0)) id _ _
  refine (mirrors_count .burst _).bind fun burst => ?_
  refine (mirrors_count (.duplicates (Digest.Sha256.hex content)) _).bind fun duplicates => ?_
  exact Mirrors.pure _

theorem mirrors_autoBanForSpam :
    Mirrors sender 1 (Option.map Ban.unnamed)
      (autoBanForSpam (Rules.ofConfig config) sender scope)
      (Conduct.banForSpam config sender scope) := by
  have nothing : Mirrors sender 1 (Option.map Ban.unnamed) (pure none) (pure none) :=
    (Mirrors.pure none).mono (Nat.zero_le 1)
  have given : Mirrors sender 1 (Option.map Ban.unnamed)
      (some <$> autoBan sender scope .spam config.spamBanHours)
      (some <$> Conduct.ban sender scope .spam config.spamBanHours) :=
    (mirrors_autoBan .spam config.spamBanHours).map fun _ => rfl
  have counted : Mirrors sender (0 + 1) (Option.map Ban.unnamed)
      (do
        let burst := (← Action.readCounter (Rules.burstKey sender)).getD 0
        if burst ≤ config.spamBurstLimit then pure none
        else some <$> autoBan sender scope .spam config.spamBanHours)
      (do
        let burst := (← Conduct.read .burst).getD 0
        if burst ≤ config.spamBurstLimit then pure none
        else some <$> Conduct.ban sender scope .spam config.spamBanHours) :=
    (mirrors_readCounter .burst).bind fun _ => Mirrors.ite _ nothing given
  exact Mirrors.ite _ nothing counted

theorem mirrors_autoBanForViolations (violations : Int) :
    Mirrors sender 1 (Option.map Ban.unnamed)
      (autoBanForViolations (Rules.ofConfig config) sender scope violations)
      (Conduct.banForViolations config sender scope violations) :=
  Mirrors.ite _ ((Mirrors.pure none).mono (Nat.zero_le 1))
    ((mirrors_autoBan .severe config.severeBanHours).map fun _ => rfl)

theorem mirrors_recordViolation :
    Mirrors sender 1 id (recordViolation (Rules.ofConfig config) sender scope)
      (Conduct.recordViolation config sender scope) := by
  have nothing : ∀ spent, Mirrors sender spent id (pure ()) (pure ()) := fun spent =>
    (Mirrors.pure ()).mono (Nat.zero_le spent)
  have banned : ∀ count, Mirrors sender (1 + 0) id
      (do
        if (← autoBanForViolations (Rules.ofConfig config) sender scope count).isSome then
          Action.deleteCounter (Rules.violationKey sender))
      (do
        if (← Conduct.banForViolations config sender scope count).isSome then
          Conduct.drop .violations) := by
    intro count
    refine (mirrors_autoBanForViolations count).bind fun ban => ?_
    rw [Option.isSome_map]
    exact Mirrors.ite _ (mirrors_deleteCounter .violations) (nothing 0)
  rw [recordViolation, Conduct.recordViolation]
  change Mirrors sender (0 + 1) id _ _
  refine (mirrors_count .violations _).bind fun count => ?_
  exact Mirrors.ite _ (banned count) (nothing 1)

/-- A verdict up to the identifier of the ban. -/
def Verdict.unnamed : Verdict → Verdict
  | banned ban => banned ban.unnamed
  | verdict => verdict

theorem mirrors_screen (content : String) :
    Mirrors sender 1 Verdict.unnamed (screen (Rules.ofConfig config) sender scope content)
      (Conduct.screen config sender scope content) := by
  rw [screen, Conduct.screen]
  change Mirrors sender (0 + (0 + 1)) Verdict.unnamed _ _
  refine (mirrors_checkBan _).bind fun ban => ?_
  cases ban with
  | some ban => exact (Mirrors.pure _).mono (Nat.zero_le 1)
  | none =>
    refine (mirrors_detectSpam content).bind fun isSpam => ?_
    cases isSpam with
    | true =>
      change Mirrors sender (1 + 0) Verdict.unnamed _ _
      exact mirrors_autoBanForSpam.attempt.bind fun _ => Mirrors.pure _
    | false =>
      change Mirrors sender (0 + 1) Verdict.unnamed _ _
      refine (mirrors_filterMessage content).bind fun outcome => ?_
      dsimp only [id]
      split
      · change Mirrors sender (1 + 0) Verdict.unnamed _ _
        exact mirrors_recordViolation.attempt.bind fun _ => Mirrors.pure _
      · exact (Mirrors.pure _).mono (Nat.zero_le 1)

end Parley.Moderation
