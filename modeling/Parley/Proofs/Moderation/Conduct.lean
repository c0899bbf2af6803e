import Parley.Proofs.Flow.Steps
import Parley.Proofs.Moderation.Standing

/-!
# Screening by standing

A conduct is a service as one sender meets it: its steps are taken on the standing of the sender
alone. `Mirrors` relates an action to a conduct. The action does to the standing of its sender what
the conduct does, answers the same up to the identifiers of bans, and changes the standing of nobody
else. The parts of an action mirror the parts of a conduct, so screening is compared part by part.
-/

namespace Parley.Moderation

open Calendar (Instant)

/-- The ban that is given to a sender at a time without an administrator. -/
def autoBanned (id sender : Uuid) (scope : Option BanScope) (cause : BanCause)
    (now expiry : Instant) : Ban where
  id
  characterId := sender
  channelId := scope.map (·.channelId)
  channelType := scope.map (·.channelType)
  reason := cause.reason
  adminId := none
  expiresAt := some expiry
  createdAt := now
  isActive := true

abbrev Conduct (α : Type) := ExceptT Failure (StateM Standing) α

namespace Conduct

variable {α β : Type}

/-- The result of a conduct and the standing after it. -/
def perform (conduct : Conduct α) (standing : Standing) : Except Failure α × Standing :=
  conduct.run standing

theorem perform_bind (conduct : Conduct α) (next : α → Conduct β) (standing : Standing) :
    (conduct >>= next).perform standing =
      match (conduct.perform standing).1 with
      | .ok a => (next a).perform (conduct.perform standing).2
      | .error e => (.error e, (conduct.perform standing).2) := by
  change ExceptT.bindCont next (conduct.perform standing).1 (conduct.perform standing).2 = _
  cases (conduct.perform standing).1 <;> rfl

def activeBan? (channel : Option Uuid) : Conduct (Option Ban) := ExceptT.mk fun standing =>
  (.ok (standing.activeBan? channel (Instant.ofMillis standing.clock)), standing)

def read (name : CounterName) : Conduct (Option Int) := ExceptT.mk fun standing =>
  (.ok ((standing.windows name).map Window.count), standing)

def drop (name : CounterName) : Conduct Unit := ExceptT.mk fun standing =>
  (.ok (), standing.withWindow name none)

/-- Counts up. The first count of a window sets when it closes, if the clock can reach that. -/
def count (name : CounterName) (ttl : Nat) : Conduct Int := ExceptT.mk fun standing =>
  let raised := Window.raised (standing.windows name)
  if raised.count = 1 then
    if Counters.isReachable standing.reading ttl then
      (.ok 1, standing.withWindow name (some { raised with closes := some (standing.clock + ttl) }))
    else (.error .aborted, standing.withWindow name (some raised))
  else (.ok raised.count, standing.withWindow name (some raised))

/-- Gives a ban, if the calendar reaches to its end. -/
def ban (sender : Uuid) (scope : Option BanScope) (cause : BanCause) (hours : Int) :
    Conduct Ban := ExceptT.mk fun standing =>
  let now := Instant.ofMillis standing.clock
  match now.addHours? hours with
  | none => (.error .aborted, standing)
  | some expiry =>
    let ban := autoBanned default sender scope cause now expiry
    (.ok ban, { standing with bans := standing.bans ++ [ban] })

/-- A conduct taken for its effects. -/
def effect (conduct : Conduct α) : Conduct Unit := do
  let _ ← conduct

variable (config : Config.Moderation) (sender : Uuid) (scope : Option BanScope)

def detectSpam (content : String) : Conduct Bool := do
  let burst ← count .burst (1000 * config.spamBurstWindowSecs)
  let duplicates ← count (.duplicates (Digest.Sha256.hex content))
    (1000 * config.spamDuplicateWindowSecs)
  pure (config.spamBurstLimit < burst || config.spamDuplicateLimit < duplicates)

def banForSpam : Conduct (Option Ban) := do
  if !config.autoBanEnabled then pure none
  else
    let burst := (← read .burst).getD 0
    if burst ≤ config.spamBurstLimit then pure none
    else some <$> ban sender scope .spam config.spamBanHours

def banForViolations (violations : Int) : Conduct (Option Ban) := do
  if !config.autoBanEnabled || violations < config.severeViolationThreshold then pure none
  else some <$> ban sender scope .severe config.severeBanHours

def recordViolation : Conduct Unit := do
  let count ← count .violations (1000 * config.violationWindowSecs)
  if config.severeViolationThreshold ≤ count then
    if (← banForViolations config sender scope count).isSome then drop .violations

def screen (content : String) : Conduct Verdict := do
  match ← activeBan? (scope.map (·.channelId)) with
  | some ban => pure (.banned ban)
  | none =>
    if ← detectSpam config content then
      effect (banForSpam config sender scope)
      pure .spam
    else
      let outcome ← pure ((Rules.ofConfig config).filter.apply content)
      if outcome.violation then effect (recordViolation config sender scope)
      pure (.accepted outcome.content outcome.violation)

end Conduct

/-- The first `n` identifiers that are handed out differ from each other. -/
def SuppliesDistinct (supply : Nat → Uuid) (n : Nat) : Prop :=
  ∀ i < n, ∀ j < n, supply (i + 1) = supply (j + 1) → i = j

instance (supply : Nat → Uuid) (n : Nat) : Decidable (SuppliesDistinct supply n) :=
  inferInstanceAs (Decidable (∀ i < n, ∀ j < n, supply (i + 1) = supply (j + 1) → i = j))

/-- A world in which so many more identifiers can be handed out, none of them twice, and in which
no two counters have one key. -/
structure Sound (left : Nat) (world : World) : Prop where
  distinct : SuppliesDistinct world.supply (world.issued + left)
  issued : ∀ ban ∈ world.store.bans, ∃ i < world.issued, ban.id = world.supply (i + 1)
  counters : world.counters.Distinct

theorem Sound.mono {left more : Nat} {world : World} (h : Sound more world) (le : left ≤ more) :
    Sound left world := by
  refine ⟨fun i hi j hj => h.distinct i ?_ j ?_, h.issued, h.counters⟩ <;> omega

theorem sound_of_suppliesDistinct {uptime : Nat} {supply : Nat → Uuid} {n : Nat}
    (distinct : SuppliesDistinct supply n) : Sound n { uptime, supply } := by
  refine ⟨?_, fun ban listed => absurd listed List.not_mem_nil, List.nodup_nil⟩
  rwa [Nat.zero_add]

/-- An outcome in a world and one on the standing of a sender that say the same. -/
structure Reflects {α β : Type} (sender : Uuid) (erase : α → β) (left : Nat) (world : World)
    (outcome : Except Failure α × World) (mirrored : Except Failure β × Standing) : Prop where
  sound : Sound left outcome.2
  clock : outcome.2.clock = world.clock
  aborts : ∀ e, outcome.1 = .error e → e = .aborted
  same : mirrored = (outcome.1.map erase, standingOf sender outcome.2)
  others : ∀ other, sender ≠ other → standingOf other outcome.2 = standingOf other world

theorem Reflects.ok {α β : Type} {sender : Uuid} {erase : α → β} {left : Nat} {world after : World}
    {a : α} {standing : Standing} (sound : Sound left after) (clock : after.clock = world.clock)
    (same : standing = standingOf sender after)
    (others : ∀ other, sender ≠ other → standingOf other after = standingOf other world) :
    Reflects sender erase left world (.ok a, after) (.ok (erase a), standing) :=
  ⟨sound, clock, fun e h => absurd h (by simp), same ▸ rfl, others⟩

/-- The action does what the conduct does, up to `erase`, and spends so many identifiers at most. -/
def Mirrors {α β : Type} (sender : Uuid) (spent : Nat) (erase : α → β) (action : Action α)
    (conduct : Conduct β) : Prop :=
  ∀ left world, Sound (left + spent) world →
    Reflects sender erase left world (action.perform world)
      (conduct.perform (standingOf sender world))

namespace Mirrors

variable {α β γ δ : Type} {sender : Uuid} {spent spent' : Nat} {erase : α → β}
  {erase' : γ → δ} {action : Action α} {conduct : Conduct β}

theorem mono (h : Mirrors sender spent erase action conduct) (le : spent ≤ spent') :
    Mirrors sender spent' erase action conduct := by
  intro left world sound
  exact h left world (sound.mono (by omega))

theorem pure (a : α) : Mirrors sender 0 erase (Pure.pure a) (Pure.pure (erase a)) := by
  intro left world sound
  exact Reflects.ok sound rfl rfl fun other _ => rfl

theorem bind {next : α → Action γ} {next' : β → Conduct δ}
    (first : Mirrors sender spent erase action conduct)
    (second : ∀ a, Mirrors sender spent' erase' (next a) (next' (erase a))) :
    Mirrors sender (spent + spent') erase' (action >>= next) (conduct >>= next') := by
  intro left world sound
  have begun := first (left + spent') world (sound.mono (by omega))
  rw [Action.perform_bind, Conduct.perform_bind, begun.same]
  cases result : (action.perform world).1 with
  | error e =>
    refine ⟨begun.sound.mono (by omega), begun.clock, fun e' h => ?_, rfl, begun.others⟩
    obtain rfl : e = e' := Except.error.inj h
    exact begun.aborts e result
  | ok a =>
    have ended := second a left (action.perform world).2 begun.sound
    refine ⟨ended.sound, ended.clock.trans begun.clock, ended.aborts, ended.same,
      fun other apart => ?_⟩
    exact (ended.others other apart).trans (begun.others other apart)

theorem map (h : Mirrors sender spent erase action conduct) {f : α → γ} {f' : β → δ}
    (agree : ∀ a, erase' (f a) = f' (erase a)) :
    Mirrors sender spent erase' (f <$> action) (f' <$> conduct) := by
  have both : Mirrors sender (spent + 0) erase' (action >>= fun a => Pure.pure (f a))
      (conduct >>= fun b => Pure.pure (f' b)) := h.bind fun a => by
    rw [← agree a]
    exact pure (f a)
  rwa [← Action.map_eq_bind, ← map_eq_pure_bind] at both

theorem ite {yes no : Action α} {yes' no' : Conduct β} (b : Prop) [Decidable b]
    (hyes : Mirrors sender spent erase yes yes') (hno : Mirrors sender spent erase no no') :
    Mirrors sender spent erase (if b then yes else no) (if b then yes' else no') := by
  split
  · exact hyes
  · exact hno

/-- Nothing is refused in memory, so an attempt goes as far as the action. -/
theorem attempt (h : Mirrors sender spent erase action conduct) :
    Mirrors sender spent id (Moderation.attempt action) (Conduct.effect conduct) := by
  have both : Mirrors sender (spent + 0) id (do let _ ← action) (Conduct.effect conduct) :=
    h.bind fun a => pure ()
  intro left world sound
  have reflects := both left world sound
  rw [Moderation.attempt, Action.perform_onError]
  · exact reflects
  · intro e refused
    exact Failure.noConfusion (reflects.aborts _ refused)

/-- Steps that no standing shows are passed over. -/
theorem skip {quiet : Action γ} {rest : Action α}
    (hquiet : Mirrors sender 0 (fun _ => ()) quiet (Pure.pure ()))
    (h : Mirrors sender spent erase rest conduct) :
    Mirrors sender spent erase (quiet >>= fun _ => rest) conduct := by
  have both : Mirrors sender (0 + spent) erase (quiet >>= fun _ => rest)
      (Pure.pure () >>= fun _ => conduct) := hquiet.bind fun _ => h
  rwa [pure_bind, Nat.zero_add] at both

end Mirrors

end Parley.Moderation
