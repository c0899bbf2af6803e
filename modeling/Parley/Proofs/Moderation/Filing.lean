import Parley.Proofs.Moderation.Journal
import Parley.Proofs.Store.Table

/-!
# How calls change bans

Most requests leave the bans alone. A call that does not lift a ban gives one at most, under the
next identifier that is handed out; lifting a ban changes the row of its identifier. All that later
modules say about bans goes by these two facts.
-/

namespace Parley

/-- A request that neither changes bans nor hands out an identifier. -/
def Request.SparesBans : Request → Prop
  | freshId | createBan _ | deactivateBan _ => False
  | _ => True

theorem Request.issued_perform (request : Request) (world : World) :
    world.issued ≤ (request.perform world).2.issued ∧
      (request.perform world).2.issued ≤ world.issued + 1 := by
  cases request with
  | setGuildLevel guild level experience =>
    simp only [Request.perform]
    split <;> exact ⟨Nat.le_refl _, Nat.le_succ _⟩
  | expire key ttl =>
    simp only [Request.perform]
    split <;> exact ⟨Nat.le_refl _, Nat.le_succ _⟩
  | freshId => exact ⟨Nat.le_succ _, Nat.le_refl _⟩
  | _ => exact ⟨Nat.le_refl _, Nat.le_succ _⟩

theorem Request.supply_perform (request : Request) (world : World) :
    (request.perform world).2.supply = world.supply := by
  cases request with
  | setGuildLevel guild level experience =>
    simp only [Request.perform]
    split <;> rfl
  | expire key ttl =>
    simp only [Request.perform]
    split <;> rfl
  | _ => rfl

/-- The message that makes an announcement known. -/
def Announcement.message (a : Announcement) : Message := ⟨a.topic, a.payload.toBody⟩

/-- How a ban without an administrator is announced. -/
def Announcement.autoBan (cause : BanCause) (ban : Ban) (time : Calendar.Instant) : Announcement :=
  match cause with
  | .spam => .spamBan ban time
  | .severe => .severeBan ban time

namespace Moderation

open Calendar (Instant)

variable {α β : Type} {world after later : World} {config : Config.Moderation}

/-- Two worlds with the same bans and the same identifiers to come. -/
structure SameBans (world after : World) : Prop where
  issued : after.issued = world.issued
  bans : after.store.bans = world.store.bans

theorem SameBans.perform {request : Request} (h : request.SparesBans) (world : World) :
    SameBans world (request.perform world).2 := by
  cases request with
  | freshId | createBan _ | deactivateBan _ => exact h.elim
  | resolveReport id status admin time =>
    simp only [Request.perform, Store.resolveReport]
    split
    · exact ⟨rfl, rfl⟩
    · split <;> exact ⟨rfl, rfl⟩
  | setGuildLevel guild level experience =>
    simp only [Request.perform, Store.setGuildLevel]
    split
    · next store changed =>
      split at changed
      · exact absurd changed (by simp)
      · exact ⟨rfl, Option.some.inj changed ▸ rfl⟩
    · exact ⟨rfl, rfl⟩
  | expire key ttl =>
    simp only [Request.perform]
    split <;> exact ⟨rfl, rfl⟩
  | _ => exact ⟨rfl, rfl⟩

theorem sameBans_of_spares {action : Action α} (h : action.Asks Request.SparesBans)
    (world : World) : SameBans world (action.perform world).2 :=
  h.perform (r := SameBans) (fun _ => ⟨rfl, rfl⟩)
    (fun first second =>
      ⟨second.issued.trans first.issued, second.bans.trans first.bans⟩)
    (fun _ spares => SameBans.perform spares) world

theorem created_of_spares {action : Action α} (h : action.Asks Request.SparesBans)
    (world : World) : action.created world = [] := by
  refine List.filterMap_eq_nil_iff.mpr fun request made => ?_
  have spares : request.SparesBans := Course.Asks.of_mem_asked h Request.perform world request made
  cases request with
  | createBan ban => exact spares.elim
  | _ => rfl

/-- Nothing that is asked changes which identifiers are handed out. -/
theorem supply_perform (action : Action α) (world : World) :
    (action.perform world).2.supply = world.supply :=
  Action.Asks.perform (Course.asks_true action.run)
    (r := fun world after => after.supply = world.supply) (fun _ => rfl)
    (fun first second => second.trans first) (fun request _ world => request.supply_perform world)
    world

/-- Whatever is asked, no two bans come to have one identifier. -/
theorem nodup_bans_perform (action : Action α) (world : World)
    (h : (world.store.bans.map Ban.id).Nodup) :
    ((action.perform world).2.store.bans.map Ban.id).Nodup := by
  revert h
  refine Action.Asks.perform (Course.asks_true action.run)
    (r := fun world after => (world.store.bans.map Ban.id).Nodup →
      (after.store.bans.map Ban.id).Nodup)
    (fun _ h => h) (fun first second h => second (first h)) (fun request _ world => ?_) world
  intro h
  by_cases spares : request.SparesBans
  · rw [(SameBans.perform spares world).bans]
    exact h
  · cases request with
    | freshId => exact h
    | createBan ban => exact Table.nodup_put h
    | deactivateBan id => exact Table.nodup_modify h
    | _ => exact absurd trivial spares

/-- Whatever is asked, no two counters come to have one key. -/
theorem distinct_perform (action : Action α) (world : World) (h : world.counters.Distinct) :
    (action.perform world).2.counters.Distinct := by
  revert h
  refine Action.Asks.perform (Course.asks_true action.run)
    (r := fun world after => world.counters.Distinct → after.counters.Distinct)
    (fun _ h => h) (fun first second h => second (first h)) (fun request _ world => ?_) world
  intro h
  cases request with
  | increment key => exact Counters.increment_distinct h
  | countAtOnce key window =>
    simp only [Request.perform, Counters.countInWindow]
    split
    · exact Counters.expire_distinct (Counters.increment_distinct h)
    · exact Counters.increment_distinct h
  | expire key ttl =>
    simp only [Request.perform]
    split
    · exact Counters.expire_distinct h
    · exact h
  | readCounter key => exact Counters.read_distinct h
  | deleteCounter key => exact Counters.delete_distinct h
  | setGuildLevel guild level experience =>
    simp only [Request.perform]
    split <;> exact h
  | _ => exact h

/-- At most one ban is stored, under the next identifier. -/
inductive Filed (world : World) : List Ban → World → Prop
  | nothing {after : World} (spent : after.issued ≤ world.issued + 1)
      (issued : world.issued ≤ after.issued) (bans : after.store.bans = world.store.bans) :
      Filed world [] after
  | ban {after : World} (ban : Ban) (named : ban.id = world.supply (world.issued + 1))
      (active : ban.isActive = true) (issued : after.issued = world.issued + 1)
      (bans : after.store.bans = Table.put Ban.id ban world.store.bans) : Filed world [ban] after

/-- Whatever the world is, the action gives one ban at most. -/
def Files (action : Action α) : Prop :=
  ∀ world, Filed world (action.created world) (action.perform world).2

theorem Filed.of_same (same : SameBans world after) : Filed world [] after :=
  .nothing (same.issued ▸ Nat.le_succ _) (same.issued ▸ Nat.le_refl _) same.bans

theorem Filed.after_same {bans : List Ban} (same : SameBans world after)
    (supply : after.supply = world.supply) (h : Filed after bans later) :
    Filed world bans later := by
  cases h with
  | nothing spent issued bans =>
    exact .nothing (same.issued ▸ spent) (same.issued ▸ issued) (bans.trans same.bans)
  | ban ban named active issued bans =>
    refine .ban ban ?_ active (same.issued ▸ issued) (same.bans ▸ bans)
    rw [named, supply, same.issued]

theorem Filed.then_same {bans : List Ban} (h : Filed world bans after)
    (same : SameBans after later) : Filed world bans later := by
  cases h with
  | nothing spent issued bans =>
    exact .nothing (same.issued ▸ spent) (same.issued ▸ issued) (same.bans.trans bans)
  | ban ban named active issued bans =>
    exact .ban ban named active (same.issued.trans issued) (same.bans.trans bans)

namespace Files

theorem of_spares {action : Action α} (h : action.Asks Request.SparesBans) : Files action := by
  intro world
  rw [created_of_spares h]
  exact .of_same (sameBans_of_spares h world)

theorem after_spares {action : Action α} {next : α → Action β}
    (h : action.Asks Request.SparesBans) (rest : ∀ a, Files (next a)) :
    Files (action >>= next) := by
  intro world
  have same := sameBans_of_spares h world
  rw [Action.created_bind, Action.perform_bind, created_of_spares h, List.nil_append]
  cases (action.perform world).1 with
  | ok a => exact (rest a _).after_same same (supply_perform action world)
  | error e => exact .of_same same

theorem then_spares {action : Action α} {next : α → Action β} (h : Files action)
    (rest : ∀ a, (next a).Asks Request.SparesBans) : Files (action >>= next) := by
  intro world
  rw [Action.created_bind, Action.perform_bind]
  cases (action.perform world).1 with
  | ok a =>
    dsimp only
    rw [created_of_spares (rest a), List.append_nil]
    exact (h world).then_same (sameBans_of_spares (rest a) _)
  | error e =>
    dsimp only
    rw [List.append_nil]
    exact h world

theorem map {action : Action α} (f : α → β) (h : Files action) : Files (f <$> action) := by
  intro world
  rw [Action.created_map, Action.perform_map]
  exact h world

theorem ite {yes no : Action α} {c : Prop} [Decidable c] (hyes : Files yes) (hno : Files no) :
    Files (if c then yes else no) := by
  split
  · exact hyes
  · exact hno

theorem guarded {error : Error} {rest : Unit → Action α} {c : Prop} {_ : Decidable c}
    (h : ∀ u, Files (rest u)) : Files (if c then Action.fail error >>= rest else rest ()) :=
  .ite (.after_spares (.fail error) h) (h ())

theorem attempt {action : Action α} (h : Files action) : Files (Moderation.attempt action) := by
  intro world
  rw [created_attempt, perform_attempt]
  exact h world

end Files

/-- Whatever the world is, the bans that the action gives are of one kind. -/
def Gives (kind : Ban → Prop) (action : Action α) : Prop :=
  ∀ world, ∀ ban ∈ action.created world, kind ban

namespace Gives

variable {kind : Ban → Prop}

theorem of_asks {action : Action α}
    (h : action.Asks fun request => request.createdBan? = none) : Gives kind action := by
  intro world ban given
  obtain ⟨request, made, keeps⟩ := List.mem_filterMap.mp given
  have nothing : request.createdBan? = none :=
    Course.Asks.of_mem_asked h Request.perform world request made
  rw [nothing] at keeps
  exact absurd keeps (Option.some_ne_none ban).symm

theorem of_spares {action : Action α} (h : action.Asks Request.SparesBans) :
    Gives kind action := by
  intro world ban given
  rw [created_of_spares h] at given
  exact absurd given List.not_mem_nil

theorem mono {action : Action α} {other : Ban → Prop} (h : Gives kind action)
    (weaker : ∀ ban, kind ban → other ban) : Gives other action :=
  fun world ban given => weaker ban (h world ban given)

theorem bind {action : Action α} {next : α → Action β} (h : Gives kind action)
    (rest : ∀ a, Gives kind (next a)) : Gives kind (action >>= next) := by
  intro world ban given
  rw [Action.created_bind, List.mem_append] at given
  rcases given with early | late
  · exact h world ban early
  · split at late
    · exact rest _ _ ban late
    · exact absurd late List.not_mem_nil

theorem map {action : Action α} (f : α → β) (h : Gives kind action) :
    Gives kind (f <$> action) := by
  intro world ban given
  rw [Action.created_map] at given
  exact h world ban given

theorem ite {yes no : Action α} {c : Prop} [Decidable c] (hyes : Gives kind yes)
    (hno : Gives kind no) : Gives kind (if c then yes else no) := by
  split
  · exact hyes
  · exact hno

theorem attempt {action : Action α} (h : Gives kind action) :
    Gives kind (Moderation.attempt action) := by
  intro world ban given
  rw [created_attempt] at given
  exact h world ban given

end Gives

section Services

variable {p : Request → Prop} {actor : Uuid} {content : String}

theorem asks_checkBan {channel : Option Uuid} (now : p .now)
    (find : ∀ time, p (.findActiveBan actor channel time)) : (checkBan actor channel).Asks p :=
  (Action.Asks.ask now).bind fun time => (Action.Asks.ask (find time)).answered

theorem asks_filterMessage (rules : Rules) (tally : ∀ metric, p (.tally metric)) :
    (filterMessage rules content).Asks p := by
  refine (Action.Asks.ask (tally .messagesChecked)).bind fun _ => ?_
  exact .ite ((Action.Asks.ask (tally .violations)).bind fun _ => .pure _) (.pure _)

theorem asks_detectSpam
    (burst : ∀ window, (Action.countInWindow (Rules.burstKey actor) window).Asks p)
    (duplicates : ∀ window,
      (Action.countInWindow (Rules.duplicateKey actor content) window).Asks p) :
    (detectSpam (Rules.ofConfig config) actor content).Asks p :=
  (burst _).bind fun _ => (duplicates _).bind fun _ => Action.Asks.pure _

theorem asks_readCounter {key : String} (read : p (.readCounter key)) :
    (Action.readCounter key).Asks p :=
  (Action.Asks.ask read).answered

theorem asks_attempt {action : Action α} (h : action.Asks p) : (attempt action).Asks p :=
  (h.bind fun _ => Action.Asks.pure ()).onError fun _ => Action.Asks.pure ()

/-- What was done is announced with the time. -/
theorem asks_announceNow {a : Instant → Announcement} {value : α} (now : p .now)
    (publish : ∀ time, p (.publish (a time).message)) : Action.Asks p (do
      announce (a (← Action.now))
      pure value) :=
  (Action.Asks.ask now).bind fun time => (Action.asks_announce (publish time)).bind fun _ => .pure value

/-- A ban without an administrator is counted and announced. -/
theorem asks_proclaim {cause : BanCause} {a : Instant → Announcement} {ban : Ban} (now : p .now)
    (tally : p (.tally (.autoBans cause))) (publish : ∀ time, p (.publish (a time).message)) :
    Action.Asks p (do
      Action.tally (.autoBans cause)
      announce (a (← Action.now))
      pure ban) :=
  (Action.Asks.ask tally).bind fun _ => asks_announceNow now publish

theorem asks_draftBan {channelId : Option Uuid} {channelType : Option ChannelType} {reason : String}
    {admin : Option Uuid} {hours : Option Int} (now : p .now) (freshId : p .freshId) :
    (draftBan actor channelId channelType reason admin hours).Asks p := by
  refine (Action.Asks.ask now).bind fun createdAt => (Action.Asks.ask freshId).bind fun id => ?_
  cases hours with
  | none => exact .pure _
  | some hours => exact ((Action.Asks.ofOption _).map _).bind fun expiresAt => .pure _

theorem asks_autoBan {scope : Option BanScope} {cause : BanCause} {hours : Int} (now : p .now)
    (freshId : p .freshId) (create : ∀ ban, p (.createBan ban))
    (tally : p (.tally (.autoBans cause)))
    (publish : ∀ ban time, p (.publish (Announcement.autoBan cause ban time).message)) :
    (autoBan actor scope cause hours).Asks p := by
  refine (asks_draftBan now freshId).bind fun ban => ?_
  refine (Action.Asks.ask (create ban)).answered.bind fun ban => ?_
  exact asks_proclaim now tally fun time => publish ban time

theorem asks_autoBanForSpam {scope : Option BanScope}
    (read : p (.readCounter (Rules.burstKey actor)))
    (ban : ∀ hours, (autoBan actor scope .spam hours).Asks p) :
    (autoBanForSpam (Rules.ofConfig config) actor scope).Asks p := by
  refine .ite (.pure none) ((asks_readCounter read).bind fun count => ?_)
  exact .ite (.pure none) ((ban _).map _)

theorem asks_createReport {reporter : Uuid} {request : ReportRequest} (now : p .now)
    (freshId : p .freshId) (create : ∀ report, p (.createReport report))
    (publish : ∀ report time, p (.publish (Announcement.reportCreated report time).message)) :
    (createReport reporter request).Asks p := by
  rw [createReport]
  refine .guarded fun _ => (Action.Asks.ask freshId).bind fun id => ?_
  refine (Action.Asks.ask now).bind fun createdAt => ?_
  refine (Action.Asks.ask (create _)).answered.bind fun report => ?_
  exact asks_announceNow now fun time => publish report time

theorem asks_resolveReport {id admin : Uuid} {status : ReportStatus} (now : p .now)
    (resolve : ∀ time, p (.resolveReport id status admin time)) (find : p (.findReport id))
    (publish : ∀ report time, p (.publish (Announcement.reportResolved report time).message)) :
    (resolveReport id admin status).Asks p := by
  rw [resolveReport]
  refine .guarded fun _ => (Action.Asks.ask now).bind fun time => ?_
  refine (Action.Asks.ask (resolve time)).answered.bind fun report => ?_
  cases report with
  | some report => exact asks_announceNow now fun time => publish report time
  | none =>
    refine (Action.Asks.ask find).answered.bind fun report => ?_
    cases report <;> exact .fail _

end Services

theorem spares_count (key : String) (window : Nat) :
    (Action.countInWindow key window).Asks Request.SparesBans :=
  .countInWindow trivial trivial trivial

theorem perform_store (ban : Ban) (next : Ban → Action β) (world : World) :
    (Action.createBan ban >>= next).perform world =
      (next ban).perform { world with store := world.store.putBan ban } := by
  rw [Action.perform_bind]
  rfl

theorem created_store (ban : Ban) (next : Ban → Action β) (world : World) :
    (Action.createBan ban >>= next).created world =
      ban :: (next ban).created { world with store := world.store.putBan ban } := by
  rw [Action.created_bind]
  rfl

section Drafts

variable (character : Uuid) (channelId : Option Uuid) (channelType : Option ChannelType)
  (reason : String) (admin : Option Uuid) (hours : Option Int)

/-- When the ban ends that is given now, if the calendar reaches there. -/
def expiryOf (now : Instant) : Option Int → Except Failure (Option Instant)
  | none => .ok none
  | some hours => (now.addHours? hours).elim (.error .aborted) fun expiry => .ok (some expiry)

theorem perform_draft (world : World) :
    (draftBan character channelId channelType reason admin hours).perform world =
      ((expiryOf world.now hours).map fun expiresAt =>
          { id := world.supply (world.issued + 1), characterId := character, channelId, channelType,
            reason, adminId := admin, expiresAt, createdAt := world.now, isActive := true },
        { world with issued := world.issued + 1 }) := by
  cases hours with
  | none => rfl
  | some hours =>
    simp only [draftBan, Action.perform_bind, Action.perform_now, Action.perform_freshId,
      Action.perform_map, Action.perform_ofOption, expiryOf]
    cases world.now.addHours? hours <;> rfl

theorem created_draft (world : World) :
    (draftBan character channelId channelType reason admin hours).created world = [] := by
  have stamped : ∀ world, Action.now.created world = [] := fun _ => rfl
  have named : ∀ world, Action.freshId.created world = [] := fun _ => rfl
  cases hours with
  | none => rfl
  | some hours =>
    simp only [draftBan, Action.created_bind, stamped, named, Action.perform_now,
      Action.perform_freshId, Action.created_map, Action.perform_map, Action.perform_ofOption]
    cases world.now.addHours? hours <;> rfl

theorem files_draftBan {next : Ban → Action β} (rest : ∀ ban, (next ban).Asks Request.SparesBans) :
    Files (draftBan character channelId channelType reason admin hours >>= fun ban =>
      Action.createBan ban >>= next) := by
  intro world
  rw [Action.created_bind, Action.perform_bind, created_draft, perform_draft]
  cases expiryOf world.now hours with
  | error e => exact .nothing (Nat.le_refl _) (Nat.le_succ _) rfl
  | ok expiresAt =>
    dsimp only [Except.map]
    rw [created_store, perform_store, created_of_spares (rest _)]
    exact (Filed.ban _ rfl rfl rfl rfl).then_same (sameBans_of_spares (rest _) _)

end Drafts

section Giving

variable {sender : Uuid} {scope : Option BanScope}

theorem files_autoBan (cause : BanCause) (hours : Int) :
    Files (autoBan sender scope cause hours) :=
  files_draftBan _ _ _ _ _ _ fun _ => asks_proclaim trivial trivial fun _ => trivial

theorem files_autoBanForSpam :
    Files (autoBanForSpam (Rules.ofConfig config) sender scope) := by
  refine .ite (.of_spares (.pure none)) (.after_spares (asks_readCounter trivial) fun count => ?_)
  exact .ite (.of_spares (.pure none)) ((files_autoBan _ _).map _)

theorem files_autoBanForViolations (violations : Int) :
    Files (autoBanForViolations (Rules.ofConfig config) sender scope violations) :=
  .ite (.of_spares (.pure none)) ((files_autoBan _ _).map _)

theorem files_recordViolation : Files (recordViolation (Rules.ofConfig config) sender scope) := by
  refine .after_spares (spares_count _ _) fun count => ?_
  refine .ite ((files_autoBanForViolations count).then_spares fun ban => ?_)
    (.of_spares (.pure ()))
  exact .ite (Action.Asks.ask (r := .deleteCounter _) trivial).answered (.pure ())

theorem files_screen (content : String) :
    Files (screen (Rules.ofConfig config) sender scope content) := by
  refine .after_spares (asks_checkBan trivial fun _ => trivial) fun ban => ?_
  cases ban with
  | some ban => exact .of_spares (.pure _)
  | none =>
    refine .after_spares (asks_detectSpam (spares_count _) (spares_count _)) fun isSpam => ?_
    cases isSpam with
    | true => exact files_autoBanForSpam.attempt.then_spares fun _ => .pure _
    | false =>
      refine .after_spares (asks_filterMessage _ fun _ => trivial) fun outcome => ?_
      refine .ite (files_recordViolation.attempt.then_spares fun _ => .pure _) ?_
      exact .of_spares (.pure _)

theorem files_createBan (admin : Uuid) (request : BanRequest) :
    Files (createBan admin request) := by
  refine .guarded fun _ => .guarded fun _ => files_draftBan _ _ _ _ _ _ fun ban => ?_
  exact asks_announceNow trivial fun _ => trivial

/-- An identifier that no ban is given is spent. -/
theorem files_freshId {next : Uuid → Action β} (rest : ∀ id, (next id).Asks Request.SparesBans) :
    Files (Action.freshId >>= next) := by
  intro world
  have spent : Filed world [] { world with issued := world.issued + 1 } :=
    .nothing (Nat.le_refl _) (Nat.le_succ _) rfl
  rw [Action.created_bind, Action.perform_bind, Action.perform_freshId]
  dsimp only
  rw [created_of_spares (rest _)]
  exact spent.then_same (sameBans_of_spares (rest _) _)

theorem files_createReport (reporter : Uuid) (request : ReportRequest) :
    Files (createReport reporter request) := by
  refine .guarded fun _ => files_freshId fun id => ?_
  refine (Action.Asks.ask (r := .now) trivial).bind fun createdAt => ?_
  refine (Action.Asks.ask (r := .createReport _) trivial).answered.bind fun report => ?_
  exact asks_announceNow trivial fun _ => trivial

theorem spares_resolveReport (id admin : Uuid) (status : ReportStatus) :
    (resolveReport id admin status).Asks Request.SparesBans :=
  asks_resolveReport trivial (fun _ => trivial) trivial fun _ _ => trivial

end Giving

/-- A ban that was lifted. -/
def lifted (ban : Ban) : Ban := { ban with isActive := false }

/-- Every call but the one that lifts a ban gives one at most. -/
theorem files_action (operation : Operation) (h : ∀ id, operation ≠ .removeBan id) :
    Files (operation.action (Rules.ofConfig config)) := by
  cases operation with
  | checkBan actor channel => exact .of_spares (asks_checkBan trivial fun _ => trivial)
  | filterMessage content => exact .of_spares (asks_filterMessage _ fun _ => trivial)
  | detectSpam actor content =>
    exact .of_spares (asks_detectSpam (spares_count _) (spares_count _))
  | autoBanForSpam actor scope => exact files_autoBanForSpam
  | autoBanForViolations actor scope violations => exact files_autoBanForViolations violations
  | createBan admin request => exact files_createBan admin request
  | removeBan id => exact absurd rfl (h id)
  | listBans character limit offset =>
    exact .of_spares (Action.Asks.ask (r := .listBans ..) trivial).answered
  | createReport reporter request => exact files_createReport reporter request
  | listReports status limit offset =>
    exact .of_spares (Action.Asks.ask (r := .listReports ..) trivial).answered
  | resolveReport id admin status => exact .of_spares (spares_resolveReport id admin status)
  | screen sender scope content => exact files_screen content

/-- Lifting a ban changes the row of its identifier. -/
theorem lifts_removeBan (id : Uuid) (world : World) :
    (removeBan id).created world = [] ∧
    ((removeBan id).perform world).2.issued = world.issued ∧
    ((removeBan id).perform world).2.store.bans =
      (Table.modify Ban.id id lifted world.store.bans).2 := by
  have answered : (Action.deactivateBan id).perform world =
      (.ok (world.store.deactivateBan id).1,
        { world with store := (world.store.deactivateBan id).2 }) := rfl
  rw [removeBan, Action.created_bind, Action.perform_bind, answered]
  dsimp only
  cases (world.store.deactivateBan id).1 with
  | none => exact ⟨rfl, rfl, rfl⟩
  | some ban =>
    have told : Action.Asks Request.SparesBans (do
        announce (.banRemoved ban (← Action.now))
        pure ban) := asks_announceNow trivial fun _ => trivial
    have same := sameBans_of_spares told
      { world with store := (world.store.deactivateBan id).2 }
    refine ⟨?_, same.issued, same.bans⟩
    rw [created_of_spares told]
    rfl

/-- What a call does to the bans. -/
inductive BanStep (operation : Operation) (world : World) : List Ban → World → Prop
  | filed {bans : List Ban} {after : World} (kept : ∀ id, operation ≠ .removeBan id)
      (filed : Filed world bans after) : BanStep operation world bans after
  | lifted {after : World} (id : Uuid) (removal : operation = .removeBan id)
      (issued : after.issued = world.issued)
      (bans : after.store.bans = (Table.modify Ban.id id lifted world.store.bans).2) :
      BanStep operation world [] after

theorem Call.banStep (call : Call) (world : World) :
    BanStep call.operation world (call.created (Rules.ofConfig config) world)
      (call.after (Rules.ofConfig config) world) := by
  by_cases removal : ∃ id, call.operation = .removeBan id
  · obtain ⟨id, named⟩ := removal
    obtain ⟨time, operation⟩ := call
    obtain rfl : operation = .removeBan id := named
    obtain ⟨created, issued, bans⟩ := lifts_removeBan id (Call.start ⟨time, .removeBan id⟩ world)
    change BanStep _ _ ((removeBan id).created _) _
    rw [created]
    exact .lifted id rfl issued bans
  · have kept : ∀ id, call.operation ≠ .removeBan id := fun id named => removal ⟨id, named⟩
    have filed : Files (call.operation.action (Rules.ofConfig config)) :=
      files_action call.operation kept
    have begun : SameBans world (call.start world) := ⟨rfl, rfl⟩
    exact .filed kept (Filed.after_same begun rfl (filed _))

theorem Call.supply_after (rules : Rules) (call : Call) (world : World) :
    (call.after rules world).supply = world.supply :=
  supply_perform _ (call.start world)

end Moderation

end Parley
