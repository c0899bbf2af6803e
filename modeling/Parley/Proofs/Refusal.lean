import Parley.Guild.Advancement
import Parley.Moderation.Administration
import Parley.Notice.Fanout
import Parley.Proofs.Flow.Steps

/-!
# Refusals without a trace

An action that reports an error has done nothing. Its parts see to that together: what comes before
an error only looks, and what comes after a change is never refused. The services of moderation and
of notices and the handlers of events are of this kind.
-/

namespace Parley

namespace Action

variable {α β : Type}

/-- Where the action is refused, the world is as it was before. -/
def LeavesNoTrace (action : Action α) : Prop :=
  ∀ world e, (action.perform world).1 = .error (.refused e) → (action.perform world).2 = world

/-- The action changes nothing. -/
def Looks (action : Action α) : Prop := ∀ world, (action.perform world).2 = world

/-- The action is never refused. -/
def Unrefused (action : Action α) : Prop :=
  ∀ world e, (action.perform world).1 ≠ .error (.refused e)

namespace Looks

theorem pure (a : α) : Looks (Pure.pure a : Action α) := fun _ => rfl

theorem fail (error : Error) : Looks (fail error : Action α) := fun _ => rfl

theorem now : Looks now := fun _ => rfl

theorem ofAnswer (answer : Except Error α) : Looks (ofAnswer answer) := by
  cases answer <;> exact fun _ => rfl

theorem bind {action : Action α} {next : α → Action β} (first : Looks action)
    (rest : ∀ a, Looks (next a)) : Looks (action >>= next) := by
  intro world
  rw [perform_bind, first world]
  cases (action.perform world).1 with
  | ok a => exact rest a world
  | error e => rfl

theorem ite {yes no : Action α} {c : Prop} [Decidable c] (hyes : Looks yes) (hno : Looks no) :
    Looks (if c then yes else no) := by
  split
  · exact hyes
  · exact hno

end Looks

namespace Unrefused

theorem of_ok {action : Action α} (h : ∀ world, ∃ a, (action.perform world).1 = .ok a) :
    Unrefused action := by
  intro world e refused
  obtain ⟨a, answered⟩ := h world
  exact nomatch answered.symm.trans refused

theorem pure (a : α) : Unrefused (Pure.pure a : Action α) := of_ok fun _ => ⟨a, rfl⟩

theorem ask (r : Request) : Unrefused (ask r) := of_ok fun _ => ⟨_, rfl⟩

theorem ofOption (value? : Option α) : Unrefused (ofOption value?) := by
  intro world e
  rw [perform_ofOption]
  cases value? <;> simp

theorem bind {action : Action α} {next : α → Action β} (first : Unrefused action)
    (rest : ∀ a, Unrefused (next a)) : Unrefused (action >>= next) := by
  intro world e refused
  rw [perform_bind] at refused
  cases result : (action.perform world).1 with
  | ok a =>
    rw [result] at refused
    exact rest a _ e refused
  | error failure =>
    rw [result] at refused
    obtain rfl := Except.error.inj refused
    exact first world e result

theorem map {action : Action α} (f : α → β) (h : Unrefused action) : Unrefused (f <$> action) := by
  rw [map_eq_bind]
  exact h.bind fun a => .pure (f a)

theorem announce (a : Announcement) : Unrefused (announce a) := of_ok fun _ => ⟨(), rfl⟩

/-- What was done is announced with the time. -/
theorem announceNow {a : Calendar.Instant → Announcement} {value : α} : Unrefused (do
    Parley.announce (a (← Action.now))
    Pure.pure value) :=
  (ask .now).bind fun _ => (announce _).bind fun _ => .pure value

end Unrefused

namespace LeavesNoTrace

theorem of_looks {action : Action α} (h : Looks action) : LeavesNoTrace action :=
  fun world _ _ => h world

theorem of_unrefused {action : Action α} (h : Unrefused action) : LeavesNoTrace action :=
  fun world e refused => absurd refused (h world e)

/-- After each answer, either nothing was changed so far or nothing will be refused. -/
theorem bind {action : Action α} {next : α → Action β} (first : LeavesNoTrace action)
    (rest : ∀ world a, (action.perform world).1 = .ok a →
      Unrefused (next a) ∨ (action.perform world).2 = world ∧ LeavesNoTrace (next a)) :
    LeavesNoTrace (action >>= next) := by
  intro world e refused
  rw [perform_bind] at refused ⊢
  cases result : (action.perform world).1 with
  | ok a =>
    rw [result] at refused
    dsimp only at refused ⊢
    rcases rest world a result with unrefused | ⟨unchanged, clean⟩
    · exact absurd refused (unrefused _ e)
    · rw [unchanged] at refused ⊢
      exact clean world e refused
  | error failure =>
    rw [result] at refused
    obtain rfl := Except.error.inj refused
    exact first world e result

theorem after_looks {action : Action α} {next : α → Action β} (h : Looks action)
    (rest : ∀ a, LeavesNoTrace (next a)) : LeavesNoTrace (action >>= next) :=
  (of_looks h).bind fun world a _ => .inr ⟨h world, rest a⟩

theorem then_unrefused {action : Action α} {next : α → Action β} (h : LeavesNoTrace action)
    (rest : ∀ a, Unrefused (next a)) : LeavesNoTrace (action >>= next) :=
  h.bind fun _ a _ => .inl (rest a)

theorem ite {yes no : Action α} {c : Prop} [Decidable c] (hyes : LeavesNoTrace yes)
    (hno : LeavesNoTrace no) : LeavesNoTrace (if c then yes else no) := by
  split
  · exact hyes
  · exact hno

theorem guarded {error : Error} {rest : Unit → Action α} {c : Prop} {_ : Decidable c}
    (h : ∀ u, LeavesNoTrace (rest u)) :
    LeavesNoTrace (if c then Action.fail error >>= rest else rest ()) :=
  .ite (.after_looks (.fail error) h) (h ())

end LeavesNoTrace

end Action

namespace Store

variable {store : Store} {id : Uuid}

theorem deactivateBan_of_none (missing : (store.deactivateBan id).1 = none) :
    (store.deactivateBan id).2 = store :=
  congrArg (fun bans => { store with bans }) (Table.modify_of_none missing)

theorem setNoticeStatus_of_none {status : NoticeStatus}
    (missing : (store.setNoticeStatus id status).1 = none) :
    (store.setNoticeStatus id status).2 = store :=
  congrArg (fun notices => { store with notices }) (Table.modify_of_none missing)

theorem resolveReport_of_none {status : ReportStatus} {admin : Uuid} {time : Calendar.Instant}
    (missing : (store.resolveReport id status admin time).1 = none) :
    (store.resolveReport id status admin time).2 = store := by
  rw [resolveReport] at missing ⊢
  split
  · rfl
  · next report found =>
    split
    · next pending => simp [found, pending] at missing
    · rfl

end Store

namespace Action

theorem LeavesNoTrace.setGuildLevel (guild : Uuid) (level experience : Int) :
    LeavesNoTrace (setGuildLevel guild level experience) := by
  intro world e refused
  rw [perform_setGuildLevel] at refused ⊢
  cases changed : world.store.setGuildLevel guild level experience world.now with
  | some store => simp [changed] at refused
  | none => rfl

theorem Unrefused.draftBan (character : Uuid) (channelId : Option Uuid)
    (channelType : Option ChannelType) (reason : String) (admin : Option Uuid)
    (hours : Option Int) :
    Unrefused (draftBan character channelId channelType reason admin hours) := by
  refine (ask .now).bind fun createdAt => (ask .freshId).bind fun id => ?_
  cases hours with
  | none => exact .pure _
  | some hours => exact ((ofOption _).map _).bind fun expiresAt => .pure _

end Action

open Parley.Action (Looks Unrefused LeavesNoTrace)

namespace Moderation

theorem leavesNoTrace_createBan (admin : Uuid) (request : BanRequest) :
    (createBan admin request).LeavesNoTrace := by
  refine .guarded fun _ => .guarded fun _ => .of_unrefused ?_
  refine (Unrefused.draftBan _ _ _ _ _ _).bind fun ban => ?_
  have stored : Unrefused (Action.createBan ban) := .of_ok fun _ => ⟨ban, rfl⟩
  exact stored.bind fun ban => .announceNow

theorem leavesNoTrace_removeBan (id : Uuid) : (removeBan id).LeavesNoTrace := by
  have lifted : Unrefused (Action.deactivateBan id) := .of_ok fun _ => ⟨_, rfl⟩
  refine (LeavesNoTrace.of_unrefused lifted).bind fun world ban answered => ?_
  cases ban with
  | some ban => exact .inl .announceNow
  | none =>
    have missing : (world.store.deactivateBan id).1 = none := Except.ok.inj answered
    have unchanged : ((Action.deactivateBan id).perform world).2 = world :=
      congrArg (fun store => { world with store }) (Store.deactivateBan_of_none missing)
    exact .inr ⟨unchanged, .of_looks (.fail _)⟩

theorem leavesNoTrace_createReport (reporter : Uuid) (request : ReportRequest) :
    (createReport reporter request).LeavesNoTrace := by
  rw [createReport]
  refine .guarded fun _ => .of_unrefused ?_
  refine (Unrefused.ask .freshId).bind fun id => (Unrefused.ask .now).bind fun createdAt => ?_
  refine .bind (.of_ok fun _ => ⟨_, rfl⟩) fun report => ?_
  exact .announceNow

theorem leavesNoTrace_resolveReport (id admin : Uuid) (status : ReportStatus) :
    (resolveReport id admin status).LeavesNoTrace := by
  rw [resolveReport]
  refine .guarded fun _ => .after_looks .now fun time => ?_
  have decided : Unrefused (Action.resolveReport id status admin time) := .of_ok fun _ => ⟨_, rfl⟩
  refine (LeavesNoTrace.of_unrefused decided).bind fun world report answered => ?_
  cases report with
  | some report => exact .inl .announceNow
  | none =>
    have missing : (world.store.resolveReport id status admin time).1 = none :=
      Except.ok.inj answered
    have unchanged : ((Action.resolveReport id status admin time).perform world).2 = world :=
      congrArg (fun store => { world with store }) (Store.resolveReport_of_none missing)
    have found : Looks (Action.findReport id) := fun _ => rfl
    refine .inr ⟨unchanged, .after_looks found fun report => ?_⟩
    cases report <;> exact .of_looks (.fail _)

end Moderation

namespace Inbox

theorem leavesNoTrace_create (request : NotificationRequest) : (create request).LeavesNoTrace := by
  rw [create]
  refine .guarded fun _ => .of_unrefused ?_
  refine (Unrefused.ask .freshId).bind fun id => (Unrefused.ask .now).bind fun createdAt => ?_
  exact .of_ok fun _ => ⟨_, rfl⟩

theorem looks_get (id : Uuid) : Looks (get id) := by
  have found : Looks (Action.findNotice id) := fun _ => rfl
  refine found.bind fun notice => ?_
  cases notice with
  | some notice => exact .pure _
  | none => exact .fail _

theorem looks_preferences (account : Uuid) : Looks (preferences account) := by
  have found : Looks (Action.findPreferences account) := fun _ => rfl
  refine found.bind fun prefs => ?_
  cases prefs with
  | some prefs => exact .pure _
  | none => exact Looks.now.bind fun _ => .pure _

theorem leavesNoTrace_mark (id : Uuid) (status : NoticeStatus) :
    (mark id status).LeavesNoTrace := by
  refine .after_looks (looks_get id) fun current => .guarded fun _ => ?_
  have marked : Unrefused (Action.setNoticeStatus id status) := .of_ok fun _ => ⟨_, rfl⟩
  refine (LeavesNoTrace.of_unrefused marked).bind fun world notice answered => ?_
  cases notice with
  | some notice => exact .inl (.pure _)
  | none =>
    have missing : (world.store.setNoticeStatus id status).1 = none := Except.ok.inj answered
    have unchanged : ((Action.setNoticeStatus id status).perform world).2 = world :=
      congrArg (fun store => { world with store }) (Store.setNoticeStatus_of_none missing)
    exact .inr ⟨unchanged, .of_looks (.fail _)⟩

end Inbox

theorem Fanout.leavesNoTrace_handle (topic : String) (payload : Payload) :
    (handle topic payload).LeavesNoTrace := by
  refine .after_looks (.ofAnswer _) fun account => ?_
  cases account with
  | none => exact .of_looks (.pure _)
  | some account =>
    refine .after_looks (Inbox.looks_preferences account) fun prefs => ?_
    refine .ite (.of_looks (.pure _)) (.after_looks (.ofAnswer _) fun request => ?_)
    refine (Inbox.leavesNoTrace_create request).then_unrefused fun notice => ?_
    split
    · exact (Unrefused.announce _).bind fun _ => .pure _
    · exact .pure _

namespace Advancement

theorem looks_firstWithMember (character : Uuid) (guilds : List Guild) :
    Looks (firstWithMember character guilds) := by
  induction guilds with
  | nil => exact .pure none
  | cons guild rest ih =>
    have found : Looks (Action.findMember guild.id character) := fun _ => rfl
    exact found.bind fun member => .ite (.pure _) ih

theorem looks_scan (character : Uuid) (bound : Nat) (offset : Int) :
    Looks (scan character bound offset) := by
  induction bound generalizing offset with
  | zero => exact .pure none
  | succ bound ih =>
    have listed : Looks (Action.listActiveGuilds World.guildPageSize offset) := fun _ => rfl
    refine listed.bind fun page => (looks_firstWithMember character page).bind fun guild => ?_
    cases guild with
    | some guild => exact .pure _
    | none => exact .ite (.pure _) (ih _)

theorem looks_guildOf (character : Uuid) : Looks (guildOf character) := by
  have bounded : Looks (Action.ask .guildPageBound) := fun _ => rfl
  exact bounded.bind fun bound => looks_scan character bound 0

/-- However the guild of a character is found. -/
theorem leavesNoTrace_handle (config : Config.GuildProgression)
    {find : Uuid → Action (Option Guild)} (looks : ∀ character, Looks (find character))
    (topic : String) (payload : Payload) : (handle config find topic payload).LeavesNoTrace := by
  refine .ite (.of_looks (.pure _)) (.after_looks (.ofAnswer _) fun character => ?_)
  cases character with
  | none => exact .of_looks (.pure _)
  | some character =>
    refine .after_looks (looks character) fun guild => ?_
    cases guild with
    | none => exact .of_looks (.pure _)
    | some guild =>
      refine (LeavesNoTrace.setGuildLevel _ _ _).then_unrefused fun _ => ?_
      split
      · exact (Unrefused.ask .now).bind fun _ => (Unrefused.announce _).bind fun _ => .pure _
      · exact .pure _

end Advancement

/-- A call that reports an error leaves the whole world as it was before: all tables, the counters
and what was published. -/
theorem leavesNoTrace_services (config : Config.GuildProgression) :
    (∀ admin request, (Moderation.createBan admin request).LeavesNoTrace) ∧
    (∀ id, (Moderation.removeBan id).LeavesNoTrace) ∧
    (∀ reporter request, (Moderation.createReport reporter request).LeavesNoTrace) ∧
    (∀ id admin status, (Moderation.resolveReport id admin status).LeavesNoTrace) ∧
    (∀ request, (Inbox.create request).LeavesNoTrace) ∧
    (∀ id, (Inbox.get id).LeavesNoTrace) ∧
    (∀ id status, (Inbox.mark id status).LeavesNoTrace) ∧
    (∀ topic payload, (Fanout.handler.handle topic payload).LeavesNoTrace) ∧
    (∀ topic payload, ((Advancement.handler config).handle topic payload).LeavesNoTrace) :=
  ⟨Moderation.leavesNoTrace_createBan, Moderation.leavesNoTrace_removeBan,
    Moderation.leavesNoTrace_createReport, Moderation.leavesNoTrace_resolveReport,
    Inbox.leavesNoTrace_create, fun id => .of_looks (Inbox.looks_get id),
    Inbox.leavesNoTrace_mark, Fanout.leavesNoTrace_handle,
    Advancement.leavesNoTrace_handle config Advancement.looks_guildOf⟩

/-- An event that names its character by a number is reported and forgotten. -/
theorem leavesNoTrace_services_number :
    let payload := Payload.empty.insert "character_id" (Json.ofInt 5)
    let outcome :=
      ((Advancement.handler {}).handle "events:character:level-up:5" payload).perform {}
    outcome.1 = .error (.refused (.validation
      "field `character_id` expected string, got number")) ∧ outcome.2 = {} := by
  intro payload outcome
  have reported : outcome.1 = .error (.refused (.validation
      "field `character_id` expected string, got number")) := by decide +kernel
  have clean := (leavesNoTrace_services {}).2.2.2.2.2.2.2.2
  exact ⟨reported, clean "events:character:level-up:5" payload {} _ reported⟩

end Parley
