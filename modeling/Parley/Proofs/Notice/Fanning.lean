import Parley.Notice.Fanout
import Parley.Proofs.Session.Calm
import Parley.Proofs.Session.Sending

/-!
# What an event comes to in an inbox

An event is refused, or it is skipped, or it asks for one notification. Which of them it is depends on
the event and on the preferences that are stored, and on nothing else in the world.
-/

namespace Parley

open Calendar (Instant)

/-- The notification that a request comes to now. -/
def World.noticeFor (world : World) (request : NotificationRequest) : Notification :=
  Notification.ofRequest (world.supply (world.issued + 1)) world.now request

/-- The world after a request for a notification: it is stored, and pushed if it goes over the
socket. -/
def World.notified (world : World) (request : NotificationRequest) : World :=
  let stored := { world with
    issued := world.issued + 1
    store := world.store.putNotice (world.noticeFor request) }
  if request.channels.contains .webSocket then
    stored.announced (.noticePushed (world.noticeFor request) request.data)
  else stored

theorem World.store_notified (world : World) (request : NotificationRequest) :
    (world.notified request).store = world.store.putNotice (world.noticeFor request) := by
  rw [notified]
  split <;> rfl

theorem World.supply_notified (world : World) (request : NotificationRequest) :
    (world.notified request).supply = world.supply := by
  rw [notified]
  split <;> rfl

theorem World.issued_notified (world : World) (request : NotificationRequest) :
    (world.notified request).issued = world.issued + 1 := by
  rw [notified]
  split <;> rfl

/-- A notification whose identifier is new comes last. -/
theorem World.putNotice_noticeFor {world : World}
    (unused : world.supply (world.issued + 1) ∉ world.store.notices.map Notification.id)
    (request : NotificationRequest) : world.store.putNotice (world.noticeFor request) =
      { world.store with notices := world.store.notices ++ [world.noticeFor request] } :=
  congrArg (fun notices => { world.store with notices }) (Table.put_of_notMem unused)

theorem Announcement.topic_noticePushed (notice : Notification) (data : Json.Members) :
    (noticePushed notice data).topic =
      "events:notification:websocket:" ++ toString notice.accountId := by
  have joined : "events:" ++ "notification:websocket:" = "events:notification:websocket:" := by
    decide
  exact (@String.append_assoc "events:" "notification:websocket:" _).symm.trans
    (congrArg (· ++ toString notice.accountId) joined)

namespace Inbox

variable {p : Request → Prop} (world : World)

theorem perform_preferences (account : Uuid) : (preferences account).perform world =
    (.ok ((world.store.preferences? account).getD (Preferences.initial account world.now)), world) := by
  have found : (Action.findPreferences account).perform world =
      (.ok (world.store.preferences? account), world) := rfl
  rw [preferences, Action.perform_bind, found]
  cases world.store.preferences? account <;> rfl

theorem perform_create (request : NotificationRequest) : (create request).perform world =
    if Text.allBlank request.title.toList then (.error (.refused Complaint.title), world)
    else (.ok (world.noticeFor request), { world with
      issued := world.issued + 1, store := world.store.putNotice (world.noticeFor request) }) := by
  rw [create]
  split
  · rfl
  · rfl

theorem asks_preferences {account : Uuid} (now : p .now) (find : p (.findPreferences account)) :
    (preferences account).Asks p := by
  refine Action.Asks.bind (.answered (.ask find)) fun found => ?_
  cases found with
  | none => exact .bind (.ask now) fun time => .pure _
  | some prefs => exact .pure prefs

theorem asks_create (now : p .now) (freshId : p .freshId)
    (store : ∀ notice, p (.createNotice notice)) (request : NotificationRequest) :
    (create request).Asks p := by
  have stored : ∀ _ : Unit, Action.Asks p (do
      let id ← Action.freshId
      Action.createNotice (Notification.ofRequest id (← Action.now) request)) := fun _ =>
    .bind (.ask freshId) fun id => .bind (.ask now) fun time => .answered (.ask (store _))
  exact Action.Asks.guarded stored

theorem steady_preferences (account : Uuid) : (preferences account).Steady := by
  refine .bind (.answered (.ask _)) fun found => ?_
  cases found with
  | none => exact .bind (.ask _) fun time => .pure _
  | some prefs => exact .pure prefs

theorem steady_create (request : NotificationRequest) : (create request).Steady := by
  have stored : ∀ _ : Unit, Action.Steady (do
      let id ← Action.freshId
      Action.createNotice (Notification.ofRequest id (← Action.now) request)) := fun _ =>
    .bind (.ask _) fun id => .bind (.ask _) fun time => .answered (.ask _)
  rw [create]
  exact .ite (.bind (.ofAnswer (.error Complaint.title)) stored) (stored ())

end Inbox

namespace Fanout

/-- What an event asks for under the preferences that are stored, if it asks for a notification. -/
def verdict (rows : List Preferences) (topic : String) (payload : Payload) :
    Except Error (Option NotificationRequest) := do
  match ← account? payload with
  | none => pure none
  | some account =>
    let found := Table.find? Preferences.accountId account rows
    let prefs := found.getD (Preferences.initial account default)
    if !prefs.allows (NoticeKind.ofTopic topic) then pure none
    else
      let request ← requestFor topic payload account prefs
      if Text.allBlank request.title.toList then throw Inbox.Complaint.title
      else pure (some request)

/-- The preferences of an account that never chose do not depend on the time, but for their date. -/
theorem preferences_at (found : Option Preferences) (topic : String) (payload : Payload)
    (account : Uuid) (time : Instant) :
    let prefs := found.getD (Preferences.initial account time)
    let undated := found.getD (Preferences.initial account default)
    prefs.allows (NoticeKind.ofTopic topic) = undated.allows (NoticeKind.ofTopic topic) ∧
      requestFor topic payload account prefs = requestFor topic payload account undated := by
  cases found with
  | some prefs => exact ⟨rfl, rfl⟩
  | none =>
    refine ⟨?_, rfl⟩
    cases NoticeKind.ofTopic topic <;> rfl

/-- A notification carries the event that it was asked for by. -/
theorem data_of_requestFor {topic : String} {payload : Payload} {account : Uuid}
    {prefs : Preferences} {request : NotificationRequest}
    (asked : requestFor topic payload account prefs = .ok request) :
    request.data = payload.members := by
  simp only [requestFor, bind, Except.bind, pure, Except.pure] at asked
  split at asked
  · cases asked
  · split at asked
    · cases asked
    · split at asked
      · cases asked
      · exact (Except.ok.inj asked) ▸ rfl

/-- For an event the handler does what its verdict says. -/
theorem perform_handle (topic : String) (payload : Payload) (world : World) :
    (handle topic payload).perform world =
      match verdict world.store.preferences topic payload with
      | .error e => (.error (.refused e), world)
      | .ok none => (.ok .skipped, world)
      | .ok (some request) => (.ok .processed, world.notified request) := by
  rw [handle, Action.perform_bind, verdict]
  cases account? payload with
  | error e => rfl
  | ok account? =>
    cases account? with
    | none => rfl
    | some account =>
      obtain ⟨allows, asks⟩ := preferences_at (world.store.preferences? account) topic payload
        account world.now
      change Action.perform (Inbox.preferences account >>= _) world = _
      rw [Action.perform_bind, Inbox.perform_preferences]
      change (if !Preferences.allows _ _ then pure Handled.skipped else _ : Action Handled).perform
        world = _
      rw [Store.preferences?] at allows asks ⊢
      simp only [bind, Except.bind, ← allows, ← asks]
      split
      · rfl
      · cases asked : requestFor topic payload account
            ((Table.find? Preferences.accountId account world.store.preferences).getD
              (Preferences.initial account world.now)) with
        | error e => rfl
        | ok request =>
          change Action.perform (Inbox.create request >>= _) world = _
          rw [Action.perform_bind, Inbox.perform_create, ← data_of_requestFor asked]
          dsimp only
          by_cases blank : Text.allBlank request.title.toList
          · rw [if_pos blank, if_pos blank]
            rfl
          · rw [if_neg blank, if_neg blank]
            dsimp only [pure, Except.pure]
            rw [World.notified]
            split <;> rfl

/-- What becomes of a message, and what it asks for. -/
def heard (rows : List Preferences) (message : Message) : Fate × Option NotificationRequest :=
  if handler.wants message.topic then
    match Payload.ofBody message.body with
    | .error _ => (.settled .decodeError, none)
    | .ok payload =>
      match verdict rows message.topic payload with
      | .error _ => (.settled .failed, none)
      | .ok none => (.settled .skipped, none)
      | .ok (some request) => (.settled .processed, some request)
  else (.ignored, none)

theorem treat_handler (message : Message) (world : World) :
    handler.treat message world = ((heard world.store.preferences message).1,
      (heard world.store.preferences message).2.elim world world.notified) := by
  rw [Handler.treat, heard]
  split
  · cases Payload.ofBody message.body with
    | error e => rfl
    | ok payload =>
      dsimp only
      change ((Listener.outcome ((handle message.topic payload).perform world).1).elim Fate.silenced .settled,
        ((handle message.topic payload).perform world).2) = _
      rw [perform_handle]
      cases verdict world.store.preferences message.topic payload with
      | error e => rfl
      | ok request? => cases request? <;> rfl
  · rfl

/-- The requests that the handler makes. -/
theorem asks_handle {p : Request → Prop} (now : p .now) (freshId : p .freshId)
    (find : ∀ account, p (.findPreferences account)) (create : ∀ notice, p (.createNotice notice))
    (publish : ∀ message, p (.publish message)) (topic : String) (payload : Payload) :
    (handle topic payload).Asks p := by
  refine .bind (.ofAnswer _) fun account? => ?_
  cases account? with
  | none => exact .pure _
  | some account =>
    refine .bind (Inbox.asks_preferences now (find account)) fun prefs => .ite (.pure _) ?_
    refine .bind (.ofAnswer _) fun request => ?_
    refine .bind (Inbox.asks_create now freshId create request) fun notice => ?_
    exact .ite (.bind (Action.asks_announce (publish _)) fun _ => .pure _) (.pure _)

/-- The handler is never aborted. -/
theorem steady_handle (topic : String) (payload : Payload) : (handle topic payload).Steady := by
  refine .bind (.ofAnswer _) fun account? => ?_
  cases account? with
  | none => exact .pure _
  | some account =>
    refine .bind (Inbox.steady_preferences account) fun prefs => .ite (.pure _) ?_
    refine .bind (.ofAnswer _) fun request => .bind (Inbox.steady_create request) fun notice => ?_
    exact .ite (.bind (Action.steady_announce _) fun _ => .pure _) (.pure _)

theorem prompt_handler : handler.Prompt :=
  asks_handle nofun nofun (fun _ _ => nofun) (fun _ _ => nofun) (fun _ _ => nofun)

end Fanout

end Parley
