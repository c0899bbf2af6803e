import Parley.Proofs.Event.Fields
import Parley.Proofs.Json.Members
import Parley.Proofs.Letter.Case
import Parley.Proofs.Notice.Channels
import Parley.Proofs.Notice.Fanning

/-!
# The notification that an event calls for

Whom an event is for, and which notification it calls for, is told from the fields of its payload and
from the preferences of the account. The event is skipped, or it is refused and nothing is done, or
this one notification is stored. If it goes over the socket it is pushed along with the fields of the
event, none of which takes the place of one of its own.
-/

namespace Parley

/-- A text is the name of a priority, in letters of any case. -/
def Priority.IsNamed (priority : Priority) (text : String) : Prop :=
  text.toList.map Letter.lowerAscii = (Named.name priority).toList

theorem Priority.parse?_eq_some_iff {priority : Priority} {text : String} :
    Priority.parse? text = some priority ↔ priority.IsNamed text := by
  have named : ∀ name : String, (Named.ofName? name : Option Priority) = some priority ↔
      name = Named.name priority := by
    refine fun name => ⟨fun found => ?_, ?_⟩
    · have same := List.find?_some found
      exact (beq_iff_eq.mp same).symm
    · rintro rfl
      cases priority <;> rfl
  have ascii : ∀ d ∈ (Named.name priority).toList, d.toNat < 128 ∧ d ≠ 'k' := by
    cases priority <;> decide
  rw [parse?, named, IsNamed, ← Letter.lowerAll_eq_iff ascii, ← String.toList_inj,
    String.toList_ofList]

namespace Payload

/-- Whom an event is for: the account that it names, or else the character. -/
def IsFor (payload : Payload) (id : Uuid) : Prop :=
  payload.Identifies "account_id" id ∨
    payload.IsAbsent "account_id" ∧ payload.Identifies "character_id" id

/-- An event that names neither an account nor a character. -/
def IsForNobody (payload : Payload) : Prop :=
  payload.IsAbsent "account_id" ∧ payload.IsAbsent "character_id"

/-- The priority that an event names, or the medium one if it names none. -/
inductive HasPriority (payload : Payload) : Priority → Prop
  | absent (absent : payload.IsAbsent "priority") : HasPriority payload .medium
  | named {text : String} {priority : Priority} (given : payload.Says "priority" text)
    (named : priority.IsNamed text) : HasPriority payload priority
  | unknown {text : String} (given : payload.Says "priority" text)
    (unknown : ∀ priority : Priority, ¬ priority.IsNamed text) : HasPriority payload .medium

/-- The title that an event shows, or the one of its kind. -/
def HasTitle (payload : Payload) (kind : NoticeKind) (title : String) : Prop :=
  payload.Shows "title" title ∨ payload.ShowsNothing "title" ∧ title = kind.defaultTitle

/-- What the first of the fields shows that shows something, or nothing. -/
def HasContent (payload : Payload) : List String → String → Prop
  | [], content => content = ""
  | key :: rest, content =>
    payload.Shows key content ∨ payload.ShowsNothing key ∧ HasContent payload rest content

variable {payload : Payload}

theorem hasPriority_iff {priority : Priority} : payload.HasPriority priority ↔
    ∃ found, payload.text? "priority" = .ok found ∧
      (found.bind Priority.parse?).getD default = priority := by
  constructor
  · rintro (absent | ⟨given, named⟩ | ⟨given, unknown⟩)
    · exact ⟨none, text?_eq_none_iff.mpr absent, rfl⟩
    · refine ⟨_, text?_eq_some_iff.mpr given, ?_⟩
      rw [Option.bind_some, Priority.parse?_eq_some_iff.mpr named, Option.getD_some]
    · next text =>
      refine ⟨_, text?_eq_some_iff.mpr given, ?_⟩
      have none : Priority.parse? text = none := Option.eq_none_iff_forall_ne_some.mpr
        fun priority parsed => unknown priority (Priority.parse?_eq_some_iff.mp parsed)
      rw [Option.bind_some, none]
      rfl
  · rintro ⟨found, read, rfl⟩
    cases found with
    | none => exact .absent (text?_eq_none_iff.mp read)
    | some text =>
      have given := text?_eq_some_iff.mp read
      rw [Option.bind_some]
      cases parsed : Priority.parse? text with
      | none =>
        refine .unknown given fun priority named => ?_
        cases parsed.symm.trans (Priority.parse?_eq_some_iff.mpr named)
      | some priority => exact .named given (Priority.parse?_eq_some_iff.mp parsed)

theorem hasTitle_iff {kind : NoticeKind} {title : String} : payload.HasTitle kind title ↔
    ∃ found, payload.visibleText? "title" = .ok found ∧ found.getD kind.defaultTitle = title := by
  constructor
  · rintro (shows | ⟨nothing, rfl⟩)
    · exact ⟨some title, visibleText?_eq_some_iff.mpr shows, rfl⟩
    · exact ⟨none, visibleText?_eq_none_iff.mpr nothing, rfl⟩
  · rintro ⟨found, read, rfl⟩
    cases found with
    | none => exact .inr ⟨visibleText?_eq_none_iff.mp read, rfl⟩
    | some title => exact .inl (visibleText?_eq_some_iff.mp read)

/-- No title is blank. -/
theorem HasTitle.visible {kind : NoticeKind} {title : String}
    (titled : payload.HasTitle kind title) : Text.allBlank title.toList = false := by
  rcases titled with shows | ⟨-, rfl⟩
  · exact shows.2
  · cases kind <;> rfl

end Payload

namespace Fanout

open Payload

variable {payload : Payload} {account : Uuid}

theorem account?_eq_some_iff : account? payload = .ok (some account) ↔ payload.IsFor account := by
  rw [IsFor, ← uuid?_eq_some_iff, ← uuid?_eq_none_iff, ← uuid?_eq_some_iff, account?]
  rcases payload.uuid? "account_id" with e | _ | id
  · exact iff_of_false nofun (by rintro (⟨⟨⟩⟩ | ⟨⟨⟩, -⟩))
  · exact ⟨fun found => .inr ⟨rfl, found⟩, fun found => (found.resolve_left nofun).2⟩
  · exact ⟨.inl, fun found => found.resolve_right (nofun ∘ And.left)⟩

theorem account?_eq_none_iff : account? payload = .ok none ↔ payload.IsForNobody := by
  rw [IsForNobody, ← uuid?_eq_none_iff, ← uuid?_eq_none_iff, account?]
  rcases payload.uuid? "account_id" with e | _ | id
  · exact iff_of_false nofun (nofun ∘ And.left)
  · exact ⟨fun found => ⟨rfl, found⟩, And.right⟩
  · exact iff_of_false nofun (nofun ∘ And.left)

theorem content_eq_ok_iff {fields : List String} {text : String} :
    content payload fields = .ok text ↔ payload.HasContent fields text := by
  induction fields with
  | nil => exact ⟨fun found => (Except.ok.inj found).symm, fun none => congrArg Except.ok none.symm⟩
  | cons key rest ih =>
    rw [HasContent, ← visibleText?_eq_some_iff, ← visibleText?_eq_none_iff, ← ih, content]
    rcases payload.visibleText? key with e | _ | shown
    · exact iff_of_false nofun (by rintro (⟨⟨⟩⟩ | ⟨⟨⟩, -⟩))
    · exact ⟨fun later => .inr ⟨rfl, later⟩, fun found => (found.resolve_left nofun).2⟩
    · refine ⟨fun found => .inl (congrArg _ ?_), fun found => ?_⟩
      · exact congrArg some (Except.ok.inj found)
      · obtain ⟨rfl⟩ := found.resolve_right (nofun ∘ And.left)
        rfl

theorem requestFor_eq_ok_iff {topic : String} {prefs : Preferences}
    {request : NotificationRequest} : requestFor topic payload account prefs = .ok request ↔
      ∃ priority title content, payload.HasPriority priority ∧
        payload.HasTitle (.ofTopic topic) title ∧ payload.HasContent contentFields content ∧
        request = { accountId := account, kind := .ofTopic topic, priority, title, content,
                    data := payload.members, channels := prefs.resolveChannels priority,
                    expiresAt := none } := by
  simp only [hasPriority_iff, hasTitle_iff, ← content_eq_ok_iff]
  rw [requestFor]
  rcases payload.text? "priority" with e | found
  · exact iff_of_false (by rintro ⟨⟩) (by rintro ⟨_, _, _, ⟨_, ⟨⟩, _⟩, _⟩)
  rcases payload.visibleText? "title" with e | shown
  · exact iff_of_false (by rintro ⟨⟩) (by rintro ⟨_, _, _, _, ⟨_, ⟨⟩, _⟩, _⟩)
  rcases content payload contentFields with e | text
  · exact iff_of_false (by rintro ⟨⟩) (by rintro ⟨_, _, _, _, _, ⟨⟩, _⟩)
  constructor
  · rintro ⟨⟩
    exact ⟨_, _, _, ⟨_, rfl, rfl⟩, ⟨_, rfl, rfl⟩, rfl, rfl⟩
  · rintro ⟨_, _, _, ⟨_, ⟨⟩, rfl⟩, ⟨_, ⟨⟩, rfl⟩, ⟨⟩, rfl⟩
    rfl

end Fanout

/-- The preferences of an account, or the initial ones if it never chose. -/
def World.preferencesOf (world : World) (account : Uuid) : Preferences :=
  (world.store.preferences? account).getD (Preferences.initial account world.now)

/-- An event that is for nobody, or for an account that has switched its kind off. -/
def World.Overlooks (world : World) (topic : String) (payload : Payload) : Prop :=
  payload.IsForNobody ∨
    ∃ account, payload.IsFor account ∧
      (world.preferencesOf account).allows (.ofTopic topic) = false

/-- What an event calls for: a notification of the account that it is for, of a kind that is not
switched off, with all the fields of the event. -/
structure World.CallsFor (world : World) (topic : String) (payload : Payload)
    (notice : Notification) : Prop where
  account : payload.IsFor notice.accountId
  kind : notice.kind = .ofTopic topic
  allowed : (world.preferencesOf notice.accountId).allows notice.kind = true
  priority : payload.HasPriority notice.priority
  title : payload.HasTitle notice.kind notice.title
  content : payload.HasContent ["content", "message", "description"] notice.content
  data : notice.data = payload.members
  status : notice.status = .unread
  channels : notice.channels =
    (world.preferencesOf notice.accountId).resolveChannels notice.priority
  expiresAt : notice.expiresAt = none

namespace Fanout

variable {world : World} {topic : String} {payload : Payload} {request : NotificationRequest}

/-- An event that is for nobody asks for nothing. -/
theorem verdict_of_nobody (rows : List Preferences) (nobody : payload.IsForNobody)
    (topic : String) : verdict rows topic payload = .ok none := by
  rw [verdict, account?_eq_none_iff.mpr nobody]
  rfl

/-- What an event comes to that is for an account. -/
theorem verdict_of_isFor {account : Uuid} (known : payload.IsFor account) :
    verdict world.store.preferences topic payload =
      if (world.preferencesOf account).allows (.ofTopic topic) then
        (requestFor topic payload account (world.preferencesOf account)).map some
      else .ok none := by
  obtain ⟨allows, asks⟩ := preferences_at (world.store.preferences? account) topic payload account
    world.now
  rw [Store.preferences?] at allows asks
  rw [verdict, account?_eq_some_iff.mpr known, World.preferencesOf, Store.preferences?, allows, asks]
  dsimp only [bind, Except.bind]
  cases Preferences.allows _ (.ofTopic topic) with
  | false => rfl
  | true =>
    rw [if_neg (of_decide_eq_false rfl), if_pos rfl]
    cases asked : requestFor topic payload account
        ((Table.find? Preferences.accountId account world.store.preferences).getD
          (Preferences.initial account default)) with
    | error e => rfl
    | ok request =>
      have visible : Text.allBlank request.title.toList = false := by
        obtain ⟨_, _, _, -, titled, -, rfl⟩ := requestFor_eq_ok_iff.mp asked
        exact titled.visible
      exact if_neg (ne_true_of_eq_false visible)

/-- An event that is not refused is for nobody, or for an account. -/
theorem addressee_of_verdict {answer : Option NotificationRequest}
    (told : verdict world.store.preferences topic payload = .ok answer) :
    payload.IsForNobody ∧ answer = none ∨ ∃ account, payload.IsFor account := by
  rw [verdict] at told
  cases asked : account? payload with
  | error e =>
    rw [asked] at told
    cases told
  | ok account? =>
    cases account? with
    | none =>
      rw [asked] at told
      exact .inl ⟨account?_eq_none_iff.mp asked, (Except.ok.inj told).symm⟩
    | some account => exact .inr ⟨account, account?_eq_some_iff.mp asked⟩

/-- An event is skipped if it is overlooked, and only then. -/
theorem verdict_eq_none_iff : verdict world.store.preferences topic payload = .ok none ↔
    world.Overlooks topic payload := by
  constructor
  · intro skipped
    rcases addressee_of_verdict skipped with ⟨nobody, -⟩ | ⟨account, known⟩
    · exact .inl nobody
    · refine .inr ⟨account, known, eq_false_of_ne_true fun allowed => ?_⟩
      rw [verdict_of_isFor known, if_pos allowed] at skipped
      cases found : requestFor topic payload account (world.preferencesOf account) <;>
        rw [found] at skipped <;> cases skipped
  · rintro (nobody | ⟨account, known, unwanted⟩)
    · exact verdict_of_nobody _ nobody _
    · rw [verdict_of_isFor known, unwanted, if_neg Bool.false_ne_true]

/-- An event asks for a notification if it is for an account that allows its kind, and its fields
can be read. -/
theorem verdict_eq_some_iff : verdict world.store.preferences topic payload = .ok (some request) ↔
    ∃ account, payload.IsFor account ∧
      (world.preferencesOf account).allows (.ofTopic topic) = true ∧
      requestFor topic payload account (world.preferencesOf account) = .ok request := by
  constructor
  · intro asks
    obtain ⟨account, known⟩ := (addressee_of_verdict asks).resolve_left (nofun ∘ And.right)
    refine ⟨account, known, ?_⟩
    rw [verdict_of_isFor known] at asks
    split at asks
    · next allowed =>
      cases found : requestFor topic payload account (world.preferencesOf account) <;>
        rw [found] at asks <;> cases asks
      exact ⟨allowed, rfl⟩
    · cases asks
  · rintro ⟨account, known, allowed, asks⟩
    rw [verdict_of_isFor known, if_pos allowed, asks]
    rfl

/-- The notification of what an event asks for is the one that it calls for. -/
theorem callsFor_noticeFor
    (asks : verdict world.store.preferences topic payload = .ok (some request)) :
    world.CallsFor topic payload (world.noticeFor request) := by
  obtain ⟨account, known, allowed, found⟩ := verdict_eq_some_iff.mp asks
  obtain ⟨priority, title, content, first, second, third, rfl⟩ := requestFor_eq_ok_iff.mp found
  refine ⟨known, rfl, allowed, first, second, third, rfl, rfl, ?_, rfl⟩
  have there := (world.preferencesOf account).inGame_mem_resolveChannels priority
  have some : ((world.preferencesOf account).resolveChannels priority).isEmpty = false :=
    List.isEmpty_eq_false_iff_exists_mem.mpr ⟨_, there⟩
  rw [World.noticeFor, Notification.ofRequest]
  dsimp only
  rw [some, if_neg Bool.false_ne_true]

/-- An event that calls for a notification asks for one. -/
theorem asks_of_callsFor {notice : Notification} (called : world.CallsFor topic payload notice) :
    ∃ request, verdict world.store.preferences topic payload = .ok (some request) := by
  have allowed := called.allowed
  have titled := called.title
  rw [called.kind] at allowed titled
  exact ⟨_, verdict_eq_some_iff.mpr ⟨_, called.account, allowed,
    requestFor_eq_ok_iff.mpr ⟨_, _, _, called.priority, titled, called.content, rfl⟩⟩⟩

end Fanout

/-- The fields of its own that a notification is pushed with. -/
def Notification.ownFields (notice : Notification) : Json.Members :=
  [("account_id", .string (toString notice.accountId)), ("content", .string notice.content),
    ("created_at", .string notice.createdAt.offsetText),
    ("notification_id", .string (toString notice.id)),
    ("priority", .string (Named.name notice.priority)),
    ("status", .string (Named.name notice.status)), ("title", .string notice.title),
    ("type", .string (Named.name notice.kind))]

/-- A notification is pushed with its own fields, and with those of the event that have other
names. -/
structure Notification.IsPushedAs (notice : Notification) (payload pushed : Payload) : Prop where
  sorted : pushed.members.Sorted
  field : ∀ key, pushed.find? key = (notice.ownFields.find? key).or (payload.find? key)

theorem Notification.isPushedAs_noticePushed (notice : Notification) (payload : Payload) :
    notice.IsPushedAs payload (Announcement.noticePushed notice payload.members).payload := by
  have own : (Announcement.noticePushed notice payload.members).payload =
      ⟨notice.ownFields.addMissing payload.members⟩ := rfl
  have sorted : notice.ownFields.Sorted := by
    change ["account_id", "content", "created_at", "notification_id", "priority", "status", "title",
      "type"].Pairwise (· < ·)
    decide
  rw [own]
  exact ⟨sorted.addMissing _, Json.Members.find?_addMissing _ _⟩

namespace Fanout

/-- What may become of an event in a world, and which world it leaves. -/
inductive Treats (world : World) (topic : String) (payload : Payload) :
    Except Failure Handled → World → Prop
  /-- It is overlooked, and nothing is stored or published. -/
  | skipped (overlooked : world.Overlooks topic payload) :
    Treats world topic payload (.ok .skipped) world
  /-- It calls for nothing because its fields are not what they should be, and nothing is stored or
  published. -/
  | refused (error : Error) (noticed : ¬ world.Overlooks topic payload)
    (uncalled : ∀ notice, ¬ world.CallsFor topic payload notice) :
    Treats world topic payload (.error (.refused error)) world
  /-- The notification that it calls for is stored as the last one, and is pushed if the socket is
  among its channels. -/
  | processed {notice : Notification} {bus : Bus} (called : world.CallsFor topic payload notice)
    (id : notice.id = world.supply (world.issued + 1)) (created : notice.createdAt = world.now)
    (told : if .webSocket ∈ notice.channels then
        ∃ pushed, notice.IsPushedAs payload pushed ∧ bus = world.bus.publish
          ⟨"events:notification:websocket:" ++ toString notice.accountId, pushed.toBody⟩
      else bus = world.bus) :
    Treats world topic payload (.ok .processed) { world with
      issued := world.issued + 1
      store := { world.store with notices := world.store.notices ++ [notice] }
      bus }

theorem webSocket_mem_noticeFor {world : World} {request : NotificationRequest} :
    .webSocket ∈ (world.noticeFor request).channels ↔ .webSocket ∈ request.channels := by
  rw [World.noticeFor, Notification.ofRequest]
  dsimp only
  cases request.channels <;> simp

/-- An event is overlooked, or it is refused, or the notification that it calls for is stored and
pushed. -/
theorem handle_treats (world : World) (topic : String) (payload : Payload)
    (unused : world.supply (world.issued + 1) ∉ world.store.notices.map Notification.id) :
    Treats world topic payload ((handle topic payload).perform world).1
      ((handle topic payload).perform world).2 := by
  rw [perform_handle]
  cases told : verdict world.store.preferences topic payload with
  | error e =>
    refine .refused e (fun overlooked => ?_) fun notice called => ?_
    · cases told.symm.trans (verdict_eq_none_iff.mpr overlooked)
    · obtain ⟨request, asks⟩ := asks_of_callsFor called
      cases told.symm.trans asks
  | ok request? =>
    cases request? with
    | none => exact .skipped (verdict_eq_none_iff.mp told)
    | some request =>
      have data : request.data = payload.members := (callsFor_noticeFor told).data
      change Treats world topic payload (.ok .processed) (world.notified request)
      rw [World.notified, World.putNotice_noticeFor unused]
      split
      · next pushed =>
        refine .processed (callsFor_noticeFor told) rfl rfl ?_
        rw [if_pos (webSocket_mem_noticeFor.mpr (List.contains_iff_mem.mp pushed)),
          ← Announcement.topic_noticePushed _ request.data, data]
        exact ⟨_, (world.noticeFor request).isPushedAs_noticePushed payload, rfl⟩
      · next silent =>
        refine .processed (callsFor_noticeFor told) rfl rfl ?_
        rw [if_neg fun there =>
          silent (List.contains_iff_mem.mpr (webSocket_mem_noticeFor.mp there))]

/-- A friend request that names a character, and has a field of the name of one of the
notification's own. -/
def friendRequest : Payload where
  members := [("character_id", .string "00000000-0000-0000-0000-00000000000a"),
    ("priority", .string "HIGH"), ("status", .string "sent")]

/-- The request has been handled once. -/
def requestedOnce : World := ((handle "events:friend:request-sent" friendRequest).perform {}).2

theorem handle_treats_friendRequest :
    requestedOnce.supply (requestedOnce.issued + 1) ∉
        requestedOnce.store.notices.map Notification.id ∧
      ∃ after, Treats requestedOnce "events:friend:request-sent" friendRequest (.ok .processed)
          after ∧
        after.store.notices.map Notification.priority = [.high, .high] ∧ after.bus.size = 2 := by
  have unused : requestedOnce.supply (requestedOnce.issued + 1) ∉
      requestedOnce.store.notices.map Notification.id := by
    decide +kernel
  exact ⟨unused, _, handle_treats requestedOnce "events:friend:request-sent" friendRequest unused,
    rfl, rfl⟩

end Fanout

end Parley
