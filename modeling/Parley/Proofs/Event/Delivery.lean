import Parley.Moderation.Rules
import Parley.Proofs.Event.Fields
import Parley.Proofs.Flow.Steps
import Parley.Proofs.Json.RoundTrip
import Parley.Proofs.Uuid
import Parley.Text.Utf8

/-!
# Announcements as they arrive

The payload of an announcement is read from the bytes that are published exactly as it was made,
whatever characters its texts are of. A pushed notification carries fields of another payload; they
stand no deeper than they stood there, and so they arrive as well. An identifier that is announced is
the one that a reader finds under its key, and a field that is left out is absent.
-/

namespace Parley

namespace Body

/-- A text that is sent arrives as that text. -/
theorem ofBytes_bytes_text (content : String) : ofBytes (text content).bytes = .text content := by
  have same : (⟨content.toUTF8.toList.toArray⟩ : ByteArray) = content.toUTF8 := by
    rw [Text.toList_bytes]
  have valid : content.toUTF8.IsValidUTF8 := content.isValidUTF8
  rw [ofBytes, bytes, same, String.fromUTF8?, dif_pos valid]
  rfl

end Body

namespace Payload

open Json (Tidy Whole)

variable {payload : Payload} {key : String}

/-- A payload that reads as it was written. -/
structure Durable (payload : Payload) : Prop where
  sorted : payload.members.Sorted
  tidy : ∀ m ∈ payload.members, Tidy 126 m.2
  whole : ∀ m ∈ payload.members, Whole m.2

namespace Durable

theorem empty : Durable empty :=
  ⟨Json.Members.sorted_nil, List.forall_mem_nil _, List.forall_mem_nil _⟩

theorem insert (durable : payload.Durable) {value : Json} (tidy : Tidy 126 value)
    (whole : Whole value) : (payload.insert key value).Durable :=
  ⟨durable.sorted.insert key value, Json.Members.forall_insert durable.tidy tidy,
    Json.Members.forall_insert durable.whole whole⟩

theorem insertText (durable : payload.Durable) {value : String} :
    (payload.insertText key value).Durable :=
  durable.insert (.string value) (.string value)

theorem insertSome (durable : payload.Durable) {value? : Option String} :
    (payload.insertSome key value?).Durable := by
  cases value? with
  | none => exact durable
  | some value => exact durable.insertText

theorem insertInt (durable : payload.Durable) {i : Int} (fits : Word.isInt64 i = true) :
    (payload.insert key (Json.ofInt i)).Durable :=
  durable.insert (.number _) (.number (.inl fits))

theorem addMissing (durable : payload.Durable) {extra : Payload} (more : extra.Durable) :
    Durable ⟨payload.members.addMissing extra.members⟩ :=
  ⟨durable.sorted.addMissing _, Json.Members.forall_addMissing durable.tidy more.tidy,
    Json.Members.forall_addMissing durable.whole more.whole⟩

/-- What was read from a body and has no other numbers than whole ones can be sent on. -/
theorem of_ofBody {body : Body} (read : ofBody body = .ok payload)
    (whole : ∀ m ∈ payload.members, Whole m.2) : payload.Durable := by
  cases body with
  | binary bytes => cases read
  | text content =>
    rw [ofBody] at read
    split at read
    · next value parsed =>
      have tidy := Json.tidy_of_parse? parsed
      cases value with
      | object members =>
        obtain rfl := Except.ok.inj read
        cases tidy with
        | object sorted all => exact ⟨sorted, all, whole⟩
      | _ => cases read
    · cases read

/-- A durable payload arrives as it was sent. -/
theorem ofBody_toBody (durable : payload.Durable) :
    ofBody (Body.ofBytes payload.toBody.bytes) = .ok payload := by
  have tidy : Tidy Json.maxDepth (.object payload.members) := .object durable.sorted durable.tidy
  rw [toBody, Body.ofBytes_bytes_text, ofBody, toText,
    Json.parse?_render_of_tidy tidy (.object durable.whole)]
  rfl

end Durable

theorem find?_insert (payload : Payload) (name key : String) (value : Json) :
    (payload.insert name value).find? key = if name = key then some value else payload.find? key :=
  Json.Members.find?_insert ..

theorem find?_insertText (payload : Payload) (name key value : String) :
    (payload.insertText name value).find? key =
      if name = key then some (.string value) else payload.find? key :=
  find?_insert ..

theorem find?_insertSome (payload : Payload) (name key : String) (value? : Option String) :
    (payload.insertSome name value?).find? key =
      if name = key then (value?.map Json.string).or (payload.find? key) else payload.find? key := by
  cases value? with
  | none =>
    rw [Option.map_none, Option.none_or, ite_self]
    rfl
  | some value => exact find?_insertText ..

theorem find?_empty (key : String) : empty.find? key = none := rfl

/-- A written identifier is found, and one that was left out is absent. -/
theorem uuid?_of_find? {id? : Option Uuid}
    (found : payload.find? key = id?.map fun id => .string (toString id)) :
    payload.uuid? key = .ok id? := by
  cases id? with
  | none => exact uuid?_eq_none_iff.mpr (.inl found)
  | some id => exact uuid?_eq_some_iff.mpr ⟨toString id, found, Uuid.parse?_toString id⟩

end Payload

namespace Announcement

/-- The numbers of the announcement fit into their words; what a notification carries was read from a
body, and has no other numbers than whole ones of 64 bits. -/
def Fits : Announcement → Prop
  | banCreated _ time | banRemoved _ time | spamBan _ time | severeBan _ time
  | reportCreated _ time | reportResolved _ time => Word.isInt64 time.seconds = true
  | guildLeveledUp _ oldLevel newLevel experience time =>
    Word.isInt32 oldLevel = true ∧ Word.isInt32 newLevel = true ∧
      Word.isInt64 experience = true ∧ Word.isInt64 time.seconds = true
  | noticePushed _ data =>
    (∃ body, Payload.ofBody body = .ok ⟨data⟩) ∧ ∀ m ∈ data, Json.Whole m.2

/-- The identifiers that an announcement of a ban or a report has, by key. -/
def identifiers : Announcement → List (String × Option Uuid)
  | banCreated ban _ | banRemoved ban _ | spamBan ban _ | severeBan ban _ =>
    [("ban_id", some ban.id), ("character_id", some ban.characterId),
      ("channel_id", ban.channelId), ("admin_id", ban.adminId)]
  | reportCreated report _ =>
    [("report_id", some report.id), ("reporter_id", some report.reporterId),
      ("reported_id", some report.reportedId), ("message_id", report.messageId),
      ("channel_id", report.channelId)]
  | reportResolved report _ => [("report_id", some report.id), ("admin_id", report.adminId)]
  | guildLeveledUp .. | noticePushed .. => []

/-- The keys that an announcement of a ban or a report may lack, and whether it has them. -/
def options : Announcement → List (String × Bool)
  | banCreated ban _ | banRemoved ban _ | spamBan ban _ | severeBan ban _ =>
    [("channel_id", ban.channelId.isSome), ("admin_id", ban.adminId.isSome),
      ("expires_at", ban.expiresAt.isSome)]
  | reportCreated report _ =>
    [("message_id", report.messageId.isSome), ("channel_id", report.channelId.isSome)]
  | reportResolved report _ => [("admin_id", report.adminId.isSome)]
  | guildLeveledUp .. | noticePushed .. => []

theorem isInt64_of_isInt32 {i : Int} (h : Word.isInt32 i = true) : Word.isInt64 i = true := by
  simp only [Word.isInt32, Word.isInt64, Bool.and_eq_true, decide_eq_true_eq] at h ⊢
  omega

theorem durable_stamp {payload : Payload} (durable : payload.Durable) {time : Calendar.Instant}
    (fits : Word.isInt64 time.seconds = true) : (stamp payload time).Durable :=
  durable.insertInt fits

theorem durable_banPayload (ban : Ban) {time : Calendar.Instant}
    (fits : Word.isInt64 time.seconds = true) : (banPayload ban time).Durable := by
  refine durable_stamp ?_ fits
  iterate 3 refine .insertSome ?_
  iterate 3 refine .insertText ?_
  exact .empty

/-- Every announcement can be read as it was written. -/
theorem durable_payload {a : Announcement} (fits : a.Fits) : a.payload.Durable := by
  cases a with
  | banCreated ban time => exact durable_banPayload ban fits
  | banRemoved ban time => exact durable_banPayload ban fits
  | spamBan ban time => exact durable_banPayload ban fits
  | severeBan ban time => exact durable_banPayload ban fits
  | reportCreated report time =>
    refine durable_stamp ?_ fits
    iterate 2 refine .insertSome ?_
    iterate 4 refine .insertText ?_
    exact .empty
  | reportResolved report time =>
    refine durable_stamp (.insertText (.insertSome (.insertText .empty))) fits
  | guildLeveledUp guild oldLevel newLevel experience time =>
    obtain ⟨old, new, gained, stamped⟩ := fits
    refine durable_stamp (.insertInt (.insertInt (.insertInt (.insertText .empty) ?_) ?_) gained)
      stamped
    · exact isInt64_of_isInt32 old
    · exact isInt64_of_isInt32 new
  | noticePushed notice data =>
    obtain ⟨⟨body, read⟩, whole⟩ := fits
    have carried : Payload.Durable ⟨data⟩ := .of_ofBody read whole
    refine Payload.Durable.addMissing ?_ carried
    iterate 8 refine .insertText ?_
    exact .empty

/-- An identifier stands under its key as it is written, if the ban or the report has it. -/
theorem find?_identifiers (a : Announcement) : ∀ field ∈ a.identifiers,
    a.payload.find? field.1 = field.2.map fun id => .string (toString id) := by
  cases a with
  | guildLeveledUp | noticePushed => exact List.forall_mem_nil _
  | _ =>
    simp [identifiers, payload, banPayload, stamp, Payload.find?_insert, Payload.find?_insertText,
      Payload.find?_insertSome, Payload.find?_empty, Function.comp_def]

theorem isSome_options (a : Announcement) : ∀ option ∈ a.options,
    (a.payload.find? option.1).isSome = option.2 := by
  cases a with
  | guildLeveledUp | noticePushed => exact List.forall_mem_nil _
  | _ =>
    simp [options, payload, banPayload, stamp, Payload.find?_insert, Payload.find?_insertText,
      Payload.find?_insertSome, Payload.find?_empty]

/-- What is published of an announcement is read as its payload, in which a reader finds the
identifiers of the ban or the report, and no others. -/
theorem announce_delivered (a : Announcement) (fits : a.Fits) (world : World) :
    ∃ message, ((announce a).perform world).2.bus.messages = world.bus.messages.push message ∧
      message.topic = a.topic ∧
      Payload.ofBody (Body.ofBytes message.body.bytes) = .ok a.payload ∧
      (∀ field ∈ a.identifiers, a.payload.uuid? field.1 = .ok field.2) ∧
      ∀ option ∈ a.options, (a.payload.find? option.1).isSome = option.2 :=
  ⟨⟨a.topic, a.payload.toBody⟩, rfl, rfl, (durable_payload fits).ofBody_toBody,
    fun field listed => Payload.uuid?_of_find? (a.find?_identifiers field listed), a.isSome_options⟩

/-- A notification that carries a list with a line break in it. -/
theorem announce_delivered_carried :
    let data : Json.Members := [("n", .array [.number (.integer 7), .string "é\n"])]
    let notice : Notification := {
      id := ⟨1⟩, accountId := ⟨2⟩, kind := .friend, priority := .low, title := "\"", content := "\\"
      data, status := .unread, channels := [], createdAt := ⟨0, 0⟩, expiresAt := none }
    (noticePushed notice data).Fits ∧
      ∃ message, ((announce (.noticePushed notice data)).perform {}).2.bus.messages =
          Bus.standard.messages.push message ∧
        Payload.ofBody (Body.ofBytes message.body.bytes) =
          .ok (Announcement.noticePushed notice data).payload := by
  intro data notice
  have read : Payload.ofBody (.text "\x7b\"n\":[7,\"é\\n\"]\x7d") = .ok ⟨data⟩ := by rfl
  have whole : ∀ m ∈ data, Json.Whole m.2 := by
    refine List.forall_mem_singleton.mpr (.array ?_)
    exact List.forall_mem_cons.mpr ⟨.number (.inl rfl), List.forall_mem_singleton.mpr (.string _)⟩
  have fits : (noticePushed notice data).Fits := ⟨⟨_, read⟩, whole⟩
  obtain ⟨message, published, -, arrives, -⟩ := announce_delivered (.noticePushed notice data) fits {}
  exact ⟨fits, message, published, arrives⟩

end Announcement

end Parley
