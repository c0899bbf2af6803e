import Parley.Proofs.Notice.Asking
import Parley.Proofs.Text.Glob
import Parley.Proofs.Text.Parts

/-!
# Which kind an event is of

The kinds are looked for anywhere in a topic, and in a fixed order. A topic that begins with the name
of a kind is of that kind, unless the rest of it names a kind that is looked for earlier. Whoever
switches a kind off gets none of its events, but may get those of which another kind came first.
-/

namespace Parley

namespace NoticeKind

/-- The name of the kind occurs in a text. -/
def IsNamedIn (kind : NoticeKind) (text : String) : Prop :=
  (Named.name kind).toList <:+: text.toList

/-- Of the kinds that are looked for earlier, it is the first that a text names. -/
def Preempts (earlier kind : NoticeKind) (text : String) : Prop :=
  ∃ before after, topical = before ++ earlier :: after ∧ kind ∈ after ∧
    earlier.IsNamedIn text ∧ ∀ other ∈ before, ¬ other.IsNamedIn text

variable {kind : NoticeKind}

theorem isNamedIn_topic_iff {other : NoticeKind} (listed : kind ∈ topical)
    (listedToo : other ∈ topical) (rest : String) :
    other.IsNamedIn ("events:" ++ Named.name kind ++ ":" ++ rest) ↔
      other = kind ∨ other.IsNamedIn rest := by
  have colon : ∀ other ∈ topical, ':' ∉ (Named.name other).toList := by decide
  have start : ∀ other ∈ topical,
      ¬ Text.contains (Named.name other).toList "events".toList = true := by decide
  have names : ∀ kind ∈ topical, ∀ other ∈ topical,
      Text.contains (Named.name other).toList (Named.name kind).toList = true ↔ other = kind := by
    decide
  have split : ("events:" ++ Named.name kind ++ ":" ++ rest).toList =
      "events".toList ++ ':' :: ((Named.name kind).toList ++ ':' :: rest.toList) := by
    simp only [String.toList_append, List.append_assoc]
    rfl
  have apart := colon other listedToo
  rw [IsNamedIn, split, Text.infix_append_cons_iff apart, Text.infix_append_cons_iff apart,
    ← Text.contains_iff_infix, or_iff_right (start other listedToo), ← Text.contains_iff_infix,
    names kind listed other listedToo, IsNamedIn]

/-- A topic that begins with a kind is of that kind, or of the first earlier one that it names. -/
theorem ofTopic_cases (listed : kind ∈ topical) (rest : String) :
    ofTopic ("events:" ++ Named.name kind ++ ":" ++ rest) = kind ∨
      (ofTopic ("events:" ++ Named.name kind ++ ":" ++ rest)).Preempts kind rest := by
  have named (other : NoticeKind) (listedToo : other ∈ topical) :
      Text.contains (Named.name other).toList
        ("events:" ++ Named.name kind ++ ":" ++ rest).toList = true ↔
      other = kind ∨ other.IsNamedIn rest :=
    Text.contains_iff_infix.trans (isNamedIn_topic_iff listed listedToo rest)
  rw [ofTopic]
  cases found : topical.find? fun other => Text.contains (Named.name other).toList
      ("events:" ++ Named.name kind ++ ":" ++ rest).toList with
  | none => exact absurd ((named kind listed).mpr (.inl rfl)) (List.find?_eq_none.mp found kind listed)
  | some first =>
    obtain ⟨here, before, after, order, others⟩ := List.find?_eq_some_iff_append.mp found
    have unnamed : ∀ other ∈ before, ¬ (other = kind ∨ other.IsNamedIn rest) := by
      intro other earlier
      have missed := others other earlier
      rw [Bool.not_eq_true'] at missed
      rw [← named other (order ▸ List.mem_append_left _ earlier)]
      exact ne_true_of_eq_false missed
    rw [Option.getD_some]
    refine or_iff_not_imp_left.mpr fun apart => ⟨before, after, order, ?_, ?_, ?_⟩
    · rw [order, List.mem_append, List.mem_cons] at listed
      rcases listed with earlier | rfl | later
      · exact absurd (.inl rfl) (unnamed kind earlier)
      · exact absurd rfl apart
      · exact later
    · exact ((named first (List.mem_of_find?_eq_some found)).mp here).resolve_left apart
    · exact fun other earlier => (not_or.mp (unnamed other earlier)).2

end NoticeKind

namespace Fanout

variable {world : World} {kind : NoticeKind}

/-- The topics that begin with a kind are listened to, unless they go on with a star. -/
theorem wants_topic (listed : kind ∈ NoticeKind.topical) {rest : String}
    (plain : rest.toList.head? ≠ some '*') :
    handler.wants ("events:" ++ Named.name kind ++ ":" ++ rest) = true := by
  have pattern : ∀ kind ∈ NoticeKind.topical,
      "events:" ++ Named.name kind ++ ":" ++ "*" ∈ patterns := by decide
  exact List.any_eq_true.mpr ⟨_, pattern kind listed, Glob.accepts_append_star _ plain⟩

/-- What a message asks for is what its payload asks for. -/
theorem verdict_of_heard {rows : List Preferences} {message : Message}
    {request : NotificationRequest} (asks : (heard rows message).2 = some request) :
    ∃ payload, verdict rows message.topic payload = .ok (some request) := by
  rw [heard] at asks
  split at asks
  · split at asks
    · cases asks
    · next payload _ =>
      split at asks
      · cases asks
      · cases asks
      · next request told => exact ⟨payload, told.trans (congrArg _ asks)⟩
  · cases asks

/-- A notification that was not there before belongs to an account that allows its kind, and this
kind is the one of the topic. -/
theorem allowed_of_treat {message : Message} {notice : Notification}
    (there : notice ∈ (handler.treat message world).2.store.notices) :
    notice ∈ world.store.notices ∨ notice.kind = .ofTopic message.topic ∧
      (world.preferencesOf notice.accountId).allows notice.kind = true := by
  rw [treat_handler] at there
  cases asked : (heard world.store.preferences message).2 with
  | none =>
    rw [asked] at there
    exact .inl there
  | some request =>
    rw [asked] at there
    change notice ∈ (world.notified request).store.notices at there
    rw [World.store_notified] at there
    rcases Table.mem_put there with rfl | kept
    · obtain ⟨payload, asks⟩ := verdict_of_heard asked
      have called := callsFor_noticeFor asks
      exact .inr ⟨called.kind, called.allowed⟩
    · exact .inl kept

/-- An account that has switched a kind off gets a notification for a topic that begins with this
kind only of a kind that is looked for earlier, that is named in the topic as the first of them, and
that it allows. -/
theorem preempts_of_switchedOff {account : Uuid} {prefs : Preferences}
    (listed : kind ∈ NoticeKind.topical) (chosen : world.store.preferences? account = some prefs)
    (off : prefs.allows kind = false) (rest : String) (body : Body) :
    ∀ notice ∈ (handler.treat ⟨"events:" ++ Named.name kind ++ ":" ++ rest, body⟩
        world).2.store.notices,
      notice.accountId = account → notice ∈ world.store.notices ∨
        notice.kind.Preempts kind rest ∧ prefs.allows notice.kind = true := by
  rintro notice there rfl
  have own : world.preferencesOf notice.accountId = prefs := by
    rw [World.preferencesOf, chosen, Option.getD_some]
  rcases allowed_of_treat there with old | ⟨same, allowed⟩
  · exact .inl old
  · rw [own] at allowed
    refine .inr ⟨?_, allowed⟩
    rw [same] at allowed ⊢
    refine (NoticeKind.ofTopic_cases listed rest).resolve_left fun begins => ?_
    rw [begins, off] at allowed
    exact Bool.false_ne_true allowed

/-- Somebody who does not want to hear of guilds. -/
def loner : Preferences := { Preferences.initial ⟨10⟩ default with guildEnabled := false }

def lonerWorld : World where
  store := { preferences := [loner] }

/-- An event about a friend, for this account, from a guild. -/
def friendJoined : Message where
  topic := "events:" ++ Named.name NoticeKind.guild ++ ":" ++ "friend-joined"
  body := Payload.toBody ⟨[("account_id", .string "00000000-0000-0000-0000-00000000000a")]⟩

theorem exists_notice_friendJoined :
    ∃ notice ∈ (handler.treat friendJoined lonerWorld).2.store.notices,
      notice.accountId = loner.accountId := by
  have wanted : handler.wants friendJoined.topic = true := wants_topic (by decide) (by decide)
  have owners : (handler.treat friendJoined lonerWorld).2.store.notices.map
      Notification.accountId = [loner.accountId] := by
    rw [Handler.treat, if_pos wanted]
    decide +kernel
  exact List.mem_map.mp (owners ▸ List.mem_singleton_self _)

theorem preempts_of_switchedOff_friendJoined : .guild ∈ NoticeKind.topical ∧
    lonerWorld.store.preferences? loner.accountId = some loner ∧ loner.allows .guild = false ∧
    ∃ notice ∈ (handler.treat friendJoined lonerWorld).2.store.notices,
      notice.accountId = loner.accountId ∧ notice.kind.Preempts .guild "friend-joined" := by
  have listed : .guild ∈ NoticeKind.topical := by decide
  obtain ⟨notice, there, own⟩ := exists_notice_friendJoined
  have fresh : notice ∉ lonerWorld.store.notices := List.not_mem_nil
  have chosen : lonerWorld.store.preferences? loner.accountId = some loner := rfl
  have preempts := preempts_of_switchedOff listed chosen rfl "friend-joined" friendJoined.body
    notice there own
  exact ⟨listed, chosen, rfl, notice, there, own, (preempts.resolve_left fresh).1⟩

/-- An event whose topic begins with a kind that is switched off is stored all the same if another
kind is looked for earlier. -/
theorem stored_though_switchedOff : friendJoined.topic = "events:guild:friend-joined" ∧
    lonerWorld.store.preferences? loner.accountId = some loner ∧ loner.allows .guild = false ∧
    ∃ notice ∈ (handler.treat friendJoined lonerWorld).2.store.notices,
      notice.accountId = loner.accountId ∧ notice ∉ lonerWorld.store.notices := by
  obtain ⟨notice, there, own⟩ := exists_notice_friendJoined
  exact ⟨by decide, rfl, rfl, notice, there, own, List.not_mem_nil⟩

end Fanout

end Parley
