import Parley.Proofs.Guild.Advancing
import Parley.Proofs.Json.Printed
import Parley.Proofs.Notice.Asking
import Parley.Proofs.Text.Glob

/-!
# Echoes

The listeners for notifications and for guilds publish messages themselves: that a notification is
to be pushed, and that a guild has risen a level. No topic is wanted by both of them, and each
publishes at most one such message for an event. Nothing is done for such a message: a push is
wanted by neither, and the rise of a guild is wanted by the listener for notifications only, which
skips it because it names nobody.
-/

namespace Parley

open Calendar (Instant)

namespace Handler

/-- The texts before the stars of the patterns, none of which holds another star. -/
def HasLeads (handler : Handler) (leads : List (List Char)) : Prop :=
  handler.patterns.map String.toList = leads.map (· ++ ['*']) ∧
    ∀ plain ∈ leads, ∀ c ∈ plain, Glob.IsPlain c

/-- A topic that is wanted begins with what stands before the star of a pattern. -/
theorem HasLeads.exists_prefix {handler : Handler} {leads : List (List Char)}
    (h : handler.HasLeads leads) {topic : String} (wanted : handler.wants topic) :
    ∃ plain ∈ leads, plain <+: topic.toList := by
  obtain ⟨pattern, listed, accepts⟩ := List.any_eq_true.mp wanted
  have found : pattern.toList ∈ leads.map (· ++ ['*']) :=
    h.1 ▸ List.mem_map_of_mem listed
  obtain ⟨plain, member, same⟩ := List.mem_map.mp found
  exact ⟨plain, member, Glob.prefix_of_accepts same.symm (h.2 plain member) accepts⟩

/-- A topic that begins unlike all patterns is not wanted. -/
theorem HasLeads.wants_eq_false {handler : Handler} {leads : List (List Char)}
    (h : handler.HasLeads leads) {topic : String} {start : List Char}
    (begins : start <+: topic.toList)
    (apart : ∀ plain ∈ leads, ¬ plain <+: start ∧ ¬ start <+: plain) :
    handler.wants topic = false := by
  by_contra wanted
  obtain ⟨plain, member, leads⟩ := h.exists_prefix (by simpa using wanted)
  rcases List.prefix_or_prefix_of_prefix leads begins with shorter | longer
  · exact (apart plain member).1 shorter
  · exact (apart plain member).2 longer

end Handler

namespace Fanout

def leads : List (List Char) :=
  ["events:friend:".toList, "events:guild:".toList, "events:trade:".toList,
    "events:achievement:".toList, "events:quest:".toList, "events:combat:".toList]

theorem hasLeads : handler.HasLeads leads := ⟨by decide, by decide⟩

end Fanout

namespace Advancement

def leads : List (List Char) :=
  ["events:character:level-up:".toList, "events:territory:captured:".toList]

variable {config : Config.GuildProgression} {find : Uuid → Action (Option Guild)}

theorem hasLeads : (handler config find).HasLeads leads := by
  refine ⟨?_, by decide⟩
  change patterns.map String.toList = _
  decide

end Advancement

/-- No topic is wanted by both listeners. -/
theorem Advancement.wants_eq_false_of_fanout {config : Config.GuildProgression}
    {find : Uuid → Action (Option Guild)} {topic : String} (wanted : Fanout.handler.wants topic) :
    (Advancement.handler config find).wants topic = false := by
  obtain ⟨plain, member, begins⟩ := Fanout.hasLeads.exists_prefix wanted
  have apart : ∀ plain ∈ Fanout.leads, ∀ other ∈ leads, ¬ other <+: plain ∧ ¬ plain <+: other := by
    decide
  exact hasLeads.wants_eq_false begins (apart plain member)

/-- A message that the listeners for notifications and for guilds publish themselves. -/
inductive IsEcho : Message → Prop
  | leveledUp (guild : Uuid) (oldLevel newLevel experience : Int) (time : Instant) :
    IsEcho ⟨(Announcement.guildLeveledUp guild oldLevel newLevel experience time).topic,
      (Announcement.guildLeveledUp guild oldLevel newLevel experience time).payload.toBody⟩
  | pushed (notice : Notification) (data : Json.Members) :
    IsEcho ⟨(Announcement.noticePushed notice data).topic,
      (Announcement.noticePushed notice data).payload.toBody⟩

namespace Announcement

variable {guild : Uuid} {oldLevel newLevel experience : Int} {time : Instant}

/-- The members of the message that a guild has risen a level, in their order. -/
def leveledUpMembers (guild : Uuid) (oldLevel newLevel experience : Int) (time : Instant) :
    Json.Members :=
  [("experience", Json.ofInt experience), ("guild_id", .string (toString guild)),
    ("new_level", Json.ofInt newLevel), ("old_level", Json.ofInt oldLevel),
    ("timestamp", Json.ofInt time.seconds)]

theorem payload_guildLeveledUp :
    (guildLeveledUp guild oldLevel newLevel experience time).payload =
      ⟨leveledUpMembers guild oldLevel newLevel experience time⟩ := by
  rfl

theorem flat_leveledUpMembers :
    ∀ m ∈ leveledUpMembers guild oldLevel newLevel experience time, m.2.IsFlat := by
  simp [leveledUpMembers, Json.IsFlat, Json.ofInt]

theorem ofBody_guildLeveledUp :
    Payload.ofBody (guildLeveledUp guild oldLevel newLevel experience time).payload.toBody =
      match Json.rereadMembers? []
        (leveledUpMembers guild oldLevel newLevel experience time) with
      | some members => .ok ⟨members⟩
      | none => .error Payload.malformed := by
  have read : Json.parse?
      (Json.object (leveledUpMembers guild oldLevel newLevel experience time)).render = _ :=
    Json.parse?_render (List.cons_ne_nil _ _) flat_leveledUpMembers
  rw [payload_guildLeveledUp, Payload.toBody, Payload.toText, Payload.ofBody, read]
  cases Json.rereadMembers? [] (leveledUpMembers guild oldLevel newLevel experience time) <;> rfl

end Announcement

/-- An event that is for nobody is skipped. -/
theorem Fanout.handle_of_nobody {payload : Payload} (nobody : payload.IsForNobody)
    (topic : String) : Fanout.handle topic payload = pure .skipped := by
  rw [handle, account?_eq_none_iff.mpr nobody]
  rfl

/-- The message that a guild has risen a level names nobody. -/
theorem Announcement.names_nobody {guild : Uuid} {oldLevel newLevel experience : Int}
    {time : Instant} {payload : Payload} (read : Payload.ofBody
      (guildLeveledUp guild oldLevel newLevel experience time).payload.toBody = .ok payload) :
    payload.IsForNobody := by
  rw [ofBody_guildLeveledUp] at read
  split at read
  · next members found =>
    obtain rfl := Except.ok.inj read
    constructor
    · left
      exact Json.find?_rereadMembers? found rfl (by simp [leveledUpMembers, Json.Members.names])
    · left
      exact Json.find?_rereadMembers? found rfl (by simp [leveledUpMembers, Json.Members.names])
  · cases read

/-- At all times of the calendar the message reads back, or at none. -/
theorem Announcement.isSome_reread {guild : Uuid} {oldLevel newLevel experience : Int}
    {time other : Instant} (dated : Instant.inCalendar time.seconds)
    (datedToo : Instant.inCalendar other.seconds) :
    (Json.rereadMembers? [] (leveledUpMembers guild oldLevel newLevel experience time)).isSome =
      (Json.rereadMembers? [] (leveledUpMembers guild oldLevel newLevel experience other)).isSome := by
  have stamp : ∀ time : Instant, Instant.inCalendar time.seconds →
      Json.reread? (Json.ofInt time.seconds) = some (.number (.integer time.seconds)) := by
    intro time dated
    have fits : Word.isInt64 time.seconds := by
      obtain ⟨first, last⟩ := Bool.and_eq_true_iff.mp dated
      have first : Instant.firstSecond ≤ time.seconds := of_decide_eq_true first
      have last : time.seconds ≤ Instant.lastSecond := of_decide_eq_true last
      rw [Instant.firstSecond] at first
      rw [Instant.lastSecond] at last
      refine Bool.and_eq_true_iff.mpr ⟨decide_eq_true ?_, decide_eq_true ?_⟩ <;> omega
    rw [Json.ofInt, Json.reread?, Json.numberOf?_of_word (.inl fits)]
    rfl
  simp only [leveledUpMembers, Json.rereadMembers?, stamp time dated, stamp other datedToo]
  cases Json.reread? (Json.ofInt experience) with
  | none => rfl
  | some =>
    cases Json.reread? (Json.ofInt newLevel) with
    | none => rfl
    | some => cases Json.reread? (Json.ofInt oldLevel) <;> rfl

namespace IsEcho

variable {message : Message} {config : Config.GuildProgression}
  {find : Uuid → Action (Option Guild)}

/-- How the topics of echoes begin. -/
def starts : List (List Char) :=
  ["events:guild:leveled-up".toList, "events:notification:websocket:".toList]

theorem topic_noticePushed (notice : Notification) (data : Json.Members) :
    "events:notification:websocket:".toList <+:
      (Announcement.noticePushed notice data).topic.toList := by
  rw [Announcement.topic_noticePushed]
  exact ⟨_, String.toList_append.symm⟩

theorem exists_start (echo : IsEcho message) : ∃ start ∈ starts, start <+: message.topic.toList := by
  cases echo with
  | leveledUp guild oldLevel newLevel experience time =>
    exact ⟨_, List.mem_cons_self, List.prefix_refl _⟩
  | pushed notice data =>
    exact ⟨_, List.mem_cons_of_mem _ List.mem_cons_self, topic_noticePushed notice data⟩

theorem advancement_wants (echo : IsEcho message) :
    (Advancement.handler config find).wants message.topic = false := by
  have apart : ∀ start ∈ starts, ∀ plain ∈ Advancement.leads,
      ¬ plain <+: start ∧ ¬ start <+: plain := by decide
  obtain ⟨start, listed, begins⟩ := echo.exists_start
  exact Advancement.hasLeads.wants_eq_false begins (apart start listed)

/-- Nothing is done for an echo. -/
theorem flowFor (echo : IsEcho message) {listener : Listener}
    (own : listener.handler = Fanout.handler ∨
      listener.handler = Advancement.handler config find) :
    listener.flowFor message = .done (.ok .skipped) := by
  rw [Listener.flowFor]
  rcases own with fanout | advancement
  · rw [fanout]
    cases echo with
    | pushed notice data =>
      have unwanted : Fanout.handler.wants (Announcement.noticePushed notice data).topic = false :=
        Fanout.hasLeads.wants_eq_false (topic_noticePushed notice data) (by decide)
      rw [unwanted]
      rfl
    | leveledUp guild oldLevel newLevel experience time =>
      split
      · split
        · next payload read =>
          have nobody := Announcement.names_nobody read
          exact congrArg ExceptT.run (Fanout.handle_of_nobody nobody _)
        · rfl
      · rfl
  · rw [advancement, echo.advancement_wants]
    rfl

end IsEcho

namespace Fanout

variable (rows : List Preferences)

theorem heard_pushed (notice : Notification) (data : Json.Members) :
    heard rows ⟨(Announcement.noticePushed notice data).topic,
      (Announcement.noticePushed notice data).payload.toBody⟩ = (.ignored, none) := by
  have unwanted : handler.wants (Announcement.noticePushed notice data).topic = false :=
    hasLeads.wants_eq_false (IsEcho.topic_noticePushed notice data) (by decide)
  rw [heard, unwanted]
  rfl

/-- The message that a guild has risen a level asks for nothing, and what becomes of it is the same
at all times of the calendar. -/
theorem heard_leveledUp {guild : Uuid} {oldLevel newLevel experience : Int} {time other : Instant}
    (dated : Instant.inCalendar time.seconds) (datedToo : Instant.inCalendar other.seconds) :
    let message (time : Instant) : Message :=
      ⟨(Announcement.guildLeveledUp guild oldLevel newLevel experience time).topic,
        (Announcement.guildLeveledUp guild oldLevel newLevel experience time).payload.toBody⟩
    heard rows (message time) = ((heard rows (message other)).1, none) := by
  have made : ∀ time : Instant, heard rows
      ⟨(Announcement.guildLeveledUp guild oldLevel newLevel experience time).topic,
        (Announcement.guildLeveledUp guild oldLevel newLevel experience time).payload.toBody⟩ =
      (if handler.wants (topicFor "guild:leveled-up") then
        if (Json.rereadMembers? [] (Announcement.leveledUpMembers guild oldLevel newLevel
          experience time)).isSome then .settled .skipped else .settled .decodeError
      else .ignored, none) := by
    intro time
    have read : Payload.ofBody
        (Announcement.guildLeveledUp guild oldLevel newLevel experience time).payload.toBody = _ :=
      Announcement.ofBody_guildLeveledUp
    rw [heard]
    change (if handler.wants (topicFor "guild:leveled-up") then _ else _) = _
    by_cases wanted : handler.wants (topicFor "guild:leveled-up")
    · rw [if_pos wanted, if_pos wanted]
      cases found : Json.rereadMembers? [] (Announcement.leveledUpMembers guild oldLevel newLevel
          experience time) with
      | none =>
        rw [found] at read
        rw [read]
        rfl
      | some members =>
        rw [found] at read
        have nobody := Announcement.names_nobody read
        rw [read]
        dsimp only
        rw [verdict_of_nobody rows nobody]
        rfl
    · rw [if_neg wanted, if_neg wanted]
  dsimp only
  rw [made, made, Announcement.isSome_reread dated datedToo]

end Fanout

/-- For an event at most one push is published. -/
theorem Fanout.sends_handle (topic : String) (payload : Payload) :
    (Fanout.handle topic payload).Sends IsEcho 1 := by
  have create : ∀ request, (Inbox.create request).Asks (·.message? = none) :=
    Inbox.asks_create rfl rfl fun _ => rfl
  refine Action.Sends.bind (n := 0) (k := 1) (.of_asks (.ofAnswer _)) fun account? => ?_
  cases account? with
  | none => exact .of_asks (.pure _)
  | some account =>
    refine Action.Sends.bind (n := 0) (k := 1) (.of_asks (Inbox.asks_preferences rfl rfl)) fun prefs => ?_
    split
    · exact .of_asks (.pure _)
    · refine Action.Sends.bind (n := 0) (k := 1) (.of_asks (.ofAnswer _)) fun request => ?_
      refine Action.Sends.bind (n := 0) (k := 1) (.of_asks (create request)) fun notice => ?_
      split
      · exact Action.Sends.bind (n := 1) (k := 0) (Action.sends_announce (.pushed notice _))
          fun _ => .of_asks (.pure _)
      · exact .of_asks (.pure _)

/-- For an event at most one rise of a guild is published. -/
theorem Advancement.sends_handle {config : Config.GuildProgression}
    {find : Uuid → Action (Option Guild)}
    (quiet : ∀ character, (find character).Asks (·.message? = none)) (topic : String)
    (payload : Payload) : (Advancement.handle config find topic payload).Sends IsEcho 1 := by
  rw [handle]
  dsimp only
  split
  · exact .of_asks (.pure _)
  · refine Action.Sends.bind (n := 0) (k := 1) (.of_asks (.ofAnswer _)) fun character? => ?_
    cases character? with
    | none => exact .of_asks (.pure _)
    | some character =>
      refine Action.Sends.bind (n := 0) (k := 1) (.of_asks (quiet character)) fun guild? => ?_
      cases guild? with
      | none => exact .of_asks (.pure _)
      | some guild =>
        have stored : ∀ level experience, (Action.setGuildLevel guild.id level experience).Asks
            (·.message? = none) := fun _ _ => .answered (.ask rfl)
        refine Action.Sends.bind (n := 0) (k := 1) (.of_asks (stored _ _)) fun _ => ?_
        split
        · refine Action.Sends.bind (n := 0) (k := 1) (.of_asks (.ask rfl)) fun time => ?_
          exact Action.Sends.bind (n := 1) (k := 0)
            (Action.sends_announce (.leveledUp guild.id _ _ _ time)) fun _ => .of_asks (.pure _)
        · exact .of_asks (.pure _)

end Parley
