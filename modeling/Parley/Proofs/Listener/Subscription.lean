import Parley.Proofs.Listener.Circulation
import Parley.Proofs.Listener.Hearing

/-!
# What reaches a consumer

Each pattern of the listeners for notifications and for guilds ends with its only star. A topic that
begins as such a pattern and goes on in any way is wanted, but for one thing: a star there is taken
for the star of the pattern, and then nothing more may follow. So of the events that are published
while such a listener keeps up with the bus, it takes up exactly those whose topics begin as one of
its patterns and do not go on with a star and more.
-/

namespace Parley

open Service (ownHandler)

namespace Handler

/-- The topic begins as a pattern does before the star at its end, and goes on with `rest`. -/
def Continues (handler : Handler) (topic rest : String) : Prop :=
  ∃ stem, stem ++ "*" ∈ handler.patterns ∧ topic = stem ++ rest

/-- A star with more behind it. -/
def Starred (rest : String) : Prop := ∃ more, more ≠ "" ∧ rest = "*" ++ more

variable {handler : Handler} {leads : List (List Char)} {topic rest stem : String}

theorem not_starred_iff :
    ¬ Starred rest ↔ rest.toList.head? ≠ some '*' ∨ rest.toList = ['*'] := by
  constructor
  · intro unstarred
    refine or_iff_not_imp_left.mpr fun star => ?_
    obtain ⟨behind, same⟩ := List.head?_eq_some_iff.mp (Decidable.not_not.mp star)
    cases behind with
    | nil => exact same
    | cons c behind =>
      refine absurd ⟨String.ofList (c :: behind), ?_, ?_⟩ unstarred
      · exact fun nothing => List.cons_ne_nil c behind (String.ofList_eq_empty_iff.mp nothing)
      · refine String.toList_injective (same.trans ?_)
        rw [String.toList_append, String.toList_ofList, String.toList_ofList]
        rfl
  · rintro plain ⟨more, some_more, rfl⟩
    rw [String.toList_append] at plain
    rcases plain with plain | alone
    · exact plain rfl
    · exact some_more (String.toList_eq_nil_iff.mp (List.cons.inj alone).2)

/-- A pattern is what stands before its star, and the star. -/
theorem HasLeads.mem_of_mem_patterns (h : handler.HasLeads leads)
    (listed : stem ++ "*" ∈ handler.patterns) : stem.toList ∈ leads := by
  have found : (stem ++ "*").toList ∈ leads.map (· ++ ['*']) := h.1 ▸ List.mem_map_of_mem listed
  obtain ⟨plain, member, same⟩ := List.mem_map.mp found
  rw [String.toList_append] at same
  exact List.append_cancel_right same ▸ member

/-- What is wanted begins as a pattern, and does not go on with a star and more. -/
theorem HasLeads.wants_iff (h : handler.HasLeads leads) :
    handler.wants topic = true ↔ ∃ rest, handler.Continues topic rest ∧ ¬ Starred rest := by
  constructor
  · intro wanted
    obtain ⟨pattern, listed, accepted⟩ := List.any_eq_true.mp wanted
    have found : pattern.toList ∈ leads.map (· ++ ['*']) := h.1 ▸ List.mem_map_of_mem listed
    obtain ⟨plain, member, split⟩ := List.mem_map.mp found
    obtain ⟨rest, same, plainly⟩ :=
      (Glob.accepts_iff_of_last_star split.symm (h.2 plain member)).mp accepted
    refine ⟨String.ofList rest, ⟨String.ofList plain, ?_, ?_⟩, ?_⟩
    · have whole : String.ofList plain ++ "*" = pattern := by
        refine String.toList_injective (Eq.trans ?_ split)
        rw [String.toList_append, String.toList_ofList]
        rfl
      exact whole ▸ listed
    · refine String.toList_injective (same.trans ?_)
      rw [String.toList_append, String.toList_ofList, String.toList_ofList]
    · rw [not_starred_iff, String.toList_ofList]
      exact plainly
  · rintro ⟨rest, ⟨stem, listed, rfl⟩, unstarred⟩
    have all := h.2 _ (h.mem_of_mem_patterns listed)
    refine List.any_eq_true.mpr ⟨_, listed, ?_⟩
    refine (Glob.accepts_iff_of_last_star String.toList_append all).mpr ⟨rest.toList, ?_, ?_⟩
    · exact String.toList_append
    · exact not_starred_iff.mp unstarred

end Handler

/-- The listeners of the service want the topics that begin as their patterns, but for the stars. -/
theorem Service.wants_iff (config : Config.GuildProgression) (consumer : Nat) (topic : String) :
    (ownHandler config consumer).wants topic = true ↔
      ∃ rest, (ownHandler config consumer).Continues topic rest ∧ ¬ Handler.Starred rest := by
  rcases Session.ownHandler_cases config consumer with same | same
  · rw [same]
    exact Fanout.hasLeads.wants_iff
  · rw [same]
    exact Advancement.hasLeads.wants_iff

/-- Whenever a message was read up to this one, no more of them lay ahead than the ring holds. -/
def Deed.KeepUp (deeds : List Deed) (capacity number : Nat) : Prop :=
  ∀ stood size next fate, .read stood size next fate ∈ deeds → stood ≤ number →
    size - stood ≤ capacity

/-- A listener that keeps up takes up what it wants of the messages that it has come past. -/
theorem Reads.mem_takenUp_iff {handler : Handler} {start position number : Nat} {deeds : List Deed}
    {bus : Bus} {message : Message} (reads : Reads handler start deeds bus position)
    (since : start ≤ number) (published : bus.messages[number]? = some message)
    (keepUp : Deed.KeepUp deeds bus.capacity number) (past : number < position) :
    number ∈ Deed.takenUp deeds ↔ handler.wants message.topic = true := by
  have wanted : bus.isWanted handler number = handler.wants message.topic := by
    rw [Bus.isWanted, published, Option.any_some]
  rw [← wanted]
  constructor
  · intro taken
    rw [reads.inOrder] at taken
    exact (Bool.and_eq_true_iff.mp (List.mem_filter.mp taken).2).1
  · intro wanted
    by_contra absent
    rcases reads.missing since wanted absent with
      ⟨stood, size, next, fate, listed, lag, here, -⟩ | ahead
    · exact absurd (keepUp stood size next fate listed here) (Nat.not_le_of_lt lag)
    · exact absurd past (Nat.not_lt_of_le ahead)

namespace Session

variable {before after : Session} {deeds : List Deed} {index consumer timeout number : Nat}
  {config : Config.GuildProgression} {message : Message}

theorem steady_ownHandler (config : Config.GuildProgression) (consumer : Nat) :
    (ownHandler config consumer).Steady := by
  rcases ownHandler_cases config consumer with same | same
  · rw [same]
    exact Fanout.steady_handler
  · rw [same]
    exact Advancement.steady_handler config

/-- For every run of a listener of the service and every message that is published since it began,
whatever its topic, if the listener keeps up with the bus. Once it has come past the message, it has
taken it up exactly if the topic begins as one of its patterns does before the star and does not go
on with a star and more. Before that it can go on, unless it was stopped or told to stop. -/
theorem takenUp_iff_continues (keeps : 0 < before.world.bus.capacity)
    (began : before.listener? index =
      some (Listener.begin { handler := ownHandler config consumer, timeout } before.world.bus))
    (runs : Runs index (ownHandler config consumer).name before deeds after)
    (since : before.world.bus.size ≤ number)
    (published : after.world.bus.messages[number]? = some message)
    (keepUp : Deed.KeepUp deeds before.world.bus.capacity number) :
    ∃ listener, after.listener? index = some listener ∧
      (number < listener.position → (number ∈ Deed.takenUp deeds ↔ ∃ rest,
        (ownHandler config consumer).Continues message.topic rest ∧ ¬ Handler.Starred rest)) ∧
      (listener.position ≤ number → listener.phase = .stopped ∨ listener.cancelled = true ∨
        ∃ deed next, deed.isOnEvent ∧ Does index after deed next) := by
  obtain ⟨listener, found, carries, hears⟩ := carries_of_runs began runs
  refine ⟨listener, found, fun past => ?_, fun ahead => ?_⟩
  · rw [← Service.wants_iff]
    rw [← hears.published.capacity] at keepUp
    exact hears.reads.mem_takenUp_iff since published keepUp past
  · have known : number < after.world.bus.size := (Array.getElem?_eq_some_iff.mp published).1
    have sound := (carries.steady (steady_ownHandler config consumer)).1
    rw [← hears.published.capacity] at keeps
    cases phase : listener.phase with
    | idle => exact absurd phase hears.begun
    | stopped => exact .inl rfl
    | listening =>
      cases cancelled : listener.cancelled with
      | true => exact .inr (.inl rfl)
      | false =>
        exact .inr (.inr
          (exists_does found phase cancelled sound (Nat.lt_of_le_of_lt ahead known) keeps))

/-- An event about a friend is read and taken up. -/
theorem takenUp_iff_continues_request : ∃ fate after,
    Runs 0 "notification" serving [.read 0 1 0 fate] after ∧
    after.world.bus.messages[0]? = some request ∧
    Deed.KeepUp [.read 0 1 0 fate] serving.world.bus.capacity 0 ∧
    0 ∈ Deed.takenUp [.read 0 1 0 fate] ∧
    ∃ rest, Fanout.handler.Continues request.topic rest ∧ ¬ Handler.Starred rest := by
  have begun : serving.listener? 0 =
      some (Listener.begin { handler := ownHandler {} 0, timeout := 5000 } serving.world.bus) := rfl
  have others : Elsewhere 0 "notification" serving requested :=
    ⟨rfl, precedes_answer _ _, fun _ => rfl⟩
  have next : requested.world.bus.read? 0 = some (request, 1) := by cbv
  obtain ⟨fate, after, does, taken, published, position⟩ : ∃ fate after,
      Does 0 requested (.read 0 1 0 fate) after ∧ Deed.takenUp [.read 0 1 0 fate] = [0] ∧
      after.world.bus.messages[0]? = some request ∧
      (after.listener? 0).map (·.position) = some 1 :=
    ⟨_, _, @Does.read 0 requested _ _ _ rfl ⟨rfl, rfl, rfl, rfl⟩ next, by cbv, by cbv, by cbv⟩
  have runs : Runs 0 "notification" serving [.read 0 1 0 fate] after :=
    (Runs.start.elsewhere others).did does
  have ring : serving.world.bus.capacity = 1024 := by cbv
  have keepUp : Deed.KeepUp [.read 0 1 0 fate] serving.world.bus.capacity 0 := by
    intro stood size number other listed _
    obtain ⟨rfl, rfl, -, -⟩ := Deed.read.inj (List.mem_singleton.mp listed)
    rw [ring]
    decide
  obtain ⟨listener, found, past, -⟩ := takenUp_iff_continues (ring ▸ by decide) begun runs
    (Nat.zero_le 0) published keepUp
  rw [found] at position
  have place : listener.position = 1 := Option.some.inj position
  have behind : 0 < listener.position := place ▸ Nat.zero_lt_one
  have listed : 0 ∈ Deed.takenUp [.read 0 1 0 fate] := taken ▸ List.mem_singleton_self 0
  exact ⟨fate, after, runs, published, keepUp, listed, (past behind).mp listed⟩

/-- The topic begins as a pattern does before its star, and goes on with a star and more. The
listener keeps up and reads the event, but does not take it up: nothing is in hand and nothing is
counted. -/
theorem unheard_of_star :
    let session := (serving.published "events:friend:*x").drain
    (ownHandler {} 0).Continues "events:friend:*x" "*x" ∧
      session.isListening 0 = true ∧ session.world.bus.size = 1 ∧
      session.world.bus.size ≤ session.world.bus.capacity ∧
      (session.listener? 0).map (fun listener => (listener.position, listener.job.isSome)) =
        some (1, false) ∧
      ∀ outcome, session.world.metrics.count (.events "notification" outcome) = 0 := by
  refine ⟨⟨"events:friend:", by decide, by decide⟩, by cbv, by cbv, by cbv, by cbv, ?_⟩
  intro outcome
  cases outcome <;> cbv

end Session

end Parley
