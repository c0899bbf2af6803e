import Mathlib.Data.List.Perm.Subperm
import Mathlib.Data.List.Permutation
import Parley.Proofs.Listener.Echo
import Parley.Proofs.Listener.Reading

/-!
# The circulation of messages

The listeners for notifications and for guilds read from the bus that they publish on. Every message
that is published while they run has its origin: it came from outside, or was published in the
handling of another message. Whatever else happens to the session, at most one of the two handles a
message, at most one message has its origin in it, and nothing follows from a message that they have
published themselves.
-/

namespace Parley

/-- The number of the event that a deed is on. -/
def Deed.number? : Deed → Option Nat
  | .read _ _ number _ | .resumed number _ => some number
  | _ => none

/-- The handlers of the listeners of the service. -/
def Service.ownHandler (config : Config.GuildProgression) (index : Nat) : Handler :=
  if index = 0 then Fanout.handler else Advancement.handler config

open Service (ownListeners ownHandler)

namespace Session

variable {session after : Session} {index : Nat} {listener : Listener} {fate : Fate}
  {flow : Flow (Except Failure Handled)}

theorem Goes.eq_of_done {α : Type} {value : α} {rest : Flow α}
    (goes : Goes (.done value) session rest after) : rest = .done value ∧ after = session := by
  cases goes
  exact ⟨rfl, rfl⟩

namespace Works

/-- A flow that has ended changes neither store nor bus. -/
theorem of_done {result : Except Failure Handled}
    (works : Works index listener flow session fate after) (ended : flow = .done result) :
    after.world.store = session.world.store ∧ after.world.bus = session.world.bus := by
  subst ended
  obtain ⟨rest, gone, left, goes, -, -, -, rfl⟩ := works
  obtain ⟨-, rfl⟩ := goes.eq_of_done
  cases fate <;> exact ⟨rfl, rfl⟩

/-- What was published of the messages that a flow may publish, and what may follow. -/
theorem sends {good : Message → Prop} {k : Nat}
    (works : Works index listener flow session fate after) (free : fate = .ignored → listener.job = none)
    (sends : Flow.Sends good flow k) (found : session.listener? index = some listener) :
    ∃ sent left, after.world.bus.messages.toList = session.world.bus.messages.toList ++ sent ∧
      (∀ message ∈ sent, good message) ∧ sent.length ≤ k ∧
      after.listener? index = some left ∧ fate.Leaves listener left ∧
      ∀ job ∈ left.job, Flow.Sends good job.rest (k - sent.length) ∧
        ∀ result, flow = .done result → job.rest = .done result := by
  obtain ⟨rest, gone, left, goes, leaves, holding, -, rfl⟩ := works
  obtain ⟨sent, published, kind, few, later⟩ := goes.sends sends
  have listed : gone.listener? index = some listener :=
    (congrArg (·[index]?) goes.listeners).trans found
  have bus : (gone.world.counted listener.name fate).bus = gone.world.bus := by cases fate <;> rfl
  refine ⟨sent, left, ?_, kind, few, listener?_setListener listed left, leaves, fun job inHand => ?_⟩
  · exact (congrArg (·.messages.toList) bus).trans published
  · cases leaves with
    | ignored => cases (free rfl).symm.trans inHand
    | held held =>
      obtain ⟨_, same, rfl⟩ := holding rfl
      obtain rfl := Option.some.inj (same.symm.trans inHand)
      exact ⟨later, fun result ended => by subst ended; exact goes.eq_of_done.1⟩
    | _ => cases inHand

end Works

end Session

/-- A listener of the service that began behind `start` messages, when the messages since have these
origins: nothing has its origin in what it has yet to handle, and of an event in hand as much may
follow as has not followed yet. -/
structure Listener.Awaits (listener : Listener) (handler : Handler) (start : Nat)
    (origins : List (Option Nat)) (bus : Bus) : Prop where
  serves : listener.handler = handler
  since : start ≤ listener.position
  ahead : ∀ number, listener.position ≤ number →
    (∀ message ∈ bus.messages[number]?, handler.wants message.topic) → some number ∉ origins
  inHand : ∀ job ∈ listener.job, ∃ number message, listener.position = number + 1 ∧
    start ≤ number ∧ bus.messages[number]? = some message ∧
    Flow.Sends IsEcho job.rest (1 - origins.count (some number)) ∧
    (handler.wants message.topic ∨ job.rest = .done (.ok .skipped)) ∧
    (IsEcho message → job.rest = .done (.ok .skipped))

theorem Listener.Awaits.begin {handler : Handler} {timeout : Nat} (bus : Bus) :
    (Listener.begin { handler, timeout } bus).Awaits handler bus.size [] bus where
  serves := rfl
  since := Nat.le_refl _
  ahead := nofun
  inHand := nofun

/-- More is published, none of it in the handling of what this listener wants. -/
theorem Listener.Awaits.later {listener : Listener} {handler : Handler} {start : Nat}
    {origins more : List (Option Nat)} {bus after : Bus}
    (awaits : listener.Awaits handler start origins bus) (precedes : bus.Precedes after)
    (others : ∀ number, some number ∈ more →
      ∃ message, bus.messages[number]? = some message ∧ handler.wants message.topic = false) :
    listener.Awaits handler start (origins ++ more) after := by
  refine ⟨awaits.serves, awaits.since, ?_, ?_⟩
  · intro number place wanted listed
    rcases List.mem_append.mp listed with early | late
    · exact awaits.ahead number place
        (fun message found => wanted message (precedes.getElem?_eq_some found)) early
    · obtain ⟨message, found, unwanted⟩ := others number late
      exact absurd (wanted message (precedes.getElem?_eq_some found))
        (by rw [unwanted]; exact Bool.false_ne_true)
  · intro job held
    obtain ⟨number, message, place, behind, found, sends, wanted, echo⟩ := awaits.inHand job held
    refine ⟨number, message, place, behind, precedes.getElem?_eq_some found, ?_, wanted, echo⟩
    rcases wanted with wanted | ended
    · have absent : some number ∉ more := by
        intro late
        obtain ⟨other, listed, unwanted⟩ := others number late
        obtain rfl := Option.some.inj (listed.symm.trans found)
        exact absurd wanted (by rw [unwanted]; exact Bool.false_ne_true)
      rwa [List.count_append, List.count_eq_zero_of_not_mem absent]
    · rw [ended]
      trivial

/-- The listener has worked on the message with this number, and `n` messages were published. -/
theorem Listener.Awaits.worked {left : Listener} {handler : Handler} {start n number : Nat}
    {origins : List (Option Nat)} {bus after : Bus} {message : Message}
    (serves : left.handler = handler) (place : left.position = number + 1) (since : start ≤ number)
    (precedes : bus.Precedes after) (listed : bus.messages[number]? = some message)
    (ahead : ∀ other, number < other →
      (∀ message ∈ bus.messages[other]?, handler.wants message.topic) → some other ∉ origins)
    (inHand : ∀ job ∈ left.job, Flow.Sends IsEcho job.rest (1 - origins.count (some number) - n) ∧
      (handler.wants message.topic ∨ job.rest = .done (.ok .skipped)) ∧
      (IsEcho message → job.rest = .done (.ok .skipped))) :
    left.Awaits handler start (origins ++ List.replicate n (some number)) after := by
  refine ⟨serves, by omega, fun other beyond wants late => ?_, fun job held => ?_⟩
  · rcases List.mem_append.mp late with early | last
    · exact ahead other (by omega)
        (fun message here => wants message (precedes.getElem?_eq_some here)) early
    · have same := Option.some.inj (List.eq_of_mem_replicate last)
      omega
  · obtain ⟨sends, wanted, echo⟩ := inHand job held
    refine ⟨number, message, place, since, precedes.getElem?_eq_some listed, ?_, wanted, echo⟩
    rwa [List.count_append, List.count_replicate_self, Nat.sub_add_eq]

namespace Session

/-- The two listeners of the service take steps, and whatever else happens publishes from outside.
With each step go the origins of the messages that were published since `before`, and the deeds. -/
inductive Circulates (before : Session) : List (Option Nat) → List (Nat × Deed) → Session → Prop
  | start : Circulates before [] [] before
  | outside {origins : List (Option Nat)} {deeds : List (Nat × Deed)} {here after : Session}
    (circulates : Circulates before origins deeds here)
    (kept : ∀ index ∈ ownListeners, after.listener? index = here.listener? index)
    (precedes : here.world.bus.Precedes after.world.bus) :
    Circulates before
      (origins ++ List.replicate (after.world.bus.size - here.world.bus.size) none) deeds after
  | did {origins : List (Option Nat)} {deeds : List (Nat × Deed)} {here after : Session}
    {index : Nat} {deed : Deed} (circulates : Circulates before origins deeds here)
    (own : index ∈ ownListeners) (does : Does index here deed after) :
    Circulates before
      (origins ++ List.replicate (after.world.bus.size - here.world.bus.size) deed.number?)
      (deeds ++ [(index, deed)]) after

/-- Each message since `start` has its origin, either outside or, once at most, in a message from
outside. What has its origin in another message is an echo. -/
structure Sourced (start : Nat) (origins : List (Option Nat)) (bus : Bus) : Prop where
  known : start + origins.length = bus.size
  once : ∀ number, origins.count (some number) ≤ 1
  sources : ∀ number, some number ∈ origins → ∃ k, number = start + k ∧ origins[k]? = some none
  echoes : ∀ k number, origins[k]? = some (some number) →
    ∃ message, bus.messages[start + k]? = some message ∧ IsEcho message

namespace Sourced

variable {start : Nat} {origins : List (Option Nat)} {bus after : Bus}

theorem nothing : Sourced bus.size [] bus where
  known := rfl
  once := fun _ => Nat.zero_le _
  sources := nofun
  echoes := nofun

theorem outside (sourced : Sourced start origins bus) (precedes : bus.Precedes after) :
    Sourced start (origins ++ List.replicate (after.size - bus.size) none) after := by
  have absent : ∀ number, some number ∉ List.replicate (after.size - bus.size) (none : Option Nat) :=
    fun number listed => Option.some_ne_none _ (List.eq_of_mem_replicate listed)
  have longer := precedes.size_le
  have known := sourced.known
  constructor
  · rw [List.length_append, List.length_replicate]
    omega
  · intro number
    rw [List.count_append, List.count_eq_zero_of_not_mem (absent number)]
    exact sourced.once number
  · intro number listed
    obtain ⟨k, place, found⟩ := sourced.sources number
      ((List.mem_append.mp listed).resolve_right (absent number))
    exact ⟨k, place, List.getElem?_append_left (List.getElem?_eq_some_iff.mp found).1 ▸ found⟩
  · intro k number found
    rcases Nat.lt_or_ge k origins.length with early | late
    · rw [List.getElem?_append_left early] at found
      obtain ⟨message, listed, echo⟩ := sourced.echoes k number found
      exact ⟨message, precedes.getElem?_eq_some listed, echo⟩
    · rw [List.getElem?_append_right late] at found
      exact absurd (List.mem_of_getElem? found) (absent number)

/-- What is no echo came from outside. -/
theorem origin_of_not_echo (sourced : Sourced start origins bus) {k : Nat} {message : Message}
    (within : k < origins.length) (listed : bus.messages[start + k]? = some message)
    (fresh : ¬ IsEcho message) : origins[k]? = some none := by
  cases origin : origins[k] with
  | none => exact List.getElem?_eq_some_iff.mpr ⟨within, origin⟩
  | some source =>
    obtain ⟨echo, here, is_echo⟩ := sourced.echoes k source
      (List.getElem?_eq_some_iff.mpr ⟨within, origin⟩)
    obtain rfl := Option.some.inj (here.symm.trans listed)
    exact absurd is_echo fresh

/-- In the handling of a message from outside as many echoes follow as have not followed yet. -/
theorem sent (sourced : Sourced start origins bus) {number : Nat} {message : Message}
    {sent : List Message} (since : start ≤ number) (precedes : bus.Precedes after)
    (listed : bus.messages[number]? = some message)
    (published : after.messages.toList = bus.messages.toList ++ sent)
    (echoes : ∀ message ∈ sent, IsEcho message)
    (few : sent.length ≤ 1 - origins.count (some number)) (fresh : sent ≠ [] → ¬ IsEcho message) :
    Sourced start (origins ++ List.replicate sent.length (some number)) after := by
  have known := sourced.known
  have within : number < bus.size := (Array.getElem?_eq_some_iff.mp listed).1
  constructor
  · rw [Bus.size_of_append published, List.length_append, List.length_replicate]
    omega
  · intro other
    have before := sourced.once other
    rw [List.count_append, List.count_replicate]
    by_cases same : number = other
    · subst same
      rw [if_pos (beq_self_eq_true _)]
      omega
    · rw [if_neg (by simpa using same)]
      exact before
  · intro other found
    have place : ∀ k, origins[k]? = some none →
        (origins ++ List.replicate sent.length (some number))[k]? = some none := fun k here =>
      List.getElem?_append_left (List.getElem?_eq_some_iff.mp here).1 ▸ here
    rcases List.mem_append.mp found with early | late
    · obtain ⟨k, rfl, here⟩ := sourced.sources other early
      exact ⟨k, rfl, place k here⟩
    · obtain ⟨positive, same⟩ := List.mem_replicate.mp late
      obtain rfl := Option.some.inj same
      obtain ⟨k, rfl⟩ : ∃ k, other = start + k := ⟨other - start, by omega⟩
      exact ⟨k, rfl, place k (sourced.origin_of_not_echo (by omega) listed
        (fresh (List.length_pos_iff.mp (Nat.pos_of_ne_zero positive))))⟩
  · intro k source found
    rcases Nat.lt_or_ge k origins.length with early | late
    · rw [List.getElem?_append_left early] at found
      obtain ⟨message, here, echo⟩ := sourced.echoes k source found
      exact ⟨message, precedes.getElem?_eq_some here, echo⟩
    · rw [List.getElem?_append_right late, List.getElem?_replicate] at found
      split at found
      · next below =>
        refine ⟨sent[k - origins.length], ?_, echoes _ (List.getElem_mem below)⟩
        rw [Bus.getElem?_of_append published (by omega),
          show start + k - bus.size = k - origins.length by omega]
        exact List.getElem?_eq_getElem below
      · cases found

/-- What has its origin in another message is no origin itself. -/
theorem not_mem_of_echo (sourced : Sourced start origins bus) {k number : Nat}
    (found : origins[k]? = some (some number)) : some (start + k) ∉ origins := by
  intro listed
  obtain ⟨other, place, outside⟩ := sourced.sources _ listed
  obtain rfl : k = other := Nat.add_left_cancel place
  cases found.symm.trans outside

/-- There are no more echoes than messages from outside. -/
theorem countP_le (sourced : Sourced start origins bus) :
    origins.countP Option.isSome ≤ origins.countP Option.isNone := by
  have echoes : (origins.filterMap id).length = origins.countP Option.isSome := by
    rw [List.length_filterMap_eq_countP]
    rfl
  have outside : ((origins.zipIdx.filter (·.1.isNone)).map (start + ·.2)).length =
      origins.countP Option.isNone := by
    rw [List.length_map, ← List.countP_eq_length_filter]
    conv_rhs => rw [← List.zipIdx_map_fst 0 origins, List.countP_map]
    rfl
  have apart : (origins.filterMap id).Nodup := by
    refine List.nodup_iff_count_le_one.mpr fun number => ?_
    rw [List.count_filterMap]
    exact sourced.once number
  have inside : origins.filterMap id ⊆ (origins.zipIdx.filter (·.1.isNone)).map (start + ·.2) := by
    intro number listed
    obtain ⟨origin, found, same⟩ := List.mem_filterMap.mp listed
    obtain ⟨k, rfl, here⟩ := sourced.sources number (same ▸ found)
    have numbered : (none, k) ∈ origins.zipIdx := List.mk_mem_zipIdx_iff_getElem?.mpr here
    exact List.mem_map.mpr ⟨_, List.mem_filter.mpr ⟨numbered, rfl⟩, rfl⟩
  rw [← echoes, ← outside]
  exact (apart.subperm inside).length_le

end Sourced

variable {config : Config.GuildProgression} {before session after : Session} {index : Nat}
  {origins : List (Option Nat)} {deeds : List (Nat × Deed)} {deed : Deed}

/-- What holds of the messages published since `before`, and of the two listeners. -/
structure Flowing (config : Config.GuildProgression) (start : Nat) (origins : List (Option Nat))
    (session : Session) : Prop where
  sourced : Sourced start origins session.world.bus
  awaits : ∀ index ∈ ownListeners, ∃ listener, session.listener? index = some listener ∧
    listener.Awaits (ownHandler config index) start origins session.world.bus

theorem ownHandler_cases (config : Config.GuildProgression) (index : Nat) :
    ownHandler config index = Fanout.handler ∨
      ownHandler config index = Advancement.handler config := by
  rw [ownHandler]
  split
  · exact .inl rfl
  · exact .inr rfl

/-- No topic is wanted by both listeners. -/
theorem ownHandler_apart {other : Nat} (own : index ∈ ownListeners) (also : other ∈ ownListeners)
    (apart : index ≠ other) {topic : String} (wanted : (ownHandler config index).wants topic) :
    (ownHandler config other).wants topic = false := by
  simp only [ownListeners, List.mem_cons, List.not_mem_nil, or_false] at own also
  rcases own with rfl | rfl <;> rcases also with rfl | rfl
  · exact absurd rfl apart
  · exact Advancement.wants_eq_false_of_fanout wanted
  · refine Bool.eq_false_iff.mpr fun both => ?_
    have unwanted : (ownHandler config 1).wants topic = false :=
      Advancement.wants_eq_false_of_fanout both
    exact absurd (unwanted.symm.trans wanted) Bool.false_ne_true
  · exact absurd rfl apart

theorem sends_flowFor {listener : Listener} (serves : listener.handler = ownHandler config index)
    (message : Message) : Flow.Sends IsEcho (listener.flowFor message) 1 := by
  rw [Listener.flowFor]
  split
  · split
    · rcases ownHandler_cases config index with fanout | advancement
      · rw [serves, fanout]
        exact Fanout.sends_handle _ _
      · rw [serves, advancement]
        exact Advancement.sends_handle
          (Advancement.asks_guildOf rfl (fun _ _ => rfl) fun _ _ => rfl) _ _
    · trivial
  · trivial

namespace Flowing

variable {start : Nat}

/-- Work of a listener of the service on the message with this number. -/
theorem works {listener : Listener} {flow : Flow (Except Failure Handled)} {fate : Fate}
    {here : Session} {number : Nat} {message : Message}
    (flowing : Flowing config start origins session)
    (works : Works index listener flow here fate after) (own : index ∈ ownListeners)
    (world : here.world = session.world)
    (others : ∀ other, index ≠ other → here.listener? other = session.listener? other)
    (found : here.listener? index = some listener)
    (serves : listener.handler = ownHandler config index) (free : fate = .ignored → listener.job = none)
    (place : listener.position = number + 1) (since : start ≤ number)
    (listed : session.world.bus.messages[number]? = some message)
    (sends : Flow.Sends IsEcho flow (1 - origins.count (some number)))
    (wanted : (ownHandler config index).wants message.topic ∨ flow = .done (.ok .skipped))
    (echo : IsEcho message → flow = .done (.ok .skipped))
    (ahead : ∀ other, number < other →
      (∀ message ∈ session.world.bus.messages[other]?,
        (ownHandler config index).wants message.topic) → some other ∉ origins) :
    Flowing config start
      (origins ++ List.replicate (after.world.bus.size - session.world.bus.size) (some number))
      after := by
  obtain ⟨sent, left, published, echoes, few, listedAfter, leaves, inHand⟩ :=
    works.sends free sends found
  rw [world] at published
  have precedes : session.world.bus.Precedes after.world.bus := world ▸ works.precedes
  have size : after.world.bus.size - session.world.bus.size = sent.length :=
    Nat.sub_eq_of_eq_add' (Bus.size_of_append published)
  have silent : flow = .done (.ok .skipped) → sent = [] := by
    intro ended
    have same := (works.of_done ended).2
    rw [same, world] at published
    exact List.self_eq_append_right.mp published
  rw [size]
  refine ⟨flowing.sourced.sent since precedes listed published echoes few fun some_sent is_echo =>
    some_sent (silent (echo is_echo)), fun other also => ?_⟩
  -- The listener itself has used up what may follow from the message; the other one does not want
  -- the message, so that nothing it has yet to handle is the origin of what was published.
  by_cases same : index = other
  · subst same
    obtain ⟨served, position⟩ := leaves.kept
    refine ⟨left, listedAfter, .worked (served.trans serves) (position.trans place) since precedes
      listed ahead fun job held => ?_⟩
    obtain ⟨later, ended⟩ := inHand job held
    exact ⟨later, wanted.imp_right (ended _), fun is_echo => ended _ (echo is_echo)⟩
  · obtain ⟨otherListener, otherFound, awaits⟩ := flowing.awaits other also
    refine ⟨otherListener, ?_, awaits.later precedes fun source late => ?_⟩
    · rw [works.listener?_of_ne same, others other same]
      exact otherFound
    · obtain ⟨positive, eq⟩ := List.mem_replicate.mp late
      obtain rfl := Option.some.inj eq
      refine ⟨message, listed, ownHandler_apart own also same (wanted.resolve_right fun ended => ?_)⟩
      exact positive (List.length_eq_zero_iff.mpr (silent ended))

/-- A step of a listener that is not on an event. -/
theorem aside (flowing : Flowing config start origins session) {listener : Listener}
    (left : Listener) (found : session.listener? index = some listener)
    (served : left.handler = listener.handler) (place : left.position = listener.position)
    (held : ∀ job ∈ left.job, job ∈ listener.job) (number? : Option Nat) :
    Flowing config start
      (origins ++ List.replicate
        ((session.setListener index left).world.bus.size - session.world.bus.size) number?)
      (session.setListener index left) := by
  have none_sent : (session.setListener index left).world.bus.size - session.world.bus.size = 0 :=
    Nat.sub_self _
  rw [none_sent, List.replicate_zero, List.append_nil]
  refine ⟨flowing.sourced, fun other also => ?_⟩
  obtain ⟨acting, listed, awaits⟩ := flowing.awaits other also
  by_cases same : index = other
  · subst same
    obtain rfl := Option.some.inj (listed.symm.trans found)
    refine ⟨left, listener?_setListener found left, served.trans awaits.serves,
      place ▸ awaits.since, place ▸ awaits.ahead, fun job inHand => ?_⟩
    rw [place]
    exact awaits.inHand job (held job inHand)
  · exact ⟨acting, (listener?_setListener_of_ne same left).trans listed, awaits⟩

/-- A listener of the service goes on with the event in hand. -/
theorem goesOn {listener : Listener} {job : Job} {fate : Fate}
    (flowing : Flowing config start origins session) (own : index ∈ ownListeners)
    (found : session.listener? index = some listener) (inHand : listener.job = some job)
    (works : Works index listener job.rest session fate after) (taken : fate ≠ .ignored) :
    Flowing config start
      (origins ++ List.replicate (after.world.bus.size - session.world.bus.size)
        (Deed.resumed (listener.position - 1) fate).number?) after := by
  obtain ⟨acting, listed, awaits⟩ := flowing.awaits index own
  obtain rfl := Option.some.inj (found.symm.trans listed)
  obtain ⟨number, message, place, since, here, sends, wanted, echo⟩ := awaits.inHand job inHand
  rw [Deed.number?, place, Nat.add_sub_cancel]
  exact flowing.works works own rfl (fun _ _ => rfl) found awaits.serves
    (fun ignored => absurd ignored taken) place since here sends wanted echo
    fun other later => awaits.ahead other (by omega)

theorem does (flowing : Flowing config start origins session) (own : index ∈ ownListeners)
    (does : Does index session deed after) :
    Flowing config start
      (origins ++ List.replicate (after.world.bus.size - session.world.bus.size) deed.number?)
      after := by
  cases does with
  | @read listener message position found attends next =>
    obtain ⟨acting, listed, awaits⟩ := flowing.awaits index own
    obtain rfl := Option.some.inj (found.symm.trans listed)
    obtain ⟨place, here⟩ := Bus.read?_eq_some next
    obtain ⟨number, rfl⟩ : ∃ number, position = number + 1 := ⟨_, place⟩
    have beyond : listener.position ≤ number := by omega
    have moved := listener?_setListener found (listener.movedTo (number + 1))
    have serves : (listener.movedTo (number + 1)).handler = ownHandler config index := awaits.serves
    have skips := (listener.movedTo (number + 1)).wants_or_skips message
    rw [serves] at skips
    have sends : Flow.Sends IsEcho ((listener.movedTo (number + 1)).flowFor message)
        (1 - origins.count (some number)) := by
      rcases skips with wanted | ended
      · have fresh := awaits.ahead number beyond fun other same =>
          Option.some.inj (here.symm.trans same) ▸ wanted
        rw [List.count_eq_zero_of_not_mem fresh]
        exact sends_flowFor serves message
      · rw [ended]
        trivial
    have since := awaits.since
    have others := fun other (apart : index ≠ other) =>
      @listener?_setListener_of_ne session _ _ apart (listener.movedTo (number + 1))
    exact flowing.works (works_take moved attends.free message) own rfl others moved serves
      (fun _ => attends.free) rfl (by omega) here sends skips
      (fun echo => echo.flowFor (serves.symm ▸ ownHandler_cases config index))
      fun other later => awaits.ahead other (by omega)
  | @resume listener job found inHand due =>
    exact flowing.goesOn own found inHand (works_resume index listener job session)
      (fateOf_ne_ignored _ _ _)
  | @await listener job found inHand early =>
    exact flowing.goesOn own found inHand (works_await index listener job session)
      (fateOf_ne_ignored _ _ _)
  | @cancel listener found =>
    exact flowing.aside { listener with cancelled := true } found rfl rfl (fun _ held => held) _
  | @finish listener found free =>
    exact flowing.aside listener.finish found rfl rfl
      (fun _ inHand => absurd inHand (Option.not_mem_none _)) _

theorem outside (flowing : Flowing config start origins session)
    (kept : ∀ index ∈ ownListeners, after.listener? index = session.listener? index)
    (precedes : session.world.bus.Precedes after.world.bus) :
    Flowing config start
      (origins ++ List.replicate (after.world.bus.size - session.world.bus.size) none) after := by
  refine ⟨flowing.sourced.outside precedes, fun index own => ?_⟩
  obtain ⟨listener, found, awaits⟩ := flowing.awaits index own
  exact ⟨listener, (kept index own).trans found, awaits.later precedes fun number late =>
    absurd (List.eq_of_mem_replicate late) (Option.some_ne_none _)⟩

end Flowing

/-- Both listeners of the service have just begun. -/
def OwnBegun (config : Config.GuildProgression) (session : Session) : Prop :=
  ∀ index ∈ ownListeners, ∃ timeout, session.listener? index =
    some (Listener.begin { handler := ownHandler config index, timeout } session.world.bus)

theorem flowing_of_circulates (begun : OwnBegun config before)
    (circulates : Circulates before origins deeds after) :
    Flowing config before.world.bus.size origins after := by
  induction circulates with
  | start =>
    refine ⟨.nothing, fun index own => ?_⟩
    obtain ⟨timeout, found⟩ := begun index own
    exact ⟨_, found, .begin _⟩
  | outside circulates kept precedes ih => exact ih.outside kept precedes
  | did circulates own does ih => exact ih.does own does

/-- However the two listeners take turns, messages circulate. -/
theorem circulates_of_unfolds (own : ∀ step ∈ deeds, step.1 ∈ ownListeners)
    (unfolds : Unfolds before deeds after) : ∃ origins, Circulates before origins deeds after := by
  induction unfolds with
  | start => exact ⟨[], .start⟩
  | did unfolds does ih =>
    obtain ⟨earlier, last⟩ := List.forall_mem_append.mp own
    obtain ⟨origins, circulates⟩ := ih earlier
    exact ⟨_, circulates.did (last _ (List.mem_singleton_self _)) does⟩
  | passed unfolds clock waiting ready ih =>
    obtain ⟨origins, circulates⟩ := ih own
    exact ⟨_, circulates.outside (fun _ _ => rfl) (.refl _)⟩

/-- What a listener of the service takes up is wanted by its handler. -/
theorem wanted_of_takesUp (begun : OwnBegun config before)
    (circulates : Circulates before origins deeds after) :
    ∀ index deed number, (index, deed) ∈ deeds → deed.takesUp? = some number →
      index ∈ ownListeners ∧
        after.world.bus.isWanted (ownHandler config index) number := by
  have kept : ∀ {bus later : Bus} {handler : Handler} {number : Nat}, bus.Precedes later →
      bus.isWanted handler number → later.isWanted handler number := by
    intro bus later handler number precedes wanted
    rcases Nat.lt_or_ge number bus.size with within | beyond
    · rwa [Bus.isWanted, precedes.getElem? within]
    · rw [Bus.isWanted, Array.getElem?_eq_none beyond] at wanted
      exact absurd wanted Bool.false_ne_true
  induction circulates with
  | start => exact fun _ _ _ listed => absurd listed (List.not_mem_nil)
  | outside circulates _ precedes ih =>
    exact fun index deed number listed takes =>
      (ih index deed number listed takes).imp_right (kept precedes)
  | @did origins deeds here after acting step circulates own does ih =>
    intro index deed number listed takes
    rcases List.mem_append.mp listed with early | last
    · exact (ih index deed number early takes).imp_right (kept does.precedes)
    · obtain ⟨rfl, rfl⟩ := Prod.mk.inj (List.mem_singleton.mp last)
      refine ⟨own, kept does.precedes ?_⟩
      obtain ⟨serving, found, awaits⟩ := (flowing_of_circulates begun circulates).awaits index own
      cases does with
      | @read listener message position heard attends next =>
        obtain rfl := Option.some.inj (heard.symm.trans found)
        obtain ⟨-, place⟩ := Bus.read?_eq_some next
        rw [Deed.takesUp?] at takes
        split at takes
        · cases takes
        · next taken =>
          obtain rfl := Option.some.inj takes
          rw [fateOfMessage_eq_ignored, Bool.not_eq_false] at taken
          rw [Bus.isWanted, place, Option.any_some, ← awaits.serves]
          exact taken
      | _ => cases takes

theorem ended_of_echo {start : Nat} {listener : Listener} {handler : Handler} {bus : Bus} {job : Job}
    (awaits : listener.Awaits handler start origins bus) (inHand : listener.job = some job)
    {number : Nat} (place : listener.position - 1 = number) {message : Message}
    (here : bus.messages[number]? = some message) (echo : IsEcho message) :
    job.rest = .done (.ok .skipped) := by
  obtain ⟨other, held, position, -, listed, -, -, ended⟩ := awaits.inHand job inHand
  obtain rfl : other = number := by omega
  obtain rfl := Option.some.inj (listed.symm.trans here)
  exact ended echo

/-- Nothing changes in the store and nothing is published in the handling of an echo. -/
theorem unchanged_of_echo {start : Nat} (flowing : Flowing config start origins session)
    (own : index ∈ ownListeners) (does : Does index session deed after) {k number : Nat}
    (found : origins[k]? = some (some number)) (acts : deed.number? = some (start + k)) :
    after.world.store = session.world.store ∧ after.world.bus = session.world.bus := by
  obtain ⟨message, here, echo⟩ := flowing.sourced.echoes k number found
  obtain ⟨acting, listed, awaits⟩ := flowing.awaits index own
  cases does with
  | @read listener read position found attends next =>
    obtain rfl := Option.some.inj (found.symm.trans listed)
    obtain ⟨-, place⟩ := Bus.read?_eq_some next
    rw [Option.some.inj acts] at place
    obtain rfl := Option.some.inj (place.symm.trans here)
    have moved := listener?_setListener found (listener.movedTo position)
    exact (works_take moved attends.free read).of_done
      (echo.flowFor (awaits.serves.symm ▸ ownHandler_cases config index))
  | @resume listener job found inHand due =>
    obtain rfl := Option.some.inj (found.symm.trans listed)
    exact (works_resume index listener job session).of_done
      (ended_of_echo awaits inHand (Option.some.inj acts) here echo)
  | @await listener job found inHand early =>
    obtain rfl := Option.some.inj (found.symm.trans listed)
    exact (works_await index listener job session).of_done
      (ended_of_echo awaits inHand (Option.some.inj acts) here echo)
  | cancel found => cases acts
  | finish found free => cases acts

/-- The listeners for notifications and for guilds do not set each other going without end. At most
one of them takes a message up, at most one message has its origin in it, and a message with its
origin in another one changes nothing in the store and is the origin of none. -/
theorem bounded_of_circulates (begun : OwnBegun config before)
    (circulates : Circulates before origins deeds after) :
    before.world.bus.size + origins.length = after.world.bus.size ∧
    (∀ number index other deed step, (index, deed) ∈ deeds → (other, step) ∈ deeds →
      deed.takesUp? = some number → step.takesUp? = some number → index = other) ∧
    (∀ number, origins.count (some number) ≤ 1) ∧
    (∀ k number, origins[k]? = some (some number) →
      some (before.world.bus.size + k) ∉ origins ∧
      ∀ index ∈ ownListeners, ∀ deed next, Does index after deed next →
        deed.number? = some (before.world.bus.size + k) →
        next.world.store = after.world.store ∧ next.world.bus = after.world.bus) ∧
    origins.countP Option.isSome ≤ origins.countP Option.isNone := by
  have flowing := flowing_of_circulates begun circulates
  have wanted := wanted_of_takesUp begun circulates
  refine ⟨flowing.sourced.known, ?_, flowing.sourced.once, ?_, flowing.sourced.countP_le⟩
  · intro number index other deed step listed also takes takesToo
    obtain ⟨own, one⟩ := wanted index deed number listed takes
    obtain ⟨ownToo, two⟩ := wanted other step number also takesToo
    by_contra apart
    obtain ⟨message, here, one⟩ := (Option.any_eq_true _ _).mp one
    obtain ⟨same, hereToo, two⟩ := (Option.any_eq_true _ _).mp two
    obtain rfl := Option.some.inj (here.symm.trans hereToo)
    exact absurd ((ownHandler_apart own ownToo apart one).symm.trans two) Bool.false_ne_true
  · intro k number found
    exact ⟨flowing.sourced.not_mem_of_echo found, fun index own deed next does acts =>
      unchanged_of_echo flowing own does found acts⟩

/-- The listeners of the service have begun. -/
def serving : Session := (Service.create {} Bus.standard).start.2.session

theorem begun_serving : OwnBegun {} serving := by
  intro index own
  simp only [ownListeners, List.mem_cons, List.not_mem_nil, or_false] at own
  rcases own with rfl | rfl <;> exact ⟨5000, rfl⟩

/-- An event that names nobody. -/
def request : Message := ⟨"events:friend:request", .text "\x7b\x7d"⟩

/-- The event was published. -/
def requested : Session := (serving.answer (.publish request)).2

/-- The event is taken up, and nothing follows from it. -/
theorem bounded_of_circulates_request : ∃ deed after, deed.takesUp? = some 0 ∧
    Circulates serving [none] [(0, deed)] after ∧
    ∀ number, ([none] : List (Option Nat)).count (some number) ≤ 1 := by
  have arrived : Circulates serving ([] ++ List.replicate
      (requested.world.bus.size - serving.world.bus.size) none) [] requested :=
    .outside .start (fun _ _ => rfl) (precedes_answer _ _)
  have one : requested.world.bus.size - serving.world.bus.size = 1 := by cbv
  have next : requested.world.bus.read? 0 = some (request, 1) := by cbv
  have does := @Does.read 0 requested _ _ _ rfl ⟨rfl, rfl, rfl, rfl⟩ next
  rw [one] at arrived
  have handled := arrived.did List.mem_cons_self does
  have none_sent : ∀ after : Session, after.world.bus.size = 1 →
      after.world.bus.size - requested.world.bus.size = 0 := by
    intro after size
    rw [size]
    rfl
  rw [none_sent _ (by cbv)] at handled
  exact ⟨_, _, by cbv, handled, (bounded_of_circulates begun_serving handled).2.2.1⟩

end Session

end Parley
