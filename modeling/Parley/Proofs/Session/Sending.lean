import Parley.Proofs.Session.Flows

/-!
# What flows publish

Whatever it is answered, a flow publishes at most so many messages, all of them of one kind. What is
left of a flow that has published some of them may publish the others only.
-/

namespace Parley

variable {α β : Type} {good : Message → Prop} {n k : Nat}

namespace Flow

/-- Whatever it is answered, the flow publishes at most so many messages, all of one kind. -/
def Sends (good : Message → Prop) : Flow α → Nat → Prop
  | .done _, _ => True
  | .ask request next, n =>
    match request.message? with
    | none => ∀ answer, Sends good (next answer) n
    | some message => good message ∧ 0 < n ∧ ∀ answer, Sends good (next answer) (n - 1)

theorem Sends.mono {flow : Flow α} (sends : Sends good flow n) (more : n ≤ k) :
    Sends good flow k := by
  induction flow generalizing n k with
  | done value => trivial
  | ask request next ih =>
    rw [Sends] at sends ⊢
    cases found : request.message? with
    | none =>
      rw [found] at sends
      exact fun answer => ih answer (sends answer) more
    | some message =>
      rw [found] at sends
      obtain ⟨here, left, later⟩ := sends
      exact ⟨here, Nat.lt_of_lt_of_le left more,
        fun answer => ih answer (later answer) (Nat.sub_le_sub_right more 1)⟩

theorem Sends.bind {flow : Flow α} {next : α → Flow β} (first : Sends good flow n)
    (second : ∀ a, Sends good (next a) k) : Sends good (Course.bind flow next) (n + k) := by
  induction flow generalizing n with
  | done value => exact (second value).mono (Nat.le_add_left k n)
  | ask request rest ih =>
    rw [Sends] at first
    rw [Course.bind, Sends]
    cases found : request.message? with
    | none =>
      rw [found] at first
      exact fun answer => ih answer (first answer)
    | some message =>
      rw [found] at first
      obtain ⟨here, left, later⟩ := first
      refine ⟨here, Nat.add_pos_left left k, fun answer => ?_⟩
      rw [Nat.sub_add_comm left]
      exact ih answer (later answer)

theorem Sends.of_asks {flow : Flow α} (quiet : Course.Asks (·.message? = none) flow) :
    Sends good flow 0 := by
  induction flow with
  | done value => trivial
  | ask request rest ih =>
    rw [Sends, quiet.1]
    exact fun answer => ih answer (quiet.2 answer)

end Flow

/-- The world after an announcement. -/
def World.announced (world : World) (a : Announcement) : World :=
  { world with bus := world.bus.publish ⟨a.topic, a.payload.toBody⟩ }

namespace Action

/-- Whatever it is answered, the action publishes at most so many messages, all of one kind. -/
def Sends (good : Message → Prop) (action : Action α) (n : Nat) : Prop :=
  Flow.Sends good action.run n

theorem Sends.bind {action : Action α} {next : α → Action β} (first : action.Sends good n)
    (second : ∀ a, (next a).Sends good k) : (action >>= next).Sends good (n + k) := by
  refine Flow.Sends.bind first fun result => ?_
  cases result with
  | ok a => exact second a
  | error e => trivial

theorem Sends.of_asks {action : Action α} (quiet : action.Asks (·.message? = none)) :
    action.Sends good n :=
  (Flow.Sends.of_asks quiet).mono (Nat.zero_le n)

/-- What is announced is published, or nothing is. -/
theorem sends_announce {a : Announcement} (kind : good ⟨a.topic, a.payload.toBody⟩) :
    (announce a).Sends good 1 := by
  have published : (Action.publish ⟨a.topic, a.payload.toBody⟩).Sends good 1 :=
    ⟨kind, Nat.one_pos, fun answer => by cases answer <;> trivial⟩
  refine Flow.Sends.bind (k := 0) published fun result => ?_
  match result with
  | .ok _ | .error .aborted | .error (.refused _) => trivial

end Action

/-- What of the messages that a flow may publish was published, and what may follow. -/
theorem Session.Goes.sends {flow rest : Flow α} {session after : Session}
    (goes : Goes flow session rest after) (sends : Flow.Sends good flow n) :
    ∃ sent, after.world.bus.messages.toList = session.world.bus.messages.toList ++ sent ∧
      (∀ message ∈ sent, good message) ∧ sent.length ≤ n ∧
      Flow.Sends good rest (n - sent.length) := by
  induction goes generalizing n with
  | stays flow session => exact ⟨[], (List.append_nil _).symm, List.forall_mem_nil _, Nat.zero_le n, sends⟩
  | paused goes ih => exact ih (sends ())
  | @answered request next session after rest goes ih =>
    rw [Flow.Sends] at sends
    have bus := request.bus_perform session.world
    cases found : request.message? with
    | none =>
      rw [found] at sends bus
      have same : (session.answer request).2.world.bus = session.world.bus := by
        rcases (session.answer_cases request).2.2 with ⟨-, performed⟩ | ⟨refused, -⟩
        · rw [performed]
          exact bus
        · rw [refused]
      obtain ⟨sent, published, kind, few, later⟩ := ih (sends _)
      exact ⟨sent, same ▸ published, kind, few, later⟩
    | some message =>
      rw [found] at sends bus
      obtain ⟨here, left, later⟩ := sends
      obtain ⟨sent, published, kind, few, after⟩ := ih (later _)
      rcases (session.answer_cases request).2.2 with ⟨-, performed⟩ | ⟨refused, -⟩
      · refine ⟨message :: sent, ?_, List.forall_mem_cons.mpr ⟨here, kind⟩, ?_, ?_⟩
        · rw [published, performed, bus]
          simp [Bus.publish]
        · rw [List.length_cons]
          omega
        · rw [List.length_cons]
          exact after.mono (by omega)
      · rw [refused] at published
        exact ⟨sent, published, kind, by omega, after.mono (by omega)⟩

end Parley
