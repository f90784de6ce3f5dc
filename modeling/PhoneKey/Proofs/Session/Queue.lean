import PhoneKey.Proofs.Session.Publications
import PhoneKey.Proofs.Session.Rest

/-! # Order in the queue

One request is on its way at a time. A session without a connection holds no request at all; a connected
one holds at most one heartbeat, never queues more than it has room for and gives a request to the channel
only while nothing is outstanding. Moves keep all of this, also those in the middle of a call in which the
channel refuses one request after the other.
-/

namespace PhoneKey.Session

/-- The outstanding request and those that are queued behind it. -/
def held (session : Session) : List Request := session.outstanding.toList ++ session.queue.items

/-- The requests of a session are within its limits. -/
structure Bounded (limit : Nat) (session : Session) : Prop where
  heartbeats : session.held.count .heartbeat ≤ 1
  capacity : session.queue.capacity = limit
  room : session.queue.items.length ≤ limit

variable {defaultMtu now limit : Nat} {answer : Option GrantResponse} {session : Session}
  {turn : SessionTurn}

private theorem bounded_fresh (handset : Handset) (defaultMtu : Nat) (config : Config) :
    Bounded config.maxEnqueuedMessages.toNat (fresh handset defaultMtu config) :=
  ⟨by simp [held, fresh, new, Backlog.new], rfl, by simp [fresh, new, Backlog.new]⟩

/-- Requests only go. -/
theorem Bounded.of_sublist (bounded : Bounded limit session) {next : Session}
    (same : next.queue.capacity = session.queue.capacity)
    (fewer : next.held.Sublist session.held) (shorter : next.queue.items.Sublist session.queue.items) :
    Bounded limit next where
  heartbeats := (fewer.count_le _).trans bounded.heartbeats
  capacity := same.trans bounded.capacity
  room := shorter.length_le.trans bounded.room

/-- A request that is new stands at the end of a queue that has room for it. -/
theorem Bounded.of_enqueue (bounded : Bounded limit session) {next : Session} {request : Request}
    {queue : Backlog Request} (room : session.queue.enqueue request = .ok queue)
    (single : request = .heartbeat → .heartbeat ∉ session.held)
    (outstanding : next.outstanding = session.outstanding) (queued : next.queue = queue) :
    Bounded limit next := by
  obtain ⟨free, rfl⟩ := Backlog.enqueue_eq_ok_iff.mp room
  have whole : next.held = session.held ++ [request] := by
    rw [held, held, outstanding, queued, List.append_assoc]
  refine ⟨?_, by rw [queued]; exact bounded.capacity, ?_⟩
  · rw [whole, List.count_append]
    cases request with
    | heartbeat =>
      rw [List.count_eq_zero.mpr (single rfl)]
      simp
    | grant number => simpa using bounded.heartbeats
  · rw [queued, List.length_append, List.length_singleton, ← bounded.capacity]
    omega

private theorem held_of_waiting {request : Request} {rest : List Request} (free : session.outstanding = none)
    (waiting : session.queue.items = request :: rest) : session.held = request :: rest := by
  rw [held, free, waiting]
  rfl

private theorem Bounded.of_released (bounded : Bounded limit session) {next : Session}
    (queue : next.queue = session.queue)
    (fewer : next.outstanding.toList.Sublist session.outstanding.toList) : Bounded limit next := by
  refine bounded.of_sublist (by rw [queue]) ?_ (by rw [queue])
  rw [held, held, queue]
  exact fewer.append_right _

/-- The first of the queued requests leaves the queue, whether it is taken or not. -/
theorem Bounded.of_forward (bounded : Bounded limit session) {request : Request} {rest : List Request}
    (free : session.outstanding = none) (waiting : session.queue.items = request :: rest) :
    Bounded limit (session.forward request rest).2.state := by
  have shorter : rest.Sublist session.queue.items := waiting ▸ List.sublist_cons_self _ _
  refine bounded.of_sublist rfl ?_ shorter
  rw [held_of_waiting free waiting]
  cases taken : (session.forward request rest).1 with
  | true =>
    rw [held, forward_taken taken]
    exact List.Sublist.refl _
  | false =>
    rw [held, forward_refused taken]
    exact List.sublist_cons_self _ _

private theorem Bounded.cleared (bounded : Bounded limit session) {next : Session}
    (outstanding : next.outstanding = none) (queue : next.queue = session.queue.clear) :
    Bounded limit next := by
  refine bounded.of_sublist (by rw [queue]; rfl) ?_ ?_
  · rw [held, outstanding, queue]
    exact List.nil_sublist _
  · rw [queue]
    exact List.nil_sublist _

/-- Every move keeps the requests of a session within its limits. -/
theorem Move.bounded (move : Move now answer session turn) (bounded : Bounded limit session) :
    Bounded limit turn.state := by
  cases move with
  | passes served news => exact ⟨bounded.heartbeats, bounded.capacity, bounded.room⟩
  | hears served news => exact ⟨bounded.heartbeats, bounded.capacity, bounded.room⟩
  | advances served news advance reached => exact ⟨bounded.heartbeats, bounded.capacity, bounded.room⟩
  | establishes served news opening reached => exact ⟨bounded.heartbeats, bounded.capacity, bounded.room⟩
  | ends served news engaged reached => exact bounded.cleared rfl rfl
  | recoils served news advance engaged reached => exact bounded.cleared rfl rfl
  | releases waiting => exact bounded.of_released rfl (List.nil_sublist _)
  | answers brought connected =>
    refine bounded.of_released rfl ?_
    simp only [settle, publishGrants, Turn.andThen]
    split
    · exact List.nil_sublist _
    · exact List.Sublist.refl _
  | abandons failure waiting => exact bounded.cleared rfl rfl
  | queues connected spare single room =>
    refine bounded.of_enqueue room ?_ rfl rfl
    intro _ member
    rcases List.mem_append.mp member with outstanding | queued
    · exact spare (by simpa using outstanding)
    · exact single queued
  | sends connected free waiting taken => exact bounded.of_forward free waiting
  | drops connected free waiting refused => exact bounded.of_forward free waiting
  | breaks connected free waiting refused =>
    exact (bounded.of_forward free waiting).cleared rfl rfl
  | accepts connected room => exact bounded.of_enqueue room (by simp) rfl rfl
  | declines connected full => exact ⟨bounded.heartbeats, bounded.capacity, bounded.room⟩
  | checks connected => exact ⟨bounded.heartbeats, bounded.capacity, bounded.room⟩
  | beats connected => exact ⟨bounded.heartbeats, bounded.capacity, bounded.room⟩

/-- Requests are given to the channel by a connected session with nothing outstanding only. -/
def OneByOne (effects : List Effect) : Prop :=
  ∀ request state outstanding, .attempt request state outstanding ∈ effects →
    state.isConnected = true ∧ outstanding = none

theorem OneByOne.append {first second : List Effect} (before : OneByOne first) (after : OneByOne second) :
    OneByOne (first ++ second) := by
  intro request state outstanding tried
  rcases List.mem_append.mp tried with early | late
  · exact before request state outstanding early
  · exact after request state outstanding late

private theorem oneByOne_of_lower {effects : List Effect}
    (lower : ∀ effect ∈ effects, effect.isLower = true) : OneByOne effects := by
  intro request state outstanding tried
  cases lower _ tried

private theorem oneByOne_publish (state : SessionState) (reason : SessionReason) :
    OneByOne (session.publish state reason).effects := by
  intro request before outstanding tried
  cases reason <;> simp [publish, endTelemetry] at tried

private theorem oneByOne_finish (reason : SessionReason) : OneByOne (session.finish reason).effects := by
  refine OneByOne.append ?_ (oneByOne_publish _ _)
  intro request state outstanding tried
  simp [reset, publishGrants] at tried

private theorem oneByOne_surrender (failure : RequestFailure) :
    OneByOne (session.surrender failure).effects := by
  intro request state outstanding tried
  simp [surrender, publishGrants, tell, Turn.andThen] at tried

private theorem oneByOne_forward (connected : session.state.isConnected = true)
    (free : session.outstanding = none)
    (request : Request) (rest : List Request) : OneByOne (session.forward request rest).2.effects := by
  obtain ⟨lower, whole, below⟩ := effects_forward session request rest
  rw [whole, free]
  intro other state outstanding tried
  rcases List.mem_cons.mp tried with same | later
  · cases same
    exact ⟨connected, rfl⟩
  · exact oneByOne_of_lower below other state outstanding later

/-- In every move requests are given to the channel one by one. -/
theorem Move.oneByOne (move : Move now answer session turn) (settled : Settled defaultMtu session) :
    OneByOne turn.effects := by
  cases move with
  | passes served news => exact oneByOne_of_lower (served.effects settled)
  | hears served news => exact oneByOne_of_lower (served.effects settled)
  | advances served news advance reached =>
    exact (oneByOne_of_lower (served.effects settled)).append (oneByOne_publish _ _)
  | establishes served news opening reached =>
    exact (oneByOne_of_lower (served.effects settled)).append (oneByOne_publish _ _)
  | ends served news engaged reached =>
    exact (oneByOne_of_lower (served.effects settled)).append (oneByOne_finish _)
  | recoils served news advance engaged reached =>
    exact ((oneByOne_of_lower (served.effects settled)).append (oneByOne_publish _ _)).append
      (oneByOne_finish _)
  | abandons failure waiting => exact oneByOne_surrender failure
  | sends connected free waiting taken => exact oneByOne_forward connected free _ _
  | drops connected free waiting refused => exact oneByOne_forward connected free _ _
  | breaks connected free waiting refused =>
    exact (oneByOne_forward connected free _ _).append (oneByOne_surrender _)
  | _ =>
    intro request state outstanding tried
    simp [settle, register, publishGrants, Turn.andThen, Turn.idle] at tried

theorem Moves.bounded (moves : Moves now answer session turn) (bounded : Bounded limit session) :
    Bounded limit turn.state := by
  induction moves with
  | nil session => exact bounded
  | cons first rest ih => exact ih (first.bounded bounded)

private theorem Moves.oneByOne (moves : Moves now answer session turn)
    (settled : Settled defaultMtu session) : OneByOne turn.effects := by
  induction moves with
  | nil session => exact oneByOne_of_lower (by simp [Turn.idle])
  | cons first rest ih => exact (first.oneByOne settled).append (ih (first.settled settled))

theorem bounded_of_run (handset : Handset) (defaultMtu : Nat) (config : Config) (inputs : List Input) :
    Bounded config.maxEnqueuedMessages.toNat ((fresh handset defaultMtu config).run inputs).state := by
  apply settled_run_induction
    (motive := fun _ session => Bounded config.maxEnqueuedMessages.toNat session)
  · exact bounded_fresh handset defaultMtu config
  · intro calls session input settled bounded
    exact (act_moves settled input).bounded bounded

/-- What holds of the requests of a session between two calls. -/
structure Orderly (limit : Nat) (session : Session) : Prop where
  vacant : session.state.isConnected = false → session.Vacant
  rested : session.state.isConnected = true → session.Rested
  bounded : Bounded limit session

/-- After any inputs, whatever the radio answers, the requests of the session are in order, and in every
call they were given to the channel one by one. -/
theorem orderly_of_run (handset : Handset) (defaultMtu : Nat) (config : Config) (inputs : List Input) :
    Orderly config.maxEnqueuedMessages.toNat ((fresh handset defaultMtu config).run inputs).state ∧
      ∀ call ∈ (fresh handset defaultMtu config).history inputs,
        OneByOne (call.before.act call.input).effects := by
  constructor
  · exact ⟨(settled_of_run handset defaultMtu config inputs).vacant,
      fun _ => rested_of_run handset defaultMtu config inputs,
      bounded_of_run handset defaultMtu config inputs⟩
  · intro call made
    obtain ⟨earlier, found⟩ := before_of_mem_history made
    have settled : Settled defaultMtu call.before := found ▸ settled_of_run handset defaultMtu config earlier
    exact (act_moves settled call.input).oneByOne settled

end PhoneKey.Session
