import PhoneKey.Proofs.Session.Resync

/-! # How deep sends nest

A channel reports at once that it refuses a message. The session hears of it while it is still sending and
sends the next request from there, so that sending, processing reports and giving up a request call each
other. These calls are written out here as they nest, with a bound on how many sends may be under way inside
each other; a call that needs more has no result. No call of a session that inputs led to needs more than
four: three that hand a message to the channel, and the one that finds nothing left to send.
-/

namespace PhoneKey

/-- Whether an effect is that a message was handed to the channel. -/
def Effect.isAttempt : Effect → Bool
  | .attempt _ _ _ => true
  | _ => false

/-- How many messages were handed to the channel. -/
def attempts (effects : List Effect) : Nat := effects.countP Effect.isAttempt

private theorem attempts_andThen {State Report : Type} (turn : Turn State Report)
    (next : State → Turn State Report) :
    attempts (turn.andThen next).effects = attempts turn.effects + attempts (next turn.state).effects :=
  List.countP_append

private theorem attempts_of_plain {effects : List Effect}
    (plain : ∀ effect ∈ effects, effect.isPlain = true) : attempts effects = 0 := by
  refine List.countP_eq_zero.mpr fun effect member tried => ?_
  have spared := plain effect member
  cases effect with
  | attempt request state outstanding => cases spared
  | _ => cases tried

private theorem attempts_of_lower {effects : List Effect}
    (lower : ∀ effect ∈ effects, effect.isLower = true) : attempts effects = 0 :=
  attempts_of_plain fun effect member => Effect.isPlain_of_isLower (lower effect member)

namespace Turn

variable {State Report : Type}

/-- A turn and then one that may not come to its end. -/
def andThen? (turn : Turn State Report) (next : State → Option (Turn State Report)) :
    Option (Turn State Report) :=
  (next turn.state).map fun following => turn.andThen fun _ => following

private theorem andThen?_of_ends {turn : Turn State Report} {next : State → Option (Turn State Report)}
    {following : State → Turn State Report} (ends : next turn.state = some (following turn.state)) :
    turn.andThen? next = some (turn.andThen following) := by
  rw [andThen?, ends]
  rfl

private theorem andThen?_idle (turn : Turn State Report) : turn.andThen? (some <| idle ·) = some turn := by
  have whole : turn.andThen? (some <| idle ·) = some (turn.andThen idle) := andThen?_of_ends rfl
  rw [whole, andThen_idle]

end Turn

namespace Session

namespace Nested

section

variable (sendNext : Session → Option SessionTurn)

def enqueueHeartbeat (session : Session) : Option SessionTurn := sendNext session.queueHeartbeat

/-- The outstanding request failed. -/
def requestFailed (session : Session) (failure : RequestFailure) : Option SessionTurn :=
  match session.outstanding with
  | some (.grant _) => (session.surrender failure).andThen? (enqueueHeartbeat sendNext)
  | some .heartbeat => sendNext { session with outstanding := none }
  | none => some (.idle session)

def messageSent (session : Session) : Except ChannelError Message → Option SessionTurn
  | .ok _ => some (.idle session)
  | .error _ => requestFailed sendNext session .sendingFailed

def messageRead (session : Session) (message : Message) : Option SessionTurn :=
  match message.id with
  | .heartbeatResponse =>
    let outstanding := if session.outstanding = some .heartbeat then none else session.outstanding
    sendNext { session with outstanding }
  | .serviceGrantTrigger =>
    match session.state.peer? with
    | none => some (.idle session)
    | some sorcId =>
      match Grant.response? sorcId message.payload with
      | some response => (session.settle response).andThen? sendNext
      | none => requestFailed sendNext session .receivedInvalidData
  | _ => some (.idle session)

def messageReceived (now : Nat) (session : Session) :
    Except ChannelError Message → Option SessionTurn
  | .ok message => messageRead sendNext { session with lastHeard := now } message
  | .error _ => requestFailed sendNext session .receivedInvalidData

def reported (now : Nat) (session : Session) : ChannelReport → Option SessionTurn
  | .connectionChanged change => some (session.channelChanged now change)
  | .messageSent result => messageSent sendNext session result
  | .messageReceived result => messageReceived sendNext now session result

/-- Goes through the reports of the channel. The next one waits until everything that the one before leads
to is done. -/
def process (now : Nat) (session : Session) : List ChannelReport → Option SessionTurn
  | [] => some (.idle session)
  | report :: rest => (reported sendNext now session report).bind fun turn =>
      turn.andThen? (process now · rest)

/-- Takes over what the channel did. -/
def absorb (session : Session) (now : Nat) (lower : Turn Channel ChannelReport) : Option SessionTurn :=
  (session.adopt lower).andThen? (process sendNext now · lower.reports)

def requestGrant (session : Session) (grant : UInt16) : Option SessionTurn :=
  match session.state.peer? with
  | none => some (.idle session)
  | some sorcId =>
    match session.queue.enqueue (.grant grant) with
    | .ok queue => (register { session with queue } sorcId grant true
        (session.openGrants ++ [grant])).andThen? sendNext
    | .error _ => (session.register sorcId grant false session.openGrants).andThen? sendNext

def tick (session : Session) (now : Nat) : Option SessionTurn :=
  if session.state.isConnected then
    let (checkDue, checkTimer) := session.checkTimer.poll now
    let checked := { session with checkTimer }
    if checkDue && session.heartbeatTimeout ≤ now - session.lastHeard then
      absorb sendNext checked now (checked.channel.close (.protocol .heartbeatTimedOut))
    else
      let (heartbeatDue, heartbeatTimer) := checked.heartbeatTimer.poll now
      let polled := { checked with heartbeatTimer }
      if heartbeatDue then enqueueHeartbeat sendNext polled else some (.idle polled)
  else some (.idle session)

def conduct (session : Session) (input : Input) : Option SessionTurn :=
  match input.action with
  | .connect credentials =>
    if Channel.admits session.state credentials.token.sorcId then
      absorb sendNext session input.now (session.channel.connect credentials)
    else some (.idle session)
  | .disconnect => absorb sendNext session input.now (session.channel.close .userRequested)
  | .requestGrant grant => requestGrant sendNext session grant
  | .radioEvent event => absorb sendNext session input.now (session.channel.radioEvent event)
  | .confirm result => absorb sendNext session input.now (session.channel.confirm result)
  | .receive result => absorb sendNext session input.now (session.channel.receive result)
  | .tick => tick sendNext session input.now

end

/-- Hands the oldest queued request to the channel unless one is outstanding, and processes what the channel
reports at once. At most so many of these calls nest as the depth says. -/
def sendNext (now : Nat) : Nat → Session → Option SessionTurn
  | 0, _ => none
  | depth + 1, session =>
    if session.outstanding.isSome || !session.state.isConnected then some (.idle session)
    else
      match session.queue.dequeue? with
      | none => some (.idle session)
      | some (request, queue) =>
        let lower := session.channel.send request.message
        let handed : SessionTurn :=
          ⟨{ session with channel := lower.state, queue, outstanding := some request }, [],
            .attempt request session.state session.outstanding :: lower.effects⟩
        handed.andThen? (process (sendNext now depth) now · lower.reports)

/-- A call in which at most so many sends nest. -/
def act (depth : Nat) (session : Session) (input : Input) : Option SessionTurn :=
  conduct (sendNext input.now depth) session input

end Nested

/-- A call ends, with a certain turn, as soon as one more send may nest than there are messages that it hands
to the channel at most. -/
structure Within (limit : Nat) (call : Nat → Option SessionTurn) (turn : SessionTurn) : Prop where
  ends : ∀ depth, limit < depth → call depth = some turn
  attempts : attempts turn.effects ≤ limit

variable {defaultMtu now limit : Nat} {session : Session} {turn : SessionTurn} {request : Request}
  {rest : List Request}

namespace Within

theorem mono {more : Nat} {call : Nat → Option SessionTurn} (within : Within limit call turn)
    (weaker : limit ≤ more) : Within more call turn :=
  ⟨fun depth deeper => within.ends depth (by omega), within.attempts.trans weaker⟩

private theorem idle (limit : Nat) (session : Session) :
    Within limit (fun _ => some (.idle session)) (.idle session) :=
  ⟨fun _ _ => rfl, Nat.zero_le _⟩

/-- What hands nothing to the channel may come first. -/
theorem after (call : Nat → Session → Option SessionTurn) (next : Session → SessionTurn)
    (silent : PhoneKey.attempts turn.effects = 0)
    (within : Within limit (call · turn.state) (next turn.state)) :
    Within limit (fun depth => turn.andThen? (call depth)) (turn.andThen next) where
  ends depth deeper := Turn.andThen?_of_ends (within.ends depth deeper)
  attempts := by
    rw [attempts_andThen, silent, Nat.zero_add]
    exact within.attempts

end Within

/-- How many of the queued requests are handed to the channel if it refuses all of them. A grant takes those
behind it along, and a heartbeat follows. -/
def refusable : List Request → Nat
  | [] => 0
  | .heartbeat :: rest => refusable rest + 1
  | .grant _ :: _ => 2

private theorem refusable_le (requests : List Request) :
    refusable requests ≤ requests.count .heartbeat + 2 := by
  induction requests with
  | nil => simp [refusable]
  | cons request rest ih =>
    cases request with
    | heartbeat =>
      rw [refusable, List.count_cons_self]
      omega
    | grant number =>
      rw [refusable]
      omega

/-- A session that is about to send the first of its queued requests. -/
structure Ready (defaultMtu : Nat) (session : Session) (request : Request) (rest : List Request) : Prop where
  settled : Settled defaultMtu session
  connected : session.state.isConnected = true
  free : session.outstanding = none
  waiting : session.queue.items = request :: rest

private theorem Ready.serve (ready : Ready defaultMtu session request rest) :
    session.serve = session.drain (request :: rest) := by
  rw [serve_of_ready ready.connected ready.free, ready.waiting]

namespace Nested

private theorem process_singleton (next : Session → Option SessionTurn) (report : ChannelReport) :
    process next now session [report] = reported next now session report := by
  rw [process]
  cases outcome : reported next now session report with
  | none => rfl
  | some turn => exact Turn.andThen?_idle turn

private theorem sendNext_of_busy (busy : (session.outstanding.isNone && session.state.isConnected) = false)
    (depth : Nat) : sendNext now (depth + 1) session = some (.idle session) := by
  have spared : (session.outstanding.isSome || !session.state.isConnected) = true := by
    rw [← Bool.not_eq_false', Bool.not_or, Bool.not_not, Option.not_isSome, busy]
  rw [sendNext, if_pos spared]

private theorem sendNext_of_empty (empty : session.queue.items = []) (depth : Nat) :
    sendNext now (depth + 1) session = some (.idle session) := by
  rw [sendNext, Backlog.dequeue?, empty]
  exact ite_self _

/-- What a request that the channel refuses leads to. -/
def refused (next : Session → Option SessionTurn) : Request → Session → Option SessionTurn
  | .heartbeat, session => next session
  | .grant _, session => (session.surrender .sendingFailed).andThen? (enqueueHeartbeat next)

/-- The first of the queued requests is sent, or its refusal is processed on the spot. -/
theorem sendNext_cons (ready : Ready defaultMtu session request rest) (depth : Nat) :
    sendNext now (depth + 1) session =
      if (session.forward request rest).1 then some (session.forward request rest).2
      else (session.forward request rest).2.andThen? (refused (sendNext now depth) request) := by
  have linked : session.channel.state.isConnected = true := ready.settled.agrees ▸ ready.connected
  have sent : session.channel.send request.message = _ :=
    Channel.act_send_of_connected linked request.message
  have dequeued : session.queue.dequeue? = some (request, { session.queue with items := rest }) := by
    rw [Backlog.dequeue?, ready.waiting]
  have free : ¬ (session.outstanding.isSome || !session.state.isConnected) = true := by
    simp [ready.free, ready.connected]
  rw [sendNext, if_neg free, dequeued]
  cases outcome : (session.channel.offer request.message).refusal with
  | none =>
    simp only [sent, outcome, forward, dispatch, Option.isNone_none, if_true]
    exact Turn.andThen?_idle _
  | some cause =>
    simp only [sent, outcome, forward, dispatch, Option.map_some, Option.toList_some, process_singleton,
      Option.isNone_some, Bool.false_eq_true, if_false]
    cases request <;> rfl

private theorem attempts_forward (session : Session) (request : Request) (rest : List Request) :
    attempts (session.forward request rest).2.effects = 1 := by
  obtain ⟨lower, whole, below⟩ := effects_forward session request rest
  have silent : attempts lower = 0 := attempts_of_lower below
  rw [whole, attempts, List.countP_cons_of_pos rfl, ← attempts, silent]

/-- A request that the channel takes is the last one that is handed to it. -/
theorem within_taken (ready : Ready defaultMtu session request rest)
    (taken : (session.forward request rest).1 = true) :
    Within 1 (sendNext now · session) (session.forward request rest).2 where
  ends depth deeper := by
    obtain ⟨depth, rfl⟩ := Nat.exists_eq_add_one.mpr (Nat.zero_lt_of_lt deeper)
    rw [sendNext_cons ready, if_pos taken]
  attempts := (attempts_forward session request rest).le

/-- A request that the channel refuses takes one more send than what it leads to. -/
theorem within_refused (ready : Ready defaultMtu session request rest)
    (refusal : (session.forward request rest).1 = false) (next : Session → SessionTurn)
    (within : Within limit (fun depth => refused (sendNext now depth) request
      (session.forward request rest).2.state) (next (session.forward request rest).2.state)) :
    Within (limit + 1) (sendNext now · session) ((session.forward request rest).2.andThen next) where
  ends depth deeper := by
    obtain ⟨depth, rfl⟩ := Nat.exists_eq_add_one.mpr (Nat.zero_lt_of_lt deeper)
    rw [sendNext_cons ready, if_neg (by simp [refusal])]
    exact Turn.andThen?_of_ends (within.ends depth (by omega))
  attempts := by
    have later := within.attempts
    rw [attempts_andThen, attempts_forward]
    omega

private theorem attempts_surrender (failure : RequestFailure) :
    attempts (session.surrender failure).effects = 0 := by
  simp [attempts, surrender, publishGrants, tell, Turn.andThen, Effect.isAttempt]

/-- A heartbeat that is refused leaves the requests behind it. -/
theorem within_heartbeat (ready : Ready defaultMtu session .heartbeat rest)
    (within : (session.forward .heartbeat rest).1 = false →
      Within limit (sendNext now · (session.forward .heartbeat rest).2.state)
        (session.forward .heartbeat rest).2.state.serve) :
    Within (limit + 1) (sendNext now · session) session.serve := by
  rw [ready.serve, drain_cons]
  cases outcome : (session.forward .heartbeat rest).1 with
  | true => exact (within_taken ready outcome).mono (by omega)
  | false =>
    have drained : serve (session.forward .heartbeat rest).2.state =
        drain (session.forward .heartbeat rest).2.state rest :=
      serve_of_ready ready.connected (forward_refused outcome)
    have later := within outcome
    rw [drained] at later
    exact within_refused ready outcome (drain · rest) later

private theorem within_empty (empty : session.queue.items = []) :
    Within 0 (sendNext now · session) session.serve := by
  rw [serve_of_empty empty]
  refine ⟨fun depth deeper => ?_, Nat.le_refl _⟩
  obtain ⟨depth, rfl⟩ := Nat.exists_eq_add_one.mpr deeper
  exact sendNext_of_empty empty depth

/-- A sign of life is a heartbeat that is queued and sent at once. -/
theorem serve_queueHeartbeat (connected : session.state.isConnected = true)
    (free : session.outstanding = none) (empty : session.queue.items = []) :
    session.queueHeartbeat.serve = session.probe := by
  cases room : session.queue.enqueue .heartbeat with
  | error cause =>
    have full : session.queueHeartbeat = session := by simp [queueHeartbeat, free, empty, room]
    rw [full, serve_of_empty empty, probe, room]
  | ok queue =>
    have spacious := (Backlog.enqueue_eq_ok_iff.mp room).1
    have passed := @forward_queued session empty { session.queue with items := [.heartbeat] } rfl .heartbeat
    have asks : session.probe = (session.dispatch .heartbeat).2 := by rw [probe, room]
    have drains : serve { session with queue := { session.queue with items := [.heartbeat] } } =
        drain { session with queue := { session.queue with items := [.heartbeat] } } [.heartbeat] :=
      serve_of_ready connected free
    rw [queueHeartbeat_of_empty free empty (by omega), asks, drains, drain_cons, passed]
    cases (session.dispatch .heartbeat).1 with
    | true => rfl
    | false => exact Turn.andThen_idle _

/-- A sign of life that is asked for once nothing is outstanding or queued is handed over at most once. -/
theorem within_probe (settled : Settled defaultMtu session)
    (connected : session.state.isConnected = true) (free : session.outstanding = none)
    (empty : session.queue.items = []) :
    Within 1 (fun depth => enqueueHeartbeat (sendNext now depth) session) session.probe := by
  rw [← serve_queueHeartbeat connected free empty]
  cases room : session.queue.enqueue .heartbeat with
  | error cause =>
    have full : session.queueHeartbeat = session := by simp [queueHeartbeat, free, empty, room]
    simp only [enqueueHeartbeat, full]
    exact (within_empty empty).mono (Nat.zero_le _)
  | ok queue =>
    have spacious := (Backlog.enqueue_eq_ok_iff.mp room).1
    simp only [enqueueHeartbeat, queueHeartbeat_of_empty free empty (by omega)]
    exact within_heartbeat ⟨settled.of_connected connected rfl rfl, connected, free, rfl⟩
      fun _ => within_empty rfl

/-- A request that failed is given up, and a sign of life is asked for. -/
theorem within_abandonGrant (settled : Settled defaultMtu session)
    (connected : session.state.isConnected = true) (failure : RequestFailure) :
    Within 1 (fun depth => (session.surrender failure).andThen? (enqueueHeartbeat (sendNext now depth)))
      (session.abandonGrant failure) := by
  rw [abandonGrant_eq]
  have given : Settled defaultMtu (session.surrender failure).state := settled.of_connected connected rfl rfl
  exact .after (fun depth => enqueueHeartbeat (sendNext now depth)) probe (attempts_surrender failure)
    (within_probe given connected rfl rfl)

/-- Serving the queue takes no more messages than the channel can refuse. -/
theorem within_serve (settled : Settled defaultMtu session) :
    Within (refusable session.queue.items) (sendNext now · session) session.serve := by
  generalize waiting : session.queue.items = requests
  induction requests generalizing session with
  | nil => exact within_empty waiting
  | cons request rest ih =>
    cases spare : session.outstanding.isNone && session.state.isConnected with
    | false =>
      have idle : session.serve = .idle session := by rw [serve, spare]; rfl
      rw [idle]
      refine ⟨fun depth deeper => ?_, Nat.zero_le _⟩
      obtain ⟨depth, rfl⟩ := Nat.exists_eq_add_one.mpr (Nat.zero_lt_of_lt deeper)
      exact sendNext_of_busy spare depth
    | true =>
      obtain ⟨unasked, connected⟩ := (Bool.and_eq_true _ _).mp spare
      have ready : Ready defaultMtu session request rest :=
        ⟨settled, connected, by simpa using unasked, waiting⟩
      have passed := settled.forward connected request rest
      cases request with
      | heartbeat => exact within_heartbeat ready fun _ => ih passed rfl
      | grant number =>
        rw [ready.serve, drain_cons]
        cases outcome : (session.forward (.grant number) rest).1 with
        | true => exact (within_taken ready outcome).mono (by simp [refusable])
        | false =>
          exact within_refused ready outcome (abandonGrant · .sendingFailed)
            (within_abandonGrant passed connected _)

/-- At most one heartbeat is queued, so that at most two more messages are handed over. -/
theorem within_three (settled : Settled defaultMtu session) (bounded : Bounded limit session) :
    Within 3 (sendNext now · session) session.serve := by
  have few := refusable_le session.queue.items
  have single : session.queue.items.count .heartbeat ≤ 1 :=
    ((List.sublist_append_right _ _).count_le _).trans bounded.heartbeats
  exact (within_serve settled).mono (by omega)

/-- A move that hands nothing to the channel may come before the queue is served. -/
theorem within_move {answer : Option GrantResponse} (move : Move now answer session turn)
    (settled : Settled defaultMtu session) (bounded : Bounded limit session)
    (silent : attempts turn.effects = 0) :
    Within 3 (fun depth => turn.andThen? (sendNext now depth)) (turn.andThen serve) :=
  .after _ _ silent (within_three (move.settled settled) (move.bounded bounded))

private theorem within_released (settled : Settled defaultMtu session) (bounded : Bounded limit session)
    (waiting : session.outstanding = some .heartbeat) :
    Within 3 (sendNext now · { session with outstanding := none })
      (serve { session with outstanding := none }) := by
  have freed : Move now none session (.idle { session with outstanding := none }) := .releases waiting
  exact within_three (freed.settled settled) (freed.bounded bounded)

private theorem within_requestFailed (settled : Settled defaultMtu session) (bounded : Bounded limit session)
    (failure : RequestFailure) :
    Within 3 (fun depth => requestFailed (sendNext now depth) session failure) (session.giveUp failure) := by
  cases waiting : session.outstanding with
  | none =>
    simp only [requestFailed, giveUp, waiting]
    exact .idle 3 session
  | some request =>
    cases request with
    | heartbeat =>
      simp only [requestFailed, giveUp, waiting]
      exact within_released settled bounded waiting
    | grant number =>
      simp only [requestFailed, giveUp, waiting]
      have connected := connected_of_waiting settled (by simp [waiting])
      exact (within_abandonGrant settled connected failure).mono (by omega)

private theorem within_messageRead (settled : Settled defaultMtu session) (bounded : Bounded limit session)
    (message : Message) :
    Within 3 (fun depth => messageRead (sendNext now depth) session message)
      (session.messageReceived message) := by
  cases kind : message.id with
  | heartbeatResponse =>
    simp only [messageRead, Session.messageReceived, kind]
    by_cases waiting : session.outstanding = some .heartbeat
    · simp only [waiting, if_true]
      exact within_released settled bounded waiting
    · simp only [waiting, if_false]
      exact within_three settled bounded
  | serviceGrantTrigger =>
    simp only [messageRead, Session.messageReceived, kind]
    cases state : session.state with
    | connected sorcId =>
      simp only [ConnectionState.peer?]
      cases read : Grant.response? sorcId message.payload with
      | none => exact within_requestFailed settled bounded _
      | some response =>
        have connected : session.state = .connected response.sorcId := by
          rw [state, Grant.sorcId_of_response? read]
        have answers : Move now (some response) session (session.settle response) :=
          .answers rfl connected
        exact within_move answers settled bounded rfl
    | _ => exact .idle 3 session
  | _ =>
    simp only [messageRead, Session.messageReceived, kind]
    exact .idle 3 session

private theorem attempts_channelChanged (now : Nat) (session : Session) (change : SessionChange) :
    attempts (session.channelChanged now change).effects = 0 := by
  cases state : change.state with
  | disconnected =>
    simp only [channelChanged, state]
    split
    · rfl
    · exact attempts_of_plain (plain_finish session change.reason)
  | _ =>
    simp only [channelChanged, state]
    exact attempts_of_plain (plain_publish _ _ _)

/-- Changes of the connection are taken over without sending anything. -/
theorem within_changes {reports : List ChannelReport}
    (changes : ∀ report ∈ reports, ∃ change, report = .connectionChanged change) :
    Within 0 (fun depth => process (sendNext now depth) now session reports)
      (Turn.forEach (channelReported now) session reports) := by
  induction reports generalizing session with
  | nil => exact .idle 0 session
  | cons report rest ih =>
    obtain ⟨⟨change, rfl⟩, later⟩ := List.forall_mem_cons.mp changes
    exact .after (fun depth next => process (sendNext now depth) now next rest)
      (Turn.forEach (channelReported now) · rest) (attempts_channelChanged now session change) (ih later)

/-- Taking over what the channel did takes at most three messages. -/
theorem within_absorb (settled : Settled defaultMtu session) (bounded : Bounded limit session)
    {lower : Turn Channel ChannelReport} (served : session.Lower lower) :
    Within 3 (fun depth => absorb (sendNext now depth) session now lower) (session.absorb now lower) := by
  have silent : attempts (session.adopt lower).effects = 0 := attempts_of_lower (served.effects settled)
  refine .after _ (Turn.forEach (channelReported now) · lower.reports) silent ?_
  obtain ⟨_, news⟩ := settled.lower served
  generalize reports : lower.reports = told at news ⊢
  generalize session.state = before at news
  generalize lower.state.state = after at news
  cases news with
  | sent sorcId result =>
    have passes : Move now none session (session.adopt lower) := .passes served (.inr (.inl ⟨_, reports⟩))
    simp only [process_singleton, Turn.forEach_singleton]
    cases result with
    | ok message => exact .idle 3 _
    | error cause => exact within_requestFailed (passes.settled settled) (passes.bounded bounded) _
  | received sorcId result =>
    simp only [process_singleton, Turn.forEach_singleton]
    cases result with
    | ok message =>
      have hears : Move now none session (adopt { session with lastHeard := now } lower) :=
        .hears served reports
      exact within_messageRead (hears.settled settled) (hears.bounded bounded) message
    | error cause =>
      have passes : Move now none session (session.adopt lower) :=
        .passes served (.inr (.inr ⟨_, reports⟩))
      exact within_requestFailed (passes.settled settled) (passes.bounded bounded) _
  | _ => exact (within_changes (by simp)).mono (Nat.zero_le _)

private theorem within_requestGrant (settled : Settled defaultMtu session) (bounded : Bounded limit session)
    (grant : UInt16) :
    Within 3 (fun depth => requestGrant (sendNext now depth) session grant)
      (session.requestGrant grant).2 := by
  cases state : session.state with
  | connected sorcId =>
    have peer : session.state.peer? = some sorcId := by rw [state]; rfl
    rw [requestGrant_of_connected state]
    simp only [requestGrant, peer]
    cases room : session.queue.enqueue (.grant grant) with
    | ok queue =>
      have accepts : Move now none session (register { session with queue } sorcId grant true
        (session.openGrants ++ [grant])) := .accepts state room
      exact within_move accepts settled bounded rfl
    | error cause =>
      have declines : Move now none session (session.register sorcId grant false session.openGrants) :=
        .declines state room
      exact within_move declines settled bounded rfl
  | _ =>
    rw [requestGrant_of_closed (by rw [state]; rfl)]
    simp only [requestGrant, state, ConnectionState.peer?]
    exact .idle 3 session

private theorem within_tick (settled : Settled defaultMtu session) (bounded : Bounded limit session) :
    Within 3 (fun depth => tick (sendNext now depth) session now) (session.tick now) := by
  cases connected : session.state.isConnected with
  | false =>
    simp only [tick, Session.tick, connected]
    exact .idle 3 session
  | true =>
    have checks : Move now none session
      (.idle { session with checkTimer := (session.checkTimer.poll now).2 }) := .checks connected
    have beats : Move now none { session with checkTimer := (session.checkTimer.poll now).2 } _ :=
      .beats connected
    simp only [tick, Session.tick, connected, if_true]
    split
    · exact within_absorb (checks.settled settled) (checks.bounded bounded)
        ⟨.close (.protocol .heartbeatTimedOut), by simp, rfl⟩
    · split
      · have polls := (Moves.single checks).andThen
          (fun next => .idle { next with heartbeatTimer := (next.heartbeatTimer.poll now).2 }) (.single beats)
        have queues := polls.andThen (fun next => .idle next.queueHeartbeat) (queueHeartbeat_moves connected)
        exact within_three (queues.settled settled) (queues.bounded bounded)
      · exact .idle 3 _

/-- A call of a session in step ends, and it takes at most three messages. -/
theorem within_act (settled : Settled defaultMtu session) (bounded : Bounded limit session)
    (input : Input) : Within 3 (fun depth => act depth session input) (session.act input) := by
  obtain ⟨now, action⟩ := input
  cases action with
  | connect credentials =>
    simp only [act, conduct, Session.act, Session.connect]
    split
    · exact within_absorb settled bounded ⟨.connect credentials, by simp, rfl⟩
    · exact .idle 3 session
  | disconnect => exact within_absorb settled bounded ⟨.close .userRequested, by simp, rfl⟩
  | requestGrant grant => exact within_requestGrant settled bounded grant
  | radioEvent event => exact within_absorb settled bounded ⟨.radioEvent event, by simp, rfl⟩
  | confirm result => exact within_absorb settled bounded ⟨.confirm result, by simp, rfl⟩
  | receive result => exact within_absorb settled bounded ⟨.receive result, by simp, rfl⟩
  | tick => exact within_tick settled bounded

end Nested

/-- Whatever inputs led to a session, whatever it queued and whichever messages the channel refuses, the next
call ends: no more than four sends nest in it, and it hands at most three messages to the channel. -/
theorem endsQuickly_of_run (handset : Handset) (defaultMtu : Nat) (config : Config) (inputs : List Input)
    (input : Input) :
    Within 3 (fun depth => Nested.act depth ((fresh handset defaultMtu config).run inputs).state input)
      (((fresh handset defaultMtu config).run inputs).state.act input) :=
  Nested.within_act (settled_of_run handset defaultMtu config inputs)
    (bounded_of_run handset defaultMtu config inputs) input

/-- Over a busy line the heartbeat that is queued fails, then the grant behind it, then the heartbeat that
follows. -/
example (line : Line) (package : Package) (credentials : Credentials) (context : SealingContext) :
    let busy := { line with sending := some package }
    let session : Session :=
      { fresh (Channel.zeroHandset 0) 200 .standard with
        channel := .secured (Channel.zeroHandset 0) busy credentials context none
        state := .connected credentials.token.sorcId
        queue := ⟨[.heartbeat, .grant 5], 2⟩ }
    attempts session.serve.effects = 3 := rfl

end Session

end PhoneKey
