import PhoneKey.Proofs.Session.Clockwork
import PhoneKey.Proofs.Session.Failures
import PhoneKey.Proofs.Session.Queue
import PhoneKey.Proofs.Session.Telemetry

/-! # What a call makes of failures

The channel fails a session at most once in a call by itself; whatever else fails is a request that the
session gives to the channel in the same call. However many requests fail, at most one of them is a grant,
this is published once, and the session stays connected.
-/

namespace PhoneKey.Session

instance (session : Session) (now : Nat) : Decidable (session.HoldsOn now) :=
  inferInstanceAs (Decidable (_ ∨ _))

/-- What a call asks of the channel, apart from the requests that are sent. -/
def lower? (session : Session) (input : Input) : Option Channel.Input :=
  match input.action with
  | .connect credentials =>
    if Channel.admits session.state credentials.token.sorcId then some (.connect credentials) else none
  | .disconnect => some (.close .userRequested)
  | .requestGrant _ => none
  | .radioEvent event => some (.radioEvent event)
  | .confirm result => some (.confirm result)
  | .receive result => some (.receive result)
  | .tick =>
    if session.state.isConnected = true ∧ ¬ session.HoldsOn input.now then
      some (.close (.protocol .heartbeatTimedOut))
    else none

/-- What the channel reports in a call. -/
def heard (session : Session) (input : Input) : List ChannelReport :=
  ((session.lower? input).map fun lower => (session.channel.act lower).reports).getD []

/-- The failure that a report of the channel is to the session. -/
def failure? (session : Session) : ChannelReport → Option RequestFailure
  | .messageSent (.error _) => some .sendingFailed
  | .messageReceived (.error _) => some .receivedInvalidData
  | .messageReceived (.ok message) =>
    if message.id = .serviceGrantTrigger ∧
        (session.state.peer?.any fun sorcId => (Grant.response? sorcId message.payload).isNone) = true then
      some .receivedInvalidData
    else none
  | _ => none

/-- The failures that reports of the channel are, with what is outstanding when they arrive. -/
def reported (session : Session) (reports : List ChannelReport) : List Failure :=
  (reports.filterMap session.failure?).map fun cause => ⟨session.outstanding, cause⟩

/-- All failures in a call, in order: what the channel reports comes before any request is sent. -/
def failures (session : Session) (input : Input) : List Failure :=
  session.reported (session.heard input) ++ refusals (session.act input).effects

/-- How a part of a call fares, given what was outstanding: nothing fails, or the connection lasts and the
failures come to something. -/
inductive Fares (slot : Option Request) (session : Session) (turn : SessionTurn) (failed : List Failure) :
    Prop
  | well (unfailed : failed = []) (untold : failureNews turn.effects = [])
  | badly (connected : session.state.isConnected = true) (kept : turn.state.state = session.state)
      (upshot : Upshot slot (session.queuedGrants ++ accepted turn.effects) turn failed)

/-- What comes in a call before requests are given up or sent. -/
structure Preface (session : Session) (first : SessionTurn) : Prop where
  plain : ∀ effect ∈ first.effects, effect.isPlain = true
  state : first.state.state = session.state
  queued : first.state.queuedGrants = session.queuedGrants ++ accepted first.effects

variable {defaultMtu now : Nat} {answer : Option GrantResponse} {session : Session}
  {first turn : SessionTurn} {slot : Option Request} {failed : List Failure}

private theorem fares_of_plain (plain : ∀ effect ∈ turn.effects, effect.isPlain = true)
    (unfailed : failed = []) : Fares slot session turn (failed ++ refusals turn.effects) :=
  .well (by rw [unfailed, refusals_of_plain plain, List.nil_append]) (failureNews_of_plain plain)

/-- A call fares as the part of it in which requests are given up or sent. -/
theorem Preface.fares {next : Session → SessionTurn} (preface : Preface session first)
    (fares : Fares slot first.state (next first.state) (failed ++ refusals (next first.state).effects)) :
    Fares slot session (first.andThen next) (failed ++ refusals (first.andThen next).effects) := by
  have same : refusals (first.andThen next).effects = refusals (next first.state).effects :=
    refusals_append_of_plain preface.plain _
  have untold := failureNews_of_plain preface.plain
  rw [same]
  cases fares with
  | well unfailed silent => exact .well unfailed (by rw [Turn.andThen, failureNews_append, untold, silent]; rfl)
  | badly connected kept upshot =>
    refine .badly (preface.state ▸ connected) (kept.trans preface.state) ?_
    rw [Turn.andThen, accepted_append, ← List.append_assoc, ← preface.queued]
    exact upshot.andThen untold (handed_of_plain preface.plain)

/-- Serving requests leaves the connection alone. -/
theorem state_of_serving (moves : Moves now answer session turn) (settled : Settled defaultMtu session)
    (serving : Serving turn) : turn.state.state = session.state := by
  rw [← moves.shown settled, shown_of_quiet _ serving.quiet]

private theorem fares_of_serving (connected : session.state.isConnected = true)
    (moves : Moves now answer session turn) (settled : Settled defaultMtu session) (serving : Serving turn)
    (upshot : Upshot slot session.queuedGrants turn failed) : Fares slot session turn failed := by
  refine .badly connected (state_of_serving moves settled serving) ?_
  rwa [accepted_of_serving serving, List.append_nil]

private theorem fares_serve (settled : Settled defaultMtu session)
    (connected : session.state.isConnected = true)
    (room : 1 ≤ session.queue.capacity) : Fares slot session session.serve (refusals session.serve.effects) := by
  have moves : Moves 0 none session session.serve := serve_moves
  exact fares_of_serving connected moves settled (serving_serve session) ((upshot_serve room).of_free slot)

private theorem fares_giveUp (settled : Settled defaultMtu session)
    (connected : session.state.isConnected = true)
    (room : 1 ≤ session.queue.capacity) (cause : RequestFailure) :
    Fares session.outstanding session (session.giveUp cause)
      ([⟨session.outstanding, cause⟩] ++ refusals (session.giveUp cause).effects) := by
  have moves : Moves 0 none session (session.giveUp cause) := giveUp_moves settled cause
  exact fares_of_serving connected moves settled (serving_giveUp session cause) (upshot_giveUp room cause)

/-- The queue is served after what came before. -/
theorem Preface.serve (preface : Preface session first) (settled : Settled defaultMtu first.state)
    (connected : session.state.isConnected = true) (room : 1 ≤ first.state.queue.capacity) :
    Fares slot session (first.andThen serve) (refusals (first.andThen serve).effects) := by
  have served := @fares_serve defaultMtu first.state slot settled (preface.state ▸ connected) room
  exact @Preface.fares session first slot [] Session.serve preface served

private theorem preface_idle {next : Session} (state : next.state = session.state)
    (queued : next.queuedGrants = session.queuedGrants) : Preface session (.idle next) where
  plain := by simp [Turn.idle]
  state := state
  queued := queued.trans (List.append_nil _).symm

/-- A message that can be read is a failure if it should have answered a grant and does not. -/
theorem fares_messageReceived (settled : Settled defaultMtu session)
    (connected : session.state.isConnected = true) (room : 1 ≤ session.queue.capacity) (message : Message) :
    Fares session.outstanding session (session.messageReceived message)
      (session.reported [.messageReceived (.ok message)] ++
        refusals (session.messageReceived message).effects) := by
  obtain ⟨sorcId, state⟩ := exists_connected connected
  have peer : session.state.peer? = some sorcId := by rw [state]; rfl
  rw [messageReceived]
  split
  · next kind =>
    have unfailed : session.reported [.messageReceived (.ok message)] = [] := by
      simp [reported, failure?, kind]
    have preface : Preface session (.idle { session with
        outstanding := if session.outstanding = some .heartbeat then none else session.outstanding }) :=
      preface_idle rfl rfl
    rw [unfailed]
    exact preface.serve (settled.of_connected connected rfl rfl) connected room
  · next kind =>
    simp only [peer]
    cases read : Grant.response? sorcId message.payload with
    | none =>
      have failed : session.reported [.messageReceived (.ok message)] =
          [⟨session.outstanding, .receivedInvalidData⟩] := by
        simp [reported, failure?, kind, peer, read]
      rw [failed]
      exact fares_giveUp settled connected room _
    | some response =>
      have unfailed : session.reported [.messageReceived (.ok message)] = [] := by
        simp [reported, failure?, kind, peer, read]
      have answers : Move 0 (some response) session (session.settle response) :=
        .answers rfl (by rw [state, Grant.sorcId_of_response? read])
      have preface : Preface session (session.settle response) :=
        ⟨by simp [settle, publishGrants, Turn.andThen, Effect.isPlain], rfl, (List.append_nil _).symm⟩
      simp only [unfailed, grantAnswered_eq]
      exact preface.serve (answers.settled settled) connected room
  · next other unasked =>
    have unfailed : session.reported [.messageReceived (.ok message)] = [] := by
      have other : message.id ≠ .serviceGrantTrigger := unasked
      simp [reported, failure?, other]
    exact fares_of_plain (by simp [Turn.idle]) unfailed

private theorem accepted_of_lower {effects : List Effect}
    (lower : ∀ effect ∈ effects, effect.isLower = true) : accepted effects = [] := by
  refine List.filterMap_eq_nil_iff.mpr fun effect member => ?_
  have below := lower effect member
  unfold Effect.accepted?
  split
  · cases below
  · rfl

/-- What the channel did changes neither the requests nor, without news of it, the connection. -/
theorem preface_adopt (settled : Settled defaultMtu session) {lower : Turn Channel ChannelReport}
    (served : session.Lower lower) (lastHeard : Nat) :
    Preface session (adopt { session with lastHeard } lower) := by
  have below := served.effects settled
  refine ⟨fun effect member => Effect.isPlain_of_isLower (below effect member), rfl, ?_⟩
  have unasked : accepted (adopt { session with lastHeard } lower).effects = [] := accepted_of_lower below
  rw [unasked, List.append_nil]
  rfl

theorem plain_publish (session : Session) (state : SessionState) (reason : SessionReason) :
    ∀ effect ∈ (session.publish state reason).effects, effect.isPlain = true := fun effect member =>
  Effect.isPlain_of_isConnection (isConnection_publish session state reason effect member)

theorem plain_finish (session : Session) (reason : SessionReason) :
    ∀ effect ∈ (session.finish reason).effects, effect.isPlain = true :=
  List.forall_mem_append.mpr ⟨by simp [reset, publishGrants, Effect.isPlain], plain_publish _ _ _⟩

private theorem connected_of_message {before after : SessionState} {report : ChannelReport}
    (news : Channel.News before after [report]) (other : ∀ change, report ≠ .connectionChanged change) :
    before.isConnected = true := by
  cases news with
  | advances advance => exact absurd rfl (other _)
  | establishes sorcId => exact absurd rfl (other _)
  | ends engaged cause => exact absurd rfl (other _)
  | sent sorcId result => rfl
  | received sorcId result => rfl

/-- A report of a failure gives up what is outstanding. -/
theorem fares_of_failure (settled : Settled defaultMtu session) (room : 1 ≤ session.queue.capacity)
    {lower : Turn Channel ChannelReport} (served : session.Lower lower) {report : ChannelReport}
    {cause : RequestFailure} (reports : lower.reports = [report])
    (fails : session.failure? report = some cause) (passes : Move now answer session (session.adopt lower)) :
    Fares session.outstanding session ((session.adopt lower).andThen (giveUp · cause))
      (session.reported lower.reports ++
        refusals ((session.adopt lower).andThen (giveUp · cause)).effects) := by
  obtain ⟨-, news⟩ := settled.lower served
  have connected := connected_of_message (reports ▸ news) fun change same => by
    rw [same] at fails
    cases fails
  have failed : session.reported lower.reports = [⟨session.outstanding, cause⟩] := by
    rw [reported, reports, List.filterMap_cons_some fails]
    rfl
  rw [failed]
  exact (preface_adopt settled served session.lastHeard).fares
    (fares_giveUp (passes.settled settled) connected room cause)

/-- What the channel does by itself fails the session at most once; then the next requests may fail. -/
theorem fares_absorb (now : Nat) (settled : Settled defaultMtu session) (room : 1 ≤ session.queue.capacity)
    {lower : Turn Channel ChannelReport} (served : session.Lower lower) :
    Fares session.outstanding session (session.absorb now lower)
      (session.reported lower.reports ++ refusals (session.absorb now lower).effects) := by
  have outcome : Absorbed now session lower (session.absorb now lower) := absorbed settled served
  have plain : ∀ effect ∈ lower.effects, effect.isPlain = true := fun effect member =>
    Effect.isPlain_of_isLower (served.effects settled effect member)
  obtain ⟨-, news⟩ := settled.lower served
  generalize session.absorb now lower = turn at outcome ⊢
  cases outcome with
  | nothing reports => exact fares_of_plain plain (by rw [reports]; rfl)
  | sent reports => exact fares_of_plain plain (by rw [reports]; rfl)
  | advances reports advance reached =>
    exact fares_of_plain (List.forall_mem_append.mpr ⟨plain, plain_publish _ _ _⟩) (by rw [reports]; rfl)
  | establishes reports opening reached =>
    exact fares_of_plain (List.forall_mem_append.mpr ⟨plain, plain_publish _ _ _⟩) (by rw [reports]; rfl)
  | ends reports engaged reached =>
    exact fares_of_plain (List.forall_mem_append.mpr ⟨plain, plain_finish _ _⟩) (by rw [reports]; rfl)
  | @recoils state reason sorcId failure reports advance engaged reached =>
    have entered := List.forall_mem_append.mpr
      ⟨plain, plain_publish (session.adopt lower).state state reason⟩
    exact fares_of_plain (List.forall_mem_append.mpr ⟨entered, plain_finish _ _⟩) (by rw [reports]; rfl)
  | fails reports =>
    have passes : Move now none session (session.adopt lower) := .passes served (.inr (.inl ⟨_, reports⟩))
    exact fares_of_failure settled room served reports rfl passes
  | mishears reports =>
    have passes : Move now none session (session.adopt lower) := .passes served (.inr (.inr ⟨_, reports⟩))
    exact fares_of_failure settled room served reports rfl passes
  | @hears message reports =>
    have connected := connected_of_message (reports ▸ news) (by simp)
    have hears : Move now none session (adopt { session with lastHeard := now } lower) :=
      .hears served reports
    rw [reports]
    exact (preface_adopt settled served now).fares
      (fares_messageReceived (hears.settled settled) connected room message)

/-- A request for a grant is published before the queue is served. -/
theorem fares_requestGrant (settled : Settled defaultMtu session) (room : 1 ≤ session.queue.capacity)
    (grant : UInt16) :
    Fares session.outstanding session (session.requestGrant grant).2
      (refusals (session.requestGrant grant).2.effects) := by
  cases connected : session.state.isConnected with
  | false =>
    rw [requestGrant_of_closed connected]
    exact .well rfl rfl
  | true =>
    obtain ⟨sorcId, state⟩ := exists_connected connected
    rw [requestGrant_of_connected state]
    cases queued : session.queue.enqueue (.grant grant) with
    | ok queue =>
      have accepts : Move 0 none session
          (register { session with queue } sorcId grant true (session.openGrants ++ [grant])) :=
        .accepts state queued
      have preface : Preface session
          (register { session with queue } sorcId grant true (session.openGrants ++ [grant])) :=
        ⟨by simp [register, publishGrants, Turn.andThen, Effect.isPlain], rfl, queuedGrants_of_enqueue queued⟩
      obtain ⟨_, rfl⟩ := Backlog.enqueue_eq_ok_iff.mp queued
      exact preface.serve (accepts.settled settled) connected room
    | error cause =>
      have declines : Move 0 none session (session.register sorcId grant false session.openGrants) :=
        .declines state queued
      have preface : Preface session (session.register sorcId grant false session.openGrants) :=
        ⟨by simp [register, publishGrants, Turn.andThen, Effect.isPlain], rfl, (List.append_nil _).symm⟩
      exact preface.serve (declines.settled settled) connected room

private theorem queueHeartbeat_kept (session : Session) :
    session.queueHeartbeat.state = session.state ∧
      session.queueHeartbeat.queuedGrants = session.queuedGrants ∧
      session.queueHeartbeat.queue.capacity = session.queue.capacity := by
  rw [queueHeartbeat]
  split
  · exact ⟨rfl, rfl, rfl⟩
  · cases queued : session.queue.enqueue .heartbeat with
    | error cause => exact ⟨rfl, rfl, rfl⟩
    | ok queue =>
      have grants := queuedGrants_of_enqueue queued
      obtain ⟨_, rfl⟩ := Backlog.enqueue_eq_ok_iff.mp queued
      exact ⟨rfl, grants.trans (List.append_nil _), rfl⟩

private theorem fares_tick (settled : Settled defaultMtu session) (room : 1 ≤ session.queue.capacity)
    (now : Nat) : Fares session.outstanding session (session.tick now)
      (session.reported (session.heard ⟨now, .tick⟩) ++ refusals (session.tick now).effects) := by
  cases connected : session.state.isConnected with
  | false =>
    have same : session.tick now = .idle session := by simp [tick, connected]
    have unheard : session.heard ⟨now, .tick⟩ = [] := by simp [heard, lower?, connected]
    rw [same, unheard]
    exact .well rfl rfl
  | true =>
    have outcome : Ticked now session (session.tick now) := tick_ticked connected now
    generalize session.tick now = turn at outcome ⊢
    cases outcome with
    | givesUp due silent =>
      have checked : Settled defaultMtu { session with checkTimer := (session.checkTimer.poll now).2 } :=
        settled.of_connected connected rfl rfl
      have expired : ¬ session.HoldsOn now := by simpa [HoldsOn, due] using silent
      have heard : session.heard ⟨now, .tick⟩ =
          (session.channel.close (.protocol .heartbeatTimedOut)).reports := by
        simp only [heard, lower?, connected, expired, not_false_eq_true, and_self, if_true, Option.map_some,
          Option.getD_some]
        rfl
      rw [heard]
      -- The timer that was asked concerns neither the requests nor the connection.
      have fares := fares_absorb now checked room ⟨.close (.protocol .heartbeatTimedOut), by simp, rfl⟩
      cases fares with
      | well unfailed untold => exact .well unfailed untold
      | badly connected kept upshot => exact .badly connected kept upshot
    | waits held early =>
      have unheard : session.heard ⟨now, .tick⟩ = [] := by simp [heard, lower?, held]
      rw [unheard]
      exact .well rfl rfl
    | beats held due =>
      have unheard : session.heard ⟨now, .tick⟩ = [] := by simp [heard, lower?, held]
      have polled : Settled defaultMtu (session.polled now) := settled.of_connected connected rfl rfl
      have queued : Moves now none (session.polled now) (.idle (session.polled now).queueHeartbeat) :=
        queueHeartbeat_moves connected
      obtain ⟨state, grants, capacity⟩ := queueHeartbeat_kept (session.polled now)
      have preface : Preface session (.idle (session.polled now).queueHeartbeat) := preface_idle state grants
      rw [unheard]
      exact preface.serve (queued.settled polled) connected (capacity ▸ room)

/-- Every call fares in one of two ways. -/
theorem fares_act (settled : Settled defaultMtu session) (room : 1 ≤ session.queue.capacity) (input : Input) :
    Fares session.outstanding session (session.act input) (session.failures input) := by
  obtain ⟨now, action⟩ := input
  cases action with
  | connect credentials =>
    simp only [failures, heard, lower?, act, connect]
    split
    · exact fares_absorb now settled room ⟨.connect credentials, by simp, rfl⟩
    · exact .well rfl rfl
  | disconnect => exact fares_absorb now settled room ⟨.close .userRequested, by simp, rfl⟩
  | requestGrant grant => exact fares_requestGrant settled room grant
  | radioEvent event => exact fares_absorb now settled room ⟨.radioEvent event, by simp, rfl⟩
  | confirm result => exact fares_absorb now settled room ⟨.confirm result, by simp, rfl⟩
  | receive result => exact fares_absorb now settled room ⟨.receive result, by simp, rfl⟩
  | tick => exact fares_tick settled room now

/-- What becomes of the requests of a session in a call in which something fails. -/
structure Resyncs (session : Session) (input : Input) : Prop where
  /-- The connection lasts. -/
  connected : session.failures input ≠ [] →
    session.state.isConnected = true ∧ (session.act input).state.state = session.state
  /-- Each failure is published for itself, if it is a grant's and else not. -/
  published : failureNews (session.act input).effects = (session.failures input).filterMap Failure.news?
  /-- Only one grant fails. It takes the others with it, and a heartbeat follows. -/
  restarts : ∀ earlier grant cause later,
    session.failures input = earlier ++ ⟨some (.grant grant), cause⟩ :: later →
      (∀ failure ∈ earlier ++ later, failure.grant? = none) ∧ Restart (session.act input) cause later
  /-- A grant that fails was outstanding, or it was the next in the queue and the only one sent. -/
  source : ∀ earlier grant cause later,
    session.failures input = earlier ++ ⟨some (.grant grant), cause⟩ :: later →
      earlier = [] ∧ session.outstanding = some (.grant grant) ∨
        handed (session.act input).effects = [grant] ∧
          ∃ rest, session.queuedGrants ++ accepted (session.act input).effects = grant :: rest
  /-- Unless a grant fails, every grant that waited is handed on or waits still. -/
  spares : session.failures input ≠ [] → (∀ failure ∈ session.failures input, failure.grant? = none) →
    session.queuedGrants ++ accepted (session.act input).effects =
      handed (session.act input).effects ++ (session.act input).state.queuedGrants

private theorem news_of_others {failures : List Failure}
    (others : ∀ failure ∈ failures, failure.grant? = none) : failures.filterMap Failure.news? = [] := by
  refine List.filterMap_eq_nil_iff.mpr fun failure member => ?_
  rw [Failure.news?, others failure member]
  rfl

private theorem Fares.resyncs {input : Input}
    (fares : Fares session.outstanding session (session.act input) (session.failures input)) :
    Resyncs session input := by
  generalize failed : session.failures input = failures at fares
  cases fares with
  | well unfailed untold =>
    subst unfailed
    constructor <;> simp [failed, untold]
  | badly connected kept upshot =>
    cases upshot with
    | spares untold others waiting =>
      have spared : ∀ earlier grant cause later,
          session.failures input ≠ earlier ++ ⟨some (.grant grant), cause⟩ :: later := by
        intro earlier grant cause later split
        have other := others ⟨some (.grant grant), cause⟩ (by simp [← failed, split])
        cases other
      constructor
      case connected => exact fun _ => ⟨connected, kept⟩
      case published => rw [untold, failed, news_of_others others]
      case restarts => exact fun _ _ _ _ split => absurd split (spared _ _ _ _)
      case source => exact fun _ _ _ _ split => absurd split (spared _ _ _ _)
      case spares => exact fun _ _ => waiting
    | @restarts before after only reason whole others restart source =>
      -- No other failure in the call is a grant's, so there is one way to split the list at such a failure.
      have unique : ∀ earlier grant cause later,
          session.failures input = earlier ++ ⟨some (.grant grant), cause⟩ :: later →
            before = earlier ∧ (⟨some (.grant only), reason⟩ : Failure) = ⟨some (.grant grant), cause⟩ ∧
              after = later := by
        intro earlier grant cause later split
        refine (List.append_cons_inj_of_notMem ?_ ?_).mp (whole.symm.trans (failed.symm.trans split))
        · exact fun member => by cases others _ member
        · exact fun member => by cases restart.resynced.others _ member
      constructor
      case connected => exact fun _ => ⟨connected, kept⟩
      case published =>
        have told : Failure.news? ⟨some (.grant only), reason⟩ = some ⟨[], .failed reason⟩ := rfl
        rw [restart.told, failed, whole, List.filterMap_append, news_of_others others,
          List.filterMap_cons_some told, news_of_others restart.resynced.others]
        rfl
      case restarts =>
        intro earlier grant cause later split
        obtain ⟨rfl, same, rfl⟩ := unique _ _ _ _ split
        cases same
        exact ⟨List.forall_mem_append.mpr ⟨others, restart.resynced.others⟩, restart⟩
      case source =>
        intro earlier grant cause later split
        obtain ⟨rfl, same, rfl⟩ := unique _ _ _ _ split
        cases same
        exact source
      case spares =>
        intro _ spared
        cases spared ⟨some (.grant only), reason⟩ (by simp [failed, whole])

/-- Whatever fails in a call of a session whose queue holds something, at most one grant is given up for it,
the others only together with that one, and the session asks for a sign of life over the connection that it
has. -/
theorem resyncs_of_run (handset : Handset) (defaultMtu : Nat) (config : Config) (inputs : List Input)
    (room : 1 ≤ config.maxEnqueuedMessages.toNat) (input : Input) :
    Resyncs ((fresh handset defaultMtu config).run inputs).state input := by
  have bounded := bounded_of_run handset defaultMtu config inputs
  exact (fares_act (settled_of_run handset defaultMtu config inputs) (bounded.capacity ▸ room) input).resyncs

/-- A heartbeat was sent to a peer that draws zeros, and two grants wait behind it. -/
def waitingInputs : List Input :=
  strayInputs.take 7 ++ [⟨2000, .confirm (.ok ())⟩, ⟨2000, .requestGrant 5⟩, ⟨2000, .requestGrant 6⟩]

/-- Something unreadable arrives, and the radio takes no more writes: the heartbeat fails, then the first of
the grants, then the heartbeat that follows it. -/
theorem resyncs_waiting :
    let session := ((fresh (Channel.zeroHandset 4) 200 .standard).run waitingInputs).state
    let input : Input := ⟨2100, .receive (.ok [])⟩
    1 ≤ Config.standard.maxEnqueuedMessages.toNat ∧
      session.failures input = [⟨some .heartbeat, .receivedInvalidData⟩,
        ⟨some (.grant 5), .sendingFailed⟩, ⟨some .heartbeat, .sendingFailed⟩] ∧
      Resyncs session input := by
  intro session input
  have room : 1 ≤ Config.standard.maxEnqueuedMessages.toNat := by decide
  exact ⟨room, by decide +kernel, resyncs_of_run _ _ _ waitingInputs room input⟩

end PhoneKey.Session
