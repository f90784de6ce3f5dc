import PhoneKey.Proofs.Session.Calls

/-! # No request is stranded

Between two calls a session with a free slot has nothing queued. Inside a call that need not be so, so
it is not kept by single moves; it holds because whatever frees the slot goes on to serve the queue.
-/

namespace PhoneKey.Session

variable {defaultMtu : Nat} {session : Session}

/-- Nothing is queued behind a free slot. -/
def Rested (session : Session) : Prop := session.outstanding = none → session.queue.items = []

theorem forward_taken {request : Request} {rest : List Request}
    (taken : (session.forward request rest).1 = true) :
    (session.forward request rest).2.state.outstanding = some request := by
  simp only [forward, dispatch] at taken ⊢
  simp [taken]

private theorem probe_rested (empty : session.queue.items = []) : session.probe.state.Rested := by
  intro free
  rw [probe]
  split <;> exact empty

private theorem abandonGrant_rested (failure : RequestFailure) :
    (session.abandonGrant failure).state.Rested :=
  probe_rested rfl

private theorem drain_rested {requests : List Request} (waiting : session.queue.items = requests) :
    (session.drain requests).state.Rested := by
  induction requests generalizing session with
  | nil => exact fun _ => waiting
  | cons request rest ih =>
    rw [drain_cons]
    cases outcome : (session.forward request rest).1 with
    | true =>
      intro free
      cases (forward_taken outcome).symm.trans free
    | false =>
      cases request with
      | heartbeat => exact @ih (session.forward .heartbeat rest).2.state rfl
      | grant number => exact abandonGrant_rested _

private theorem serve_rested (settled : Settled defaultMtu session) : session.serve.state.Rested := by
  cases connected : session.state.isConnected with
  | false =>
    intro _
    simp only [serve, connected, Bool.and_false]
    exact (settled.vacant connected).queue
  | true =>
    cases waiting : session.outstanding with
    | none =>
      rw [serve_of_ready connected waiting]
      exact drain_rested rfl
    | some request =>
      intro free
      rw [serve_of_waiting waiting] at free
      cases waiting.symm.trans free

private theorem giveUp_rested (settled : Settled defaultMtu session) (rested : session.Rested)
    (failure : RequestFailure) : (session.giveUp failure).state.Rested := by
  rw [giveUp]
  split
  · exact rested
  · next waiting =>
    have releases : Move 0 none session _ := .releases waiting
    exact serve_rested (releases.settled settled)
  · exact abandonGrant_rested failure

private theorem messageReceived_rested (settled : Settled defaultMtu session) (rested : session.Rested)
    (message : Message) : (session.messageReceived message).state.Rested := by
  rw [messageReceived]
  split
  · next kind =>
    by_cases waiting : session.outstanding = some .heartbeat
    · have releases : Move 0 none session (.idle { session with outstanding := none }) := .releases waiting
      simp only [waiting, if_true]
      exact serve_rested (releases.settled settled)
    · simp only [waiting, if_false]
      exact serve_rested settled
  · next kind =>
    split
    · exact rested
    · next sorcId peer =>
      split
      · next response read =>
        have connected : session.state = .connected response.sorcId := by
          rw [Grant.sorcId_of_response? read]
          cases state : session.state <;> simp_all [ConnectionState.peer?]
        have answers : Move 0 (some response) session (session.settle response) := .answers rfl connected
        rw [grantAnswered_eq]
        exact serve_rested (answers.settled settled)
      · exact giveUp_rested settled rested _
  · exact rested

private theorem absorb_rested (now : Nat) (settled : Settled defaultMtu session) (rested : session.Rested)
    {lower : Turn Channel ChannelReport} (served : session.Lower lower) :
    (session.absorb now lower).state.Rested := by
  have outcome : Absorbed now session lower (session.absorb now lower) := absorbed settled served
  generalize session.absorb now lower = turn at outcome ⊢
  cases outcome with
  | nothing reports => exact rested
  | advances reports advance reached => exact rested
  | establishes reports opening reached => exact rested
  | ends reports engaged reached => exact fun _ => rfl
  | recoils reports advance engaged reached => exact fun _ => rfl
  | sent reports => exact rested
  | fails reports =>
    have passes : Move now none session (session.adopt lower) := .passes served (.inr (.inl ⟨_, reports⟩))
    exact giveUp_rested (passes.settled settled) rested _
  | hears reports =>
    have hears : Move now none session (adopt { session with lastHeard := now } lower) :=
      .hears served reports
    exact messageReceived_rested (hears.settled settled) rested _
  | mishears reports =>
    have passes : Move now none session (session.adopt lower) := .passes served (.inr (.inr ⟨_, reports⟩))
    exact giveUp_rested (passes.settled settled) rested _

private theorem requestGrant_rested (settled : Settled defaultMtu session) (rested : session.Rested)
    (grant : UInt16) : (session.requestGrant grant).2.state.Rested := by
  cases state : session.state with
  | disconnected =>
    rw [requestGrant_of_closed (by rw [state]; rfl)]
    exact rested
  | connecting sorcId stage =>
    rw [requestGrant_of_closed (by rw [state]; rfl)]
    exact rested
  | connected sorcId =>
    rw [requestGrant_of_connected state]
    cases room : session.queue.enqueue (.grant grant) with
    | ok queue =>
      have accepts : Move 0 none session _ := .accepts state room
      exact serve_rested (accepts.settled settled)
    | error cause =>
      have declines : Move 0 none session _ := .declines state room
      exact serve_rested (declines.settled settled)

private theorem heartbeat_rested (settled : Settled defaultMtu session)
    (connected : session.state.isConnected = true) : session.queueHeartbeat.serve.state.Rested := by
  have queued : Moves 0 none session (.idle session.queueHeartbeat) := queueHeartbeat_moves connected
  exact serve_rested (queued.settled settled)

private theorem tick_rested (now : Nat) (settled : Settled defaultMtu session) (rested : session.Rested) :
    (session.tick now).state.Rested := by
  cases connected : session.state.isConnected with
  | false =>
    simp only [tick, connected]
    exact rested
  | true =>
    have checks : Move now none session
      (.idle { session with checkTimer := (session.checkTimer.poll now).2 }) := .checks connected
    simp only [tick, connected, if_true]
    split
    · exact absorb_rested now (checks.settled settled) rested ⟨.close _, by simp, rfl⟩
    · split
      · exact heartbeat_rested (settled.of_connected connected rfl rfl) connected
      · exact rested

/-- After every call nothing is queued behind a free slot. -/
theorem act_rested (settled : Settled defaultMtu session) (rested : session.Rested) (input : Input) :
    (session.act input).state.Rested := by
  obtain ⟨now, action⟩ := input
  cases action with
  | connect credentials =>
    simp only [act, connect]
    split
    · exact absorb_rested now settled rested ⟨.connect credentials, by simp, rfl⟩
    · exact rested
  | disconnect => exact absorb_rested now settled rested ⟨.close .userRequested, by simp, rfl⟩
  | requestGrant grant => exact requestGrant_rested settled rested grant
  | radioEvent event => exact absorb_rested now settled rested ⟨.radioEvent event, by simp, rfl⟩
  | confirm result => exact absorb_rested now settled rested ⟨.confirm result, by simp, rfl⟩
  | receive result => exact absorb_rested now settled rested ⟨.receive result, by simp, rfl⟩
  | tick => exact tick_rested now settled rested

theorem rested_of_run (handset : Handset) (defaultMtu : Nat) (config : Config) (inputs : List Input) :
    ((fresh handset defaultMtu config).run inputs).state.Rested := by
  apply settled_run_induction (motive := fun _ session => session.Rested)
  · exact fun _ => rfl
  · intro calls session input settled rested
    exact act_rested settled rested input

end PhoneKey.Session
