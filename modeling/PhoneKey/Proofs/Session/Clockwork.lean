import PhoneKey.Proofs.Session.Calls

/-! # The clockwork of a session

Serving requests, whatever becomes of them, touches neither the state of the connection nor what measures
time. Only what the channel reports does, and a tick.
-/

namespace PhoneKey

/-- An attempt that goes on has not come to a connection yet. -/
theorem Channel.Advance.unfinished {before after : SessionState} {reason : SessionReason}
    (advance : Advance before after reason) : after.isConnected = false := by
  cases advance <;> rfl

namespace Session

/-- The state of the connection, and what a session measures time with. -/
structure Clockwork where
  state : SessionState
  heartbeatTimer : Timer
  checkTimer : Timer
  heartbeatTimeout : Nat
  lastHeard : Nat

def clockwork (session : Session) : Clockwork where
  state := session.state
  heartbeatTimer := session.heartbeatTimer
  checkTimer := session.checkTimer
  heartbeatTimeout := session.heartbeatTimeout
  lastHeard := session.lastHeard

variable {defaultMtu now : Nat} {session : Session}

@[simp] theorem clockwork_probe (session : Session) : session.probe.state.clockwork = session.clockwork := by
  rw [probe]
  split <;> rfl

@[simp] theorem clockwork_abandonGrant (session : Session) (failure : RequestFailure) :
    (session.abandonGrant failure).state.clockwork = session.clockwork :=
  (clockwork_probe (session.surrender failure).state).trans rfl

@[simp] theorem clockwork_drain (session : Session) (requests : List Request) :
    (session.drain requests).state.clockwork = session.clockwork := by
  induction requests generalizing session with
  | nil => rfl
  | cons request rest ih =>
    rw [drain_cons]
    split
    · rfl
    · cases request with
      | heartbeat => exact (ih (session.forward .heartbeat rest).2.state).trans rfl
      | grant number =>
        exact (clockwork_abandonGrant (session.forward (.grant number) rest).2.state _).trans rfl

@[simp] theorem clockwork_serve (session : Session) : session.serve.state.clockwork = session.clockwork := by
  rw [serve]
  split
  · exact clockwork_drain session _
  · rfl

@[simp] theorem clockwork_giveUp (session : Session) (failure : RequestFailure) :
    (session.giveUp failure).state.clockwork = session.clockwork := by
  rw [giveUp]
  split
  · rfl
  · exact clockwork_serve { session with outstanding := none }
  · exact clockwork_abandonGrant session failure

@[simp] theorem clockwork_messageReceived (session : Session) (message : Message) :
    (session.messageReceived message).state.clockwork = session.clockwork := by
  rw [messageReceived]
  split
  · exact clockwork_serve { session with outstanding := _ }
  · split
    · rfl
    · split
      · exact clockwork_serve (session.settle _).state
      · exact clockwork_giveUp session _
  · rfl

@[simp] theorem clockwork_requestGrant (session : Session) (grant : UInt16) :
    (session.requestGrant grant).2.state.clockwork = session.clockwork := by
  cases state : session.state with
  | connected sorcId =>
    rw [requestGrant_of_connected state]
    cases session.queue.enqueue (.grant grant) with
    | ok queue => exact clockwork_serve (register { session with queue } sorcId grant true _).state
    | error cause => exact clockwork_serve (session.register sorcId grant false _).state
  | disconnected => rw [requestGrant_of_closed (by rw [state]; rfl)]; rfl
  | connecting sorcId stage => rw [requestGrant_of_closed (by rw [state]; rfl)]; rfl

@[simp] theorem clockwork_queueHeartbeat (session : Session) :
    session.queueHeartbeat.clockwork = session.clockwork := by
  rw [queueHeartbeat]
  split
  · rfl
  · split <;> rfl

/-- What the reports of the channel do to the clockwork of a session. -/
inductive Wound (now : Nat) (session : Session) (reports : List ChannelReport) : Clockwork → Prop
  /-- There is no connection, and nothing to measure. -/
  | closed {clockwork : Clockwork} (closed : clockwork.state.isConnected = false) :
      Wound now session reports clockwork
  | kept (unheard : ∀ message, .messageReceived (.ok message) ∉ reports) :
      Wound now session reports session.clockwork
  | heard {message : Message} (read : .messageReceived (.ok message) ∈ reports) :
      Wound now session reports { session.clockwork with lastHeard := now }
  | established {sorcId : Uuid} (opening : session.state.isConnected = false) :
      Wound now session reports
        { session.clockwork with
          state := .connected sorcId
          heartbeatTimer := session.heartbeatTimer.start now
          checkTimer := session.checkTimer.start now
          lastHeard := now }

theorem absorb_wound (settled : Settled defaultMtu session) {lower : Turn Channel ChannelReport}
    (served : session.Lower lower) :
    Wound now session lower.reports (session.absorb now lower).state.clockwork := by
  have outcome : Absorbed now session lower (session.absorb now lower) := absorbed settled served
  generalize session.absorb now lower = turn at outcome ⊢
  cases outcome with
  | nothing reports => exact .kept (by simp [reports])
  | advances reports advance reached => exact .closed advance.unfinished
  | establishes reports opening reached => exact .established (by rw [opening]; rfl)
  | ends reports engaged reached => exact .closed rfl
  | recoils reports advance engaged reached => exact .closed rfl
  | sent reports => exact .kept (by simp [reports])
  | fails reports =>
    refine (congrArg _ ?_).mpr (.kept (by simp [reports]))
    exact clockwork_giveUp (session.adopt lower).state _
  | @hears message reports =>
    have read : .messageReceived (.ok message) ∈ lower.reports := reports ▸ List.mem_singleton_self _
    refine (congrArg _ ?_).mpr (.heard read)
    exact clockwork_messageReceived (adopt { session with lastHeard := now } lower).state message
  | mishears reports =>
    refine (congrArg _ ?_).mpr (.kept (by simp [reports]))
    exact clockwork_giveUp (session.adopt lower).state _

/-- A session whose timers were asked. -/
def polled (session : Session) (now : Nat) : Session :=
  { session with
    heartbeatTimer := (session.heartbeatTimer.poll now).2
    checkTimer := (session.checkTimer.poll now).2 }

/-- Whether a session that is asked about the time holds on to its connection. -/
def HoldsOn (session : Session) (now : Nat) : Prop :=
  (session.checkTimer.poll now).1 = false ∨ now - session.lastHeard < session.heartbeatTimeout

/-- What a tick of a connected session comes down to. -/
inductive Ticked (now : Nat) (session : Session) : SessionTurn → Prop
  | givesUp (due : (session.checkTimer.poll now).1 = true)
      (silent : session.heartbeatTimeout ≤ now - session.lastHeard) :
      Ticked now session
        (close { session with checkTimer := (session.checkTimer.poll now).2 } now
          (.protocol .heartbeatTimedOut))
  | waits (held : session.HoldsOn now) (early : (session.heartbeatTimer.poll now).1 = false) :
      Ticked now session (.idle (session.polled now))
  | beats (held : session.HoldsOn now) (due : (session.heartbeatTimer.poll now).1 = true) :
      Ticked now session (session.polled now).queueHeartbeat.serve

theorem tick_ticked (connected : session.state.isConnected = true) (now : Nat) :
    Ticked now session (session.tick now) := by
  simp only [tick, connected, if_true]
  split
  · next silent =>
    obtain ⟨due, silent⟩ := (Bool.and_eq_true _ _).mp silent
    exact .givesUp due (of_decide_eq_true silent)
  · next heard =>
    have held : session.HoldsOn now := by
      rw [HoldsOn, ← Bool.not_eq_true, ← Nat.not_le]
      simpa [imp_iff_not_or] using heard
    split
    · next due => exact .beats held due
    · next early => exact .waits held (Bool.eq_false_iff.mpr early)

end Session

end PhoneKey
