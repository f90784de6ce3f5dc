import PhoneKey.Proofs.Session.Grants
import PhoneKey.Proofs.Timer

/-! # A session after its connection has ended

Whatever happened before, a session without a connection is a fresh one over the same handset, but for
the time at which it last heard something. It looks at that time only while it is connected, and sets it
when it connects, so that nothing of one connection shows in the next.
-/

namespace PhoneKey

namespace Session

variable {defaultMtu now : Nat} {answer : Option GrantResponse} {config : Config}
  {session other : Session} {turn : SessionTurn}

/-- What a session keeps of the configuration that it was built with. -/
structure Configured (config : Config) (session : Session) : Prop where
  capacity : session.queue.capacity = config.maxEnqueuedMessages.toNat
  heartbeatInterval : session.heartbeatTimer.interval = config.heartbeatInterval.toNat
  checkInterval : session.checkTimer.interval = config.heartbeatTimeout.toNat
  heartbeatTimeout : session.heartbeatTimeout = config.heartbeatTimeout.toNat

/-- No move changes the configuration. -/
theorem Move.configured (move : Move now answer session turn) (configured : Configured config session) :
    Configured config turn.state := by
  cases move with
  | queues connected spare single room =>
    obtain ⟨_, rfl⟩ := Backlog.enqueue_eq_ok_iff.mp room
    exact { configured with }
  | accepts connected room =>
    obtain ⟨_, rfl⟩ := Backlog.enqueue_eq_ok_iff.mp room
    exact { configured with }
  | checks connected =>
    exact { configured with checkInterval := (Timer.interval_poll _ _).trans configured.checkInterval }
  | beats connected =>
    exact { configured with
      heartbeatInterval := (Timer.interval_poll _ _).trans configured.heartbeatInterval }
  | _ => exact { configured with }

theorem Moves.configured (moves : Moves now answer session turn) (configured : Configured config session) :
    Configured config turn.state := by
  induction moves with
  | nil session => exact configured
  | cons first rest ih => exact ih (first.configured configured)

theorem configured_of_run (handset : Handset) (defaultMtu : Nat) (config : Config) (inputs : List Input) :
    Configured config ((fresh handset defaultMtu config).run inputs).state := by
  apply settled_run_induction (motive := fun _ session => Configured config session)
  · exact ⟨rfl, rfl, rfl, rfl⟩
  · intro calls session input settled configured
    exact (act_moves settled input).configured configured

/-- A session without a connection is a fresh one, but for when it last heard something. -/
theorem fresh_of_disconnected (settled : Settled defaultMtu session) (configured : Configured config session)
    (ended : session.state = .disconnected) :
    session = { fresh session.channel.link.handset defaultMtu config with lastHeard := session.lastHeard } := by
  obtain ⟨lawful, agrees, vacant⟩ := settled
  obtain ⟨outstanding, queue, openGrants, heartbeats, checks⟩ := vacant (by rw [ended]; rfl)
  obtain ⟨capacity, heartbeatInterval, checkInterval, timeout⟩ := configured
  obtain ⟨channel, state, grants, ⟨items, limit⟩, waiting, ⟨beat, next⟩, ⟨check, due⟩, silence, heard⟩ := session
  dsimp only at *
  subst outstanding queue openGrants heartbeats checks capacity heartbeatInterval checkInterval timeout ended
  cases lawful with
  | atRest handset => rfl
  | _ => cases agrees

/-- Two sessions that differ at most in when they last heard something, and not even then while they are
connected. -/
structure Alike (session other : Session) : Prop where
  same : other = { session with lastHeard := other.lastHeard }
  heard : session.state.isConnected = true → other.lastHeard = session.lastHeard

/-- Two turns that do the same and lead to sessions that are alike. -/
structure AlikeTurns (turn other : SessionTurn) : Prop where
  effects : turn.effects = other.effects
  state : Alike turn.state other.state

theorem Alike.refl (session : Session) : Alike session session := ⟨rfl, fun _ => rfl⟩

private theorem Alike.eq_of_connected (alike : Alike session other)
    (connected : session.state.isConnected = true) : other = session := by
  rw [alike.same, alike.heard connected]

theorem AlikeTurns.refl (turn : SessionTurn) : AlikeTurns turn turn := ⟨rfl, .refl turn.state⟩

theorem AlikeTurns.andThen {others : SessionTurn} {next following : Session → SessionTurn}
    (first : AlikeTurns turn others)
    (second : AlikeTurns (next turn.state) (following others.state)) :
    AlikeTurns (turn.andThen next) (others.andThen following) where
  effects := congrArg₂ (· ++ ·) first.effects second.effects
  state := second.state

private theorem alike_channelChanged (alike : Alike session other) (now : Nat) (change : SessionChange) :
    AlikeTurns (session.channelChanged now change) (other.channelChanged now change) := by
  obtain ⟨same, heard⟩ := alike
  generalize other.lastHeard = time at same heard
  subst same
  obtain ⟨state, reason⟩ := change
  cases state with
  | connecting sorcId stage =>
    refine ⟨rfl, rfl, ?_⟩
    intro connected
    cases connected
  | connected sorcId => exact .refl _
  | disconnected =>
    simp only [channelChanged]
    split
    · exact ⟨rfl, rfl, heard⟩
    · refine ⟨rfl, rfl, ?_⟩
      intro connected
      cases connected

/-- Without a connection a channel reports nothing but its changes. -/
theorem changes_of_closed {before after : SessionState} {reports : List ChannelReport}
    (news : Channel.News before after reports) (closed : before.isConnected = false) :
    ∃ changes : List SessionChange, reports = changes.map .connectionChanged := by
  cases news with
  | nothing state => exact ⟨[], rfl⟩
  | advances advance => exact ⟨[_], rfl⟩
  | establishes sorcId => exact ⟨[_], rfl⟩
  | ends engaged cause => exact ⟨[_], rfl⟩
  | recoils advance engaged failure => exact ⟨[_, _], rfl⟩
  | sent sorcId result => cases closed
  | received sorcId result => cases closed

private theorem alike_forEach (now : Nat) (changes : List SessionChange) (alike : Alike session other) :
    AlikeTurns (Turn.forEach (channelReported now) session (changes.map .connectionChanged))
      (Turn.forEach (channelReported now) other (changes.map .connectionChanged)) := by
  induction changes generalizing session other with
  | nil => exact ⟨rfl, alike⟩
  | cons change rest ih =>
    have first := alike_channelChanged alike now change
    exact first.andThen (ih first.state)

private theorem alike_absorb (settled : Settled defaultMtu session)
    (closed : session.state.isConnected = false)
    (alike : Alike session other) {lower : Turn Channel ChannelReport} (served : session.Lower lower) :
    AlikeTurns (session.absorb now lower) (other.absorb now lower) := by
  obtain ⟨changes, reports⟩ := changes_of_closed (settled.lower served).2 closed
  have adopted : Alike { session with channel := lower.state } { other with channel := lower.state } := by
    obtain ⟨same, heard⟩ := alike
    rw [same]
    exact ⟨rfl, heard⟩
  have told := alike_forEach now changes adopted
  rw [← reports] at told
  exact ⟨congrArg (lower.effects ++ ·) told.effects, told.state⟩

/-- Sessions that are alike do the same in a call, and stay alike. -/
theorem alike_act (settled : Settled defaultMtu session) (alike : Alike session other) (input : Input) :
    AlikeTurns (session.act input) (other.act input) := by
  cases closed : session.state.isConnected with
  | true =>
    rw [alike.eq_of_connected closed]
    exact .refl _
  | false =>
    have absorbs : ∀ lower : Channel.Input, (∀ message, lower ≠ .send message) →
        AlikeTurns (session.absorb input.now (session.channel.act lower))
          (other.absorb input.now (session.channel.act lower)) := fun lower unsent =>
      alike_absorb settled closed alike ⟨lower, unsent, rfl⟩
    have idle : AlikeTurns (.idle session) (.idle other) := ⟨rfl, alike⟩
    obtain ⟨now, action⟩ := input
    obtain ⟨same, heard⟩ := alike
    generalize other.lastHeard = time at same heard
    subst same
    cases action with
    | connect credentials =>
      simp only [act, connect]
      split
      · exact absorbs (.connect credentials) (by simp)
      · exact idle
    | disconnect => exact absorbs (.close .userRequested) (by simp)
    | requestGrant grant =>
      simp only [act]
      rw [requestGrant_of_closed closed, requestGrant_of_closed]
      · exact idle
      · exact closed
    | radioEvent event => exact absorbs (.radioEvent event) (by simp)
    | confirm result => exact absorbs (.confirm result) (by simp)
    | receive result => exact absorbs (.receive result) (by simp)
    | tick =>
      simp only [act, tick, closed]
      exact idle

theorem alike_run (settled : Settled defaultMtu session) (alike : Alike session other) (inputs : List Input) :
    AlikeTurns (session.run inputs) (other.run inputs) := by
  induction inputs generalizing session other with
  | nil => exact ⟨rfl, alike⟩
  | cons input rest ih =>
    have first := alike_act settled alike input
    rw [run, run, Turn.forEach_cons, Turn.forEach_cons]
    exact first.andThen (ih (settled.act input) first.state)

/-- Sessions that are alike accept the same grants. -/
theorem alike_requestGrant (alike : Alike session other) (grant : UInt16) :
    (session.requestGrant grant).1 = (other.requestGrant grant).1 := by
  rw [alike.same]
  simp only [requestGrant]
  split <;> rfl

/-- A session of which nothing shows that was before: it is a fresh one over what is left of the answers of
the radio and of the nonces, but for the time at which it last heard something, and whatever comes later it
does and answers what the fresh one would. -/
structure Renewed (defaultMtu : Nat) (config : Config) (session : Session) : Prop where
  asFresh : session = { fresh session.channel.link.handset defaultMtu config with
    lastHeard := session.lastHeard }
  effects : ∀ later, (session.run later).effects =
    ((fresh session.channel.link.handset defaultMtu config).run later).effects
  answers : ∀ later grant, ((session.run later).state.requestGrant grant).1 =
    (((fresh session.channel.link.handset defaultMtu config).run later).state.requestGrant grant).1
  states : ∀ later, Alike (session.run later).state
    ((fresh session.channel.link.handset defaultMtu config).run later).state

/-- However a connection ended, nothing of it shows afterwards. -/
theorem renewed_of_run (handset : Handset) (defaultMtu : Nat) (config : Config) (inputs : List Input)
    (ended : ((fresh handset defaultMtu config).run inputs).state.state = .disconnected) :
    Renewed defaultMtu config ((fresh handset defaultMtu config).run inputs).state := by
  have settled := settled_of_run handset defaultMtu config inputs
  have asFresh := fresh_of_disconnected settled (configured_of_run handset defaultMtu config inputs) ended
  generalize ((fresh handset defaultMtu config).run inputs).state = session at ended settled asFresh ⊢
  have alike : Alike session (fresh session.channel.link.handset defaultMtu config) := by
    constructor
    · exact (congrArg (fun next : Session => { next with lastHeard := 0 }) asFresh).symm
    · rw [ended]
      nofun
  have later := alike_run settled alike
  exact
    { asFresh
      effects := fun inputs => (later inputs).effects
      answers := fun inputs grant => alike_requestGrant (later inputs).state grant
      states := fun inputs => (later inputs).state }

/-- The peer is lost while a heartbeat is on its way and grants wait behind it. -/
def lossInputs : List Input :=
  strayInputs.take 8 ++ [⟨2000, .requestGrant 7⟩, ⟨2100, .radioEvent (.connectionLost ⟨.zero⟩)⟩]

theorem renewed_after_loss :
    let session := ((fresh (Channel.zeroHandset 8) 200 .standard).run lossInputs).state
    session.state = .disconnected ∧ Renewed 200 .standard session :=
  ⟨by decide +kernel, renewed_of_run _ _ _ _ (by decide +kernel)⟩

end Session

end PhoneKey
