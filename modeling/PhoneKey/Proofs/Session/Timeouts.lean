import PhoneKey.Proofs.Session.Course

/-! # Who says that nothing was heard

A connection that ends says why. That nothing was heard for too long is said by no layer by itself: a channel
says it only when it is told to end for this cause, and a session tells it so only at a tick.
-/

namespace PhoneKey

/-- Whether an effect tells that a connection ended because nothing was heard. -/
def Effect.isTimeout : Effect → Bool
  | .announce (.link change) => change.reason = .connectionLost .heartbeatTimedOut
  | .announce (.channel change) => change.reason = .connectionLost .heartbeatTimedOut
  | .announce (.connection change) => change.reason = .connectionLost .heartbeatTimedOut
  | .telemetry (.connectionLost _ loss) => loss = .heartbeatTimedOut
  | _ => false

theorem EndCause.reason_eq_timeout_iff {Stage : Type} (cause : EndCause) (sorcId : Uuid) :
    cause.reason sorcId = (.connectionLost .heartbeatTimedOut : ConnectionReason Stage) ↔
      cause = .protocol .heartbeatTimedOut := by
  constructor
  · intro same
    cases cause with
    | userRequested => cases same
    | radio failure => cases failure <;> cases same
    | protocol failure => cases failure <;> first | rfl | cases same
  · rintro rfl
    rfl

theorem Effect.isTimeout_of_isServing {effect : Effect} (serving : effect.isServing = true) :
    effect.isTimeout = false := by
  cases effect with
  | announce news => cases news <;> trivial
  | telemetry event => cases event <;> trivial
  | _ => rfl

/-- An attempt that goes on does not end. -/
theorem Channel.Advance.reason_ne_lost {before after : SessionState} {reason : SessionReason}
    (advance : Advance before after reason) (loss : ConnectionLoss) : reason ≠ .connectionLost loss := by
  cases advance <;> nofun

namespace Channel

variable {defaultMtu : Nat} {channel : Channel} {input : Input} {turn : Turn Channel ChannelReport}

private theorem Link.isTimeout_start (link : Link) (message : Bytes) :
    ∀ effect ∈ (link.start message).effects, effect.isTimeout = false := by
  rcases Link.effects_start link message with silent | ⟨frame, accepted, same, _⟩
  · simp [silent]
  · simp [same, Effect.isTimeout]

private theorem timedOut_ended {sorcId : Uuid} {cause : EndCause} {lower : List Effect}
    (grounds : Grounds channel input sorcId cause lower) (handset : Handset) {effect : Effect}
    (member : effect ∈ (ended handset defaultMtu sorcId cause lower).effects)
    (timeout : effect.isTimeout = true) : input = .close (.protocol .heartbeatTimedOut) := by
  have silent : cause = .protocol .heartbeatTimedOut := by
    rcases List.mem_append.mp member with below | told
    · have announced : ∃ reason : LinkReason,
          effect = .announce (.link ⟨.disconnected, reason⟩) ∧
            (reason = .disconnect ∨ reason = cause.reason sorcId) := by
        cases grounds <;> grind [hangUpEffects, linkEndEffects, Effect.isTimeout]
      obtain ⟨reason, rfl, rfl | rfl⟩ := announced
      · cases timeout
      · exact (EndCause.reason_eq_timeout_iff cause sorcId).mp (of_decide_eq_true timeout)
    · cases List.mem_singleton.mp told
      exact (EndCause.reason_eq_timeout_iff cause sorcId).mp (of_decide_eq_true timeout)
  cases grounds with
  | asked cause engaged => rw [silent]
  | _ => cases silent

/-- A channel says that nothing was heard only when it is told to end for this cause. -/
theorem Transition.timedOut (transition : Transition defaultMtu channel input turn) {effect : Effect}
    (member : effect ∈ turn.effects) (timeout : effect.isTimeout = true) :
    input = .close (.protocol .heartbeatTimedOut) := by
  have calm : ∀ {effects : List Effect}, effect ∈ effects →
      (∀ other ∈ effects, other.isTimeout = false) → input = .close (.protocol .heartbeatTimedOut) := by
    intro effects listed quiet
    cases timeout.symm.trans (quiet effect listed)
  have offered := Link.isTimeout_start
  cases transition with
  | asks asked taken =>
    refine calm member ?_
    simp only [List.forall_mem_append, List.forall_mem_cons, asked]
    exact ⟨⟨rfl, offered _ _⟩, rfl, by simp⟩
  | asksInVain asked refused =>
    refine calm member ?_
    simp only [List.forall_mem_append, List.forall_mem_cons, asked, linkEndEffects]
    exact ⟨⟨⟨rfl, offered _ _⟩, rfl, rfl, by simp⟩, rfl, rfl, by simp⟩
  | ends grounds => exact timedOut_ended grounds _ member timeout
  | breaksOff confirmed closed grounds =>
    rcases List.mem_cons.mp member with rfl | told
    · cases timeout
    · exact timedOut_ended grounds _ told timeout
  | opens received kind told limit spoken taken =>
    refine calm member ?_
    simp only [List.forall_mem_append, spoken]
    exact ⟨by simp [openingEffects, Effect.isTimeout], offered _ _⟩
  | opensInVain received spoken refused =>
    refine calm member ?_
    simp only [List.forall_mem_append, spoken]
    exact ⟨⟨⟨by simp [openingEffects, Effect.isTimeout], offered _ _⟩,
      by simp [hangUpEffects, Effect.isTimeout]⟩, by simp [Effect.isTimeout]⟩
  | replies received reply spoken taken => exact calm member (spoken ▸ offered _ _)
  | givesUp received kind spoken =>
    refine calm member ?_
    simp only [Turn.after, ended, List.forall_mem_append, spoken]
    exact ⟨offered _ _, by simp [hangUpEffects, Effect.isTimeout],
      by simp [Effect.isTimeout, EndCause.reason, EndCause.kind]⟩
  | seals spoken taken => exact calm member (spoken ▸ offered _ _)
  | refuses spoken refused => exact calm member (spoken ▸ offered _ _)
  | _ => exact calm member (by simp [Turn.idle, Turn.report, Effect.isTimeout])

end Channel

namespace Session

variable {defaultMtu now : Nat} {session : Session}

private theorem isTimeout_publish {state : SessionState} {reason : SessionReason} {effect : Effect}
    (member : effect ∈ (session.publish state reason).effects) (timeout : effect.isTimeout = true) :
    reason = .connectionLost .heartbeatTimedOut := by
  rcases List.mem_append.mp member with told | announced
  · rcases List.mem_cons.mp told with rfl | told
    · cases timeout
    · cases reason with
      | connectingFailed sorcId failure =>
        cases List.mem_singleton.mp told
        cases timeout
      | connectionLost loss =>
        obtain ⟨sorcId, _, rfl⟩ := by simpa [endTelemetry] using told
        rw [of_decide_eq_true timeout]
      | _ => cases told
  · cases List.mem_singleton.mp announced
    exact of_decide_eq_true timeout

private theorem isTimeout_finish {reason : SessionReason} {effect : Effect}
    (member : effect ∈ (session.finish reason).effects) (timeout : effect.isTimeout = true) :
    reason = .connectionLost .heartbeatTimedOut := by
  rcases List.mem_append.mp member with forgotten | told
  · cases List.mem_singleton.mp forgotten
    cases timeout
  · exact isTimeout_publish told timeout

/-- A session says that nothing was heard only because it told its channel so. -/
theorem timedOut_absorb (settled : Settled defaultMtu session) (input : Channel.Input)
    (unsent : ∀ message, input ≠ .send message) {effect : Effect}
    (member : effect ∈ (session.absorb now (session.channel.act input)).effects)
    (timeout : effect.isTimeout = true) : input = .close (.protocol .heartbeatTimedOut) := by
  have transition := Channel.act_transition settled.lawful input
  have below : effect ∈ (session.channel.act input).effects → input = .close (.protocol .heartbeatTimedOut) :=
    fun listed => transition.timedOut listed timeout
  have served : ∀ {told : SessionTurn}, Serving told → effect ∉ told.effects := fun serving listed =>
    Bool.false_ne_true ((Effect.isTimeout_of_isServing (serving effect listed)).symm.trans timeout)
  -- What is reported is published by the channel too.
  have reported : ∀ change : SessionChange,
      .connectionChanged change ∈ (session.channel.act input).reports →
      change.reason = .connectionLost .heartbeatTimedOut → input = .close (.protocol .heartbeatTimedOut) := by
    intro change told reason
    have listed := mem_reportedChanges.mpr told
    rw [← transition.publishes] at listed
    obtain ⟨announced, published, same⟩ := List.mem_filterMap.mp listed
    refine transition.timedOut published ?_
    cases announced with
    | announce news =>
      cases news with
      | channel other =>
        cases same
        exact decide_eq_true reason
      | _ => cases same
    | _ => cases same
  have outcome : Absorbed now session (session.channel.act input)
    (session.absorb now (session.channel.act input)) := absorbed settled ⟨input, unsent, rfl⟩
  generalize session.channel.act input = lower at below reported outcome member
  generalize session.absorb now lower = turn at outcome member
  cases outcome with
  | nothing reports => exact below member
  | advances reports advance reached =>
    refine (List.mem_append.mp member).elim below fun told => ?_
    exact absurd (isTimeout_publish told timeout) (advance.reason_ne_lost _)
  | establishes reports opening reached =>
    refine (List.mem_append.mp member).elim below fun told => ?_
    cases isTimeout_publish told timeout
  | @ends sorcId cause reports engaged reached =>
    refine (List.mem_append.mp member).elim below fun told => ?_
    have listed : .connectionChanged ⟨.disconnected, cause.reason sorcId⟩ ∈ lower.reports := by
      rw [reports]
      exact List.mem_cons_self
    exact reported _ listed (isTimeout_finish told timeout)
  | recoils reports advance engaged reached =>
    rcases List.mem_append.mp member with early | told
    · refine (List.mem_append.mp early).elim below fun told => ?_
      exact absurd (isTimeout_publish told timeout) (advance.reason_ne_lost _)
    · cases isTimeout_finish told timeout
  | sent reports => exact below member
  | fails reports =>
    exact (List.mem_append.mp member).elim below fun told => absurd told (served (serving_giveUp _ _))
  | hears reports =>
    exact (List.mem_append.mp member).elim below fun told => absurd told (served (serving_messageReceived _ _))
  | mishears reports =>
    exact (List.mem_append.mp member).elim below fun told => absurd told (served (serving_giveUp _ _))

theorem isTimeout_requestGrant (grant : UInt16) :
    ∀ effect ∈ (session.requestGrant grant).2.effects, effect.isTimeout = false := by
  have served : ∀ next : Session, ∀ effect ∈ next.serve.effects, effect.isTimeout = false :=
    fun next effect member => Effect.isTimeout_of_isServing (serving_serve next effect member)
  cases state : session.state with
  | connected sorcId =>
    rw [requestGrant_of_connected state]
    cases session.queue.enqueue (.grant grant) with
    | ok queue => exact List.forall_mem_cons.mpr ⟨rfl, List.forall_mem_cons.mpr ⟨rfl, served _⟩⟩
    | error cause => exact List.forall_mem_cons.mpr ⟨rfl, List.forall_mem_cons.mpr ⟨rfl, served _⟩⟩
  | disconnected =>
    rw [requestGrant_of_closed (by rw [state]; rfl)]
    exact fun effect member => absurd member List.not_mem_nil
  | connecting sorcId stage =>
    rw [requestGrant_of_closed (by rw [state]; rfl)]
    exact fun effect member => absurd member List.not_mem_nil

end Session

end PhoneKey
