import PhoneKey.Proofs.Session.Layers
import PhoneKey.Proofs.Session.Progress
import PhoneKey.Proofs.Simulation.Commands

/-! # Reports that come too late

A radio may go on to report about a connection that has ended, or report about a peer that nobody asked
for. No layer makes anything of it: the stack stays as it is, and nothing is published, told to telemetry or
asked of the radio. So what was reported of a connection that the user ended stands.
-/

namespace PhoneKey

/-- Whether an input is a report of the radio or the passing of time, which nobody asks for. -/
def Session.Action.isReport : Action → Bool
  | .radioEvent _ => true
  | .confirm _ => true
  | .receive _ => true
  | .tick => true
  | _ => false

namespace Channel

/-- A radio event about a peer that the link has nothing to do with. -/
theorem radioEvent_of_foreign {channel : Channel} {event : RadioEvent}
    (foreign : channel.link.state.sorcId? ≠ some event.sorcId) :
    channel.radioEvent event = .idle channel := by
  have ignored : channel.link.radioEvent event = .idle channel.link := by
    simp only [Link.radioEvent, if_neg foreign]
  rw [radioEvent, ignored]
  exact absorb_silent channel channel.link []

/-- That the peer was reached is no news unless the radio is asked for it. -/
theorem radioEvent_of_unexpected {channel : Channel} {sorcId : Uuid}
    (stale : channel.link.state ≠ .connecting sorcId .physical) :
    channel.radioEvent (.connected sorcId) = .idle channel := by
  rw [radioEvent, Link.radioEvent_of_stale stale]
  exact absorb_silent channel channel.link []

private theorem confirm_atRest (handset : Handset) (defaultMtu : Nat) (result : Except LinkError Unit) :
    (atRest handset defaultMtu).confirm result = .idle (atRest handset defaultMtu) := by
  cases result <;> rfl

private theorem receive_atRest (handset : Handset) (defaultMtu : Nat) (result : Except LinkError Bytes) :
    (atRest handset defaultMtu).receive result = .idle (atRest handset defaultMtu) := by
  cases result with
  | error cause => rfl
  | ok raw =>
    rw [receive, Link.receive]
    rfl

/-- A lawful channel without a connection holds nothing that a report could go on with. -/
theorem Lawful.atRest_of_disconnected {defaultMtu : Nat} {channel : Channel}
    (lawful : Lawful defaultMtu channel) (ended : channel.state = .disconnected) :
    channel = Channel.atRest channel.link.handset defaultMtu := by
  cases lawful with
  | atRest handset => rfl
  | _ => cases ended

end Channel

/-- Channel and link are about the same peer. -/
theorem InStep.sorcId? {upper : SessionState} {lower : LinkState} (inStep : InStep upper lower) :
    lower.sorcId? = upper.sorcId? := by
  cases inStep <;> rfl

namespace Session

variable {defaultMtu now : Nat} {session : Session}

/-- While a session is disconnected no report does anything. -/
theorem act_of_disconnected (settled : Settled defaultMtu session) (ended : session.state = .disconnected)
    {input : Input} (report : input.action.isReport = true) : session.act input = .idle session := by
  have rests := settled.lawful.atRest_of_disconnected (settled.agrees ▸ ended)
  obtain ⟨now, action⟩ := input
  cases action with
  | radioEvent event =>
    have foreign : session.channel.link.state.sorcId? ≠ some event.sorcId := by
      rw [rests]
      nofun
    simp only [act, radioEvent, Channel.radioEvent_of_foreign foreign, absorb_idle]
  | confirm result =>
    have ignored : session.channel.confirm result = .idle session.channel := by
      rw [rests]
      exact Channel.confirm_atRest _ _ result
    simp only [act, confirm, ignored, absorb_idle]
  | receive result =>
    have ignored : session.channel.receive result = .idle session.channel := by
      rw [rests]
      exact Channel.receive_atRest _ _ result
    simp only [act, receive, ignored, absorb_idle]
  | tick =>
    have apart : session.state.isConnected = false := by rw [ended]; rfl
    simp only [act, tick, apart, Bool.false_eq_true, if_false]
  | connect credentials => cases report
  | disconnect => cases report
  | requestGrant grant => cases report

private theorem run_of_disconnected (settled : Settled defaultMtu session)
    (ended : session.state = .disconnected)
    {reports : List Input} (reported : ∀ input ∈ reports, input.action.isReport = true) :
    session.run reports = .idle session := by
  induction reports with
  | nil => rfl
  | cons input rest ih =>
    have ignored := act_of_disconnected settled ended (reported input List.mem_cons_self)
    rw [run, Turn.forEach_cons, ignored]
    exact ih fun other member => reported other (List.mem_cons_of_mem input member)

/-- Whatever the cause, a session that is closed is disconnected. -/
theorem state_close (settled : Settled defaultMtu session) (now : Nat) (cause : EndCause) :
    (session.close now cause).state.state = .disconnected := by
  cases engaged : session.channel.state.sorcId? with
  | some sorcId =>
    rw [close_of_engaged settled engaged]
    rfl
  | none =>
    have ended : session.channel.state = .disconnected := by
      cases state : session.channel.state <;> simp_all [ConnectionState.sorcId?]
    have idle : session.channel.close cause = .idle session.channel := by
      simp [Channel.close, ended, ConnectionState.isDisconnected]
    rw [close, idle, absorb_idle]
    exact settled.agrees.trans ended

/-- What reports about other connections than the one at hand do to a session: nothing. -/
structure IgnoresStale (session : Session) : Prop where
  ended : session.state = .disconnected → ∀ input : Input, input.action.isReport = true →
    session.act input = .idle session
  foreign : ∀ now event, session.state.sorcId? ≠ some event.sorcId →
    session.act ⟨now, .radioEvent event⟩ = .idle session
  unexpected : ∀ now sorcId, session.channel.link.state ≠ .connecting sorcId .physical →
    session.act ⟨now, .radioEvent (.connected sorcId)⟩ = .idle session
  /-- What the user ended is over: the reports that follow change nothing, and add nothing to what the
  command published. -/
  dismissed : ∀ now reports, (∀ input ∈ reports, Action.isReport input.action = true) →
    session.run (⟨now, .disconnect⟩ :: reports) = session.act ⟨now, .disconnect⟩

/-- After any inputs, stale reports of the radio do nothing. -/
theorem ignoresStale_of_run (handset : Handset) (defaultMtu : Nat) (config : Config) (inputs : List Input) :
    IgnoresStale ((fresh handset defaultMtu config).run inputs).state := by
  have settled := settled_of_run handset defaultMtu config inputs
  generalize ((fresh handset defaultMtu config).run inputs).state = session at settled ⊢
  refine ⟨fun ended input => act_of_disconnected settled ended, ?_, ?_, ?_⟩
  · intro now event foreign
    rw [settled.agrees, ← settled.lawful.inStep.sorcId?] at foreign
    simp only [act, radioEvent, Channel.radioEvent_of_foreign foreign, absorb_idle]
  · intro now sorcId stale
    simp only [act, radioEvent, Channel.radioEvent_of_unexpected stale, absorb_idle]
  · intro now reports reported
    have ended := state_close settled now .userRequested
    have next : Settled defaultMtu (session.act ⟨now, .disconnect⟩).state := settled.act ⟨now, .disconnect⟩
    rw [run, Turn.forEach_cons]
    refine (Turn.andThen_congr ?_).trans (Turn.andThen_idle _)
    exact run_of_disconnected next ended reported

end Session

end PhoneKey
