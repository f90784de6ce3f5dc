import PhoneKey.Proofs.Channel.Origin

/-! # What travels in clear

Every frame that is written while the channel is connected belongs to an envelope that the session's own
context sealed for a message it was given. Every other frame belongs to a message of the link or of the
handshake, which nobody gave to the channel. What is passed on as received has been authenticated under
the session's key.
-/

namespace PhoneKey.Channel

variable {defaultMtu : Nat} {channel : Channel} {input : Input} {turn : Turn Channel ChannelReport}

/-- How a call after the calls of a run keeps what is said in confidence. -/
structure Confines (calls : List (Call Channel Input)) (call : Call Channel Input) : Prop where
  /-- Frames that are written while connected carry envelopes of the session. -/
  sealed : ∀ before after frame accepted,
    (call.before.act call.input).effects = before ++ .radio (.write frame accepted) :: after →
    (announced call.before.state before).isConnected = true →
    ∃ since key, SessionSince calls since key ∧ ∃ origin ∈ since ++ [call], ∃ message context,
      origin.input = .send message ∧ origin.before.protection = .sealed context ∧
      (SealingContext.new key .toSorc).SameSession context ∧
      Frame.Carries frame (context.encrypt message.toBytes).1
  /-- All other frames carry messages of the link and the handshake, which no command asked for. -/
  spoken : ∀ before after frame accepted,
    (call.before.act call.input).effects = before ++ .radio (.write frame accepted) :: after →
    (announced call.before.state before).isConnected = false →
    ∃ origin ∈ calls ++ [call], ∃ message : Message, message.id ∈ spokenInClear ∧
      (∀ given, origin.input ≠ .send given) ∧
      Begins (origin.before.act origin.input).effects message.toBytes ∧
      Frame.Carries frame message.toBytes
  unsent : ∀ message, call.input = .send message → call.before.state.isConnected = false →
    (call.before.act call.input).effects = []
  /-- What is passed on was authenticated and opened under the key of the session. -/
  opened : ∀ message, .messageReceived (.ok message) ∈ (call.before.act call.input).reports →
    call.before.state.isConnected = true ∧
    (call.before.act call.input).state.state.isConnected = true ∧
    ∃ since key context raw line ciphertext plain following, SessionSince calls since key ∧
      call.before.protection = .sealed context ∧
      (SealingContext.new key .toSorc).SameSession context ∧ call.input = .receive (.ok raw) ∧
      call.before.link.line.receive raw =
        (.ok (some (ciphertext ++ Envelope.mac context.cipher context.openStart ciphertext)), line) ∧
      context.decrypt (ciphertext ++ Envelope.mac context.cipher context.openStart ciphertext) =
        .ok (plain, following) ∧
      message = .ofBytes plain

/-- Messages are passed on only as the context of the connection opened them. -/
theorem Transition.opened {message : Message} (transition : Transition defaultMtu channel input turn)
    (passed : .messageReceived (.ok message) ∈ turn.reports) :
    channel.state.isConnected = true ∧ turn.state.state.isConnected = true ∧
    ∃ context raw line data plain following, channel.protection = .sealed context ∧
      input = .receive (.ok raw) ∧ channel.link.line.receive raw = (.ok (some data), line) ∧
      context.decrypt data = .ok (plain, following) ∧ message = .ofBytes plain := by
  cases transition with
  | @hears handset line next credentials context following inFlight raw data heard received unprotected =>
    have same : ChannelReport.messageReceived (.ok message) =
      .messageReceived (if heard.isValid then .ok heard else .error .decryptionFailed) :=
      List.mem_singleton.mp passed
    refine ⟨rfl, rfl, context, raw, next, data, ?_⟩
    cases unprotected with
    | @opened plain following decrypted =>
      refine ⟨plain, following, rfl, rfl, received, decrypted, ?_⟩
      split at same
      · cases same
        rfl
      · cases same
    | closed failed => cases same
  | asks => simp at passed
  | asksInVain => simp at passed
  | ends => simp [ended] at passed
  | breaksOff => simp [ended, Turn.after] at passed
  | givesUp => simp [ended, Turn.after] at passed
  | opens => simp at passed
  | opensInVain => simp at passed
  | _ => simp [Turn.idle, Turn.report] at passed

private theorem steady_before {before after : List Effect} {frame : Bytes} {accepted : Bool}
    (transition : Transition defaultMtu channel input turn)
    (split : turn.effects = before ++ .radio (.write frame accepted) :: after) :
    .radio (.write frame accepted) ∈ turn.effects ∧
      (announced channel.state before).isConnected = channel.state.isConnected := by
  have written : .radio (.write frame accepted) ∈ turn.effects := by simp [split]
  refine ⟨written, isConnected_announced channel.state before ?_⟩
  intro change told
  exact transition.announces written (by rw [split]; exact List.mem_append_left _ told)

/-- A frame that is written while connected carries an envelope of the session. -/
private theorem sealed_of_traced {calls : List (Call Channel Input)} {frame : Bytes} {accepted : Bool}
    (traced : Traced calls channel) (lawful : Lawful defaultMtu channel)
    (written : .radio (.write frame accepted) ∈ (channel.act input).effects)
    (connected : channel.state.isConnected = true) :
    ∃ since key, SessionSince calls since key ∧ ∃ origin ∈ since ++ [⟨channel, input⟩],
      ∃ message context, origin.input = .send message ∧ origin.before.protection = .sealed context ∧
      (SealingContext.new key .toSorc).SameSession context ∧
      Frame.Carries frame (context.encrypt message.toBytes).1 := by
  cases traced with
  | clear closed made => cases closed.symm.trans connected
  | @sealed since key current _ session keyed same made =>
    refine ⟨since, key, session, ?_⟩
    rcases (act_transition lawful input).written lawful written with
      ⟨package, sending, carries⟩ | ⟨message, data, launch, opens⟩
    · obtain ⟨origin, member, message, _, launch⟩ := made package sending
      obtain ⟨secure, context, held, kept⟩ := session.unbroken origin member
      obtain ⟨asked, other, found, carried⟩ := launch.of_connected secure
      cases held.symm.trans found
      exact ⟨origin, List.mem_append_left _ member, message, context, asked, held, kept, carried ▸ carries⟩
    · obtain ⟨asked, other, found, carried⟩ := launch.of_connected connected
      cases keyed.symm.trans found
      exact ⟨⟨channel, input⟩, by simp, message, current, asked, keyed, same, carried ▸ opens.carries⟩

/-- A frame that is written before carries a message that nobody gave to the channel. -/
private theorem spoken_of_traced {calls : List (Call Channel Input)} {frame : Bytes} {accepted : Bool}
    (traced : Traced calls channel) (lawful : Lawful defaultMtu channel)
    (written : .radio (.write frame accepted) ∈ (channel.act input).effects)
    (closed : channel.state.isConnected = false) :
    ∃ origin ∈ calls ++ [⟨channel, input⟩], ∃ message : Message, message.id ∈ spokenInClear ∧
      (∀ given, origin.input ≠ .send given) ∧
      Begins (origin.before.act origin.input).effects message.toBytes ∧
      Frame.Carries frame message.toBytes := by
  cases traced with
  | sealed connected => cases closed.symm.trans connected
  | clear _ made =>
    rcases (act_transition lawful input).written lawful written with
      ⟨package, sending, carries⟩ | ⟨message, data, launch, opens⟩
    · obtain ⟨origin, member, message, before, launch⟩ := made package sending
      obtain ⟨unasked, kind, carried, begins⟩ := launch.of_closed before
      exact ⟨origin, List.mem_append_left _ member, message, kind, unasked, begins, carried ▸ carries⟩
    · obtain ⟨unasked, kind, carried, begins⟩ := launch.of_closed closed
      exact ⟨⟨channel, input⟩, by simp, message, kind, unasked, begins, carried ▸ opens.carries⟩

/-- Every call of a run keeps to itself what is said in confidence. -/
theorem confines_of_run (handset : Handset) (defaultMtu : Nat) (inputs : List Input) (input : Input) :
    Confines ((atRest handset defaultMtu).history inputs)
      ⟨((atRest handset defaultMtu).run inputs).state, input⟩ := by
  have lawful := lawful_of_run handset defaultMtu inputs
  have traced := traced_of_run handset defaultMtu inputs
  generalize (atRest handset defaultMtu).history inputs = calls at traced ⊢
  generalize ((atRest handset defaultMtu).run inputs).state = channel at lawful traced ⊢
  have transition := act_transition lawful input
  constructor
  · intro before after frame accepted split connected
    obtain ⟨written, steady⟩ := steady_before transition split
    exact sealed_of_traced traced lawful written (steady.symm.trans connected)
  · intro before after frame accepted split closed
    obtain ⟨written, steady⟩ := steady_before transition split
    exact spoken_of_traced traced lawful written (steady.symm.trans closed)
  · rintro message asked closed
    cases asked
    have refused : channel.send message = .report channel (.messageSent (.error (.link .notConnected))) := by
      rw [send, closed, if_neg Bool.false_ne_true]
    exact congrArg Turn.effects refused
  · intro message passed
    obtain ⟨connected, still, context, raw, line, data, plain, following, keyed, heard, received, decrypted,
      same⟩ := transition.opened passed
    refine ⟨connected, still, ?_⟩
    obtain ⟨ciphertext, authentic, _⟩ := SealingContext.authentic_of_decrypt decrypted
    cases traced with
    | clear closed _ => cases closed.symm.trans connected
    | @sealed since key current _ session held kept _ =>
      cases held.symm.trans keyed
      rw [authentic] at received decrypted
      exact ⟨since, key, context, raw, line, ciphertext, plain, following, session, keyed, kept, heard,
        received, decrypted, same⟩

end PhoneKey.Channel
