import PhoneKey.Proofs.Channel.Reachable

/-! # Refused messages

A message that the link refuses leaves no accepted frame behind and the package under way in its place,
but sealing it has moved the outgoing chain to the last block of an envelope that never travels. A peer
that was in step before opens the next envelope only if the authentication codes of two different chain
starts coincide.
-/

namespace PhoneKey.Channel

variable {defaultMtu : Nat} {line : Line} {context : SealingContext} {inFlight : Option Message}

/-- Whether a channel reports that the message it is to send has failed. -/
def Fails (channel : Channel) (message : Message) (cause : ChannelError) : Prop :=
  .messageSent (.error cause) ∈ (channel.act (.send message)).reports

/-- The failure of a message that a report tells of. -/
def failure? : ChannelReport → Option ChannelError
  | .messageSent (.error cause) => some cause
  | _ => none

theorem fails_iff_failure? (channel : Channel) (message : Message) (cause : ChannelError) :
    some cause ∈ (channel.act (.send message)).reports.map failure? ↔ channel.Fails message cause := by
  rw [Fails, List.mem_map]
  constructor
  · rintro ⟨report, member, told⟩
    cases report with
    | messageSent result =>
      cases result with
      | ok sent => cases told
      | error other =>
        cases told
        exact member
    | _ => cases told
  · intro member
    exact ⟨_, member, rfl⟩

instance (channel : Channel) (message : Message) (cause : ChannelError) :
    Decidable (channel.Fails message cause) :=
  decidable_of_iff _ (fails_iff_failure? channel message cause)

/-- What a channel that seals with a context leaves behind when a message fails. -/
structure LeavesRefused (channel : Channel) (context : SealingContext) (message : Message) : Prop where
  unwritten : ∀ frame, .radio (.write frame true) ∉ (channel.act (.send message)).effects
  kept : (channel.act (.send message)).state.link.line = channel.link.line ∧
    (channel.act (.send message)).state.state = channel.state
  moved : (channel.act (.send message)).state.protection = .sealed (context.encrypt message.toBytes).2 ∧
    (context.encrypt message.toBytes).2 =
      { context with sealStart := (context.encrypt message.toBytes).2.sealStart }
  /-- The new start of the outgoing chain is the last block of the refused envelope. -/
  last_block : ∃ front, context.ciphertext message.toBytes =
    front ++ (context.encrypt message.toBytes).2.sealStart.toList
  unchanged_iff : (channel.act (.send message)).state.protection = channel.protection ↔
    (context.encrypt message.toBytes).2.sealStart = context.sealStart
  /-- When a peer that was in step opens the envelope that is sealed next. -/
  opens_iff : ∀ (receiver following : SealingContext) (next : Message),
    (channel.act (.send message)).state.protection = .sealed following →
    receiver.key = context.key → receiver.openStart = context.sealStart →
    ((∃ opened, receiver.decrypt (following.encrypt next.toBytes).1 = .ok opened) ↔
      Envelope.mac context.cipher context.sealStart (following.ciphertext next.toBytes) =
        Envelope.mac context.cipher following.sealStart (following.ciphertext next.toBytes))

theorem send_of_refused {handset : Handset} {credentials : Credentials} {message : Message}
    {offered : Link.Offer} {reason : LinkError}
    (spoken : offered = Link.start ⟨handset, line, .connected credentials.token.sorcId⟩
      (context.encrypt message.toBytes).1)
    (refused : offered.refusal = some reason) :
    (secured handset line credentials context inFlight).act (.send message) =
      ⟨secured offered.link.handset line credentials (context.encrypt message.toBytes).2
        (inFlightAfter inFlight reason), [.messageSent (.error (.link reason))], offered.effects⟩ := by
  have sent : (secured handset line credentials context inFlight).act (.send message) =
      (secured handset line credentials context inFlight).transmit message := rfl
  have kept := Link.link_of_refused (spoken ▸ refused)
  rw [← spoken] at kept
  rw [sent, transmit_of_refused rfl rfl spoken refused, kept, sendFailed_of_connected rfl, Turn.after_report]
  rfl

/-- A message fails on a secured channel exactly if the link refuses its envelope. -/
theorem fails_secured_iff (handset : Handset) (credentials : Credentials) (message : Message)
    (cause : ChannelError) :
    (secured handset line credentials context inFlight).Fails message cause ↔
      ∃ reason, cause = .link reason ∧
        (Link.start ⟨handset, line, .connected credentials.token.sorcId⟩
          (context.encrypt message.toBytes).1).refusal = some reason := by
  obtain ⟨offered, spoken⟩ : ∃ offered, offered =
    Link.start ⟨handset, line, .connected credentials.token.sorcId⟩
      (context.encrypt message.toBytes).1 := ⟨_, rfl⟩
  rw [Fails, ← spoken]
  cases outcome : offered.refusal with
  | none =>
    have sent : (secured handset line credentials context inFlight).act (.send message) =
        (secured handset line credentials context inFlight).transmit message := rfl
    rw [sent, transmit_of_taken rfl rfl spoken outcome]
    simp
  | some reason =>
    rw [send_of_refused spoken outcome]
    simp

private theorem leavesRefused_secured {handset : Handset} {credentials : Credentials} {message : Message}
    {reason : LinkError}
    (refused : (Link.start ⟨handset, line, .connected credentials.token.sorcId⟩
      (context.encrypt message.toBytes).1).refusal = some reason) :
    LeavesRefused (secured handset line credentials context inFlight) context message := by
  have turn : (secured handset line credentials context inFlight).act (.send message) = _ :=
    send_of_refused rfl refused
  constructor
  case unwritten =>
    rw [turn]
    exact Link.no_write_of_refused refused
  case kept =>
    rw [turn]
    exact ⟨rfl, rfl⟩
  case moved =>
    rw [turn]
    exact ⟨rfl, rfl⟩
  case last_block => exact context.ciphertext_eq message.toBytes
  case unchanged_iff =>
    rw [turn]
    constructor
    · intro same
      exact congrArg SealingContext.sealStart (Protection.sealed.inj same)
    · intro same
      rw [SealingContext.snd_encrypt] at same ⊢
      exact congrArg Protection.sealed (congrArg (fun start => { context with sealStart := start }) same)
  case opens_iff =>
    rintro receiver following next sealed shared inStep
    rw [turn] at sealed
    obtain rfl := Protection.sealed.inj sealed
    rw [← inStep]
    have same : receiver.key = (context.encrypt message.toBytes).2.key := shared
    exact SealingContext.decrypt_encrypt_iff same next.toBytes

/-- What a failed message leaves behind in any phase in which a channel seals. -/
theorem leavesRefused_of_fails {channel : Channel} {message : Message} {cause : ChannelError}
    (lawful : Lawful defaultMtu channel) (sealed : channel.protection = .sealed context)
    (failed : channel.Fails message cause) : LeavesRefused channel context message := by
  cases lawful with
  | atRest handset => cases sealed
  | dialling handset credentials => cases sealed
  | settling handset credentials default underway => cases sealed
  | proving handset credentials default limit begun underway pending => cases sealed
  | secured handset credentials default limit underway =>
    obtain rfl := Protection.sealed.inj sealed
    obtain ⟨reason, _, refused⟩ := (fails_secured_iff handset credentials message cause).mp failed
    exact leavesRefused_secured refused

/-- A connected channel seals, and a message fails exactly if its link refuses the envelope. Then nothing
has been written, but the context is no longer the one before the call, and the peer can fail to open
what follows. -/
theorem leavesRefused_of_run (handset : Handset) (defaultMtu : Nat) (inputs : List Input) (message : Message)
    (connected : ((atRest handset defaultMtu).run inputs).state.state.isConnected = true) :
    ∃ context, ((atRest handset defaultMtu).run inputs).state.protection = .sealed context ∧
      (∀ cause, ((atRest handset defaultMtu).run inputs).state.Fails message cause ↔
        ∃ reason, cause = .link reason ∧ ((atRest handset defaultMtu).run inputs).state.link.Refuses
          (context.encrypt message.toBytes).1 reason) ∧
      ((∃ cause, ((atRest handset defaultMtu).run inputs).state.Fails message cause) →
        LeavesRefused ((atRest handset defaultMtu).run inputs).state context message) := by
  have lawful := lawful_of_run handset defaultMtu inputs
  generalize ((atRest handset defaultMtu).run inputs).state = channel at lawful connected ⊢
  obtain ⟨context, sealed, fails⟩ : ∃ context, channel.protection = .sealed context ∧
      ∀ cause, channel.Fails message cause ↔ ∃ reason, cause = .link reason ∧
        channel.link.Refuses (context.encrypt message.toBytes).1 reason := by
    cases lawful with
    | atRest handset => cases connected
    | dialling handset credentials => cases connected
    | settling handset credentials default underway => cases connected
    | proving handset credentials default limit begun underway pending => cases connected
    | secured handset credentials default limit underway =>
      refine ⟨_, rfl, fun cause => ?_⟩
      rw [fails_secured_iff]
      constructor
      · rintro ⟨reason, same, refused⟩
        exact ⟨reason, same, (Link.refusal_eq_some_iff limit _ reason).mp refused⟩
      · rintro ⟨reason, same, refuses⟩
        exact ⟨reason, same, (Link.refusal_eq_some_iff limit _ reason).mpr refuses⟩
  refine ⟨context, sealed, fails, ?_⟩
  rintro ⟨cause, failed⟩
  exact leavesRefused_of_fails lawful sealed failed

/-- A channel that has just been secured; its radio declines the next write and no other. -/
def faltering : Channel :=
  ((atRest ⟨(· != 3), ⟨fun _ => .zero⟩⟩ 200).run (zeroInputs ++ [.confirm (.ok ())])).state

def heartbeat : Message := .empty .heartbeatRequest

private theorem connected_faltering : faltering.state.isConnected = true := by decide +kernel

private theorem fails_faltering : faltering.Fails heartbeat (.link .writeFailed) := by decide +kernel

theorem leavesRefused_faltering : faltering.state.isConnected = true ∧
    faltering.Fails heartbeat (.link .writeFailed) ∧
    ∃ context, LeavesRefused faltering context heartbeat := by
  obtain ⟨context, _, _, leaves⟩ := leavesRefused_of_run _ _ _ heartbeat connected_faltering
  exact ⟨connected_faltering, fails_faltering, context, leaves ⟨_, fails_faltering⟩⟩

/-- The session of two peers that drew zeros. -/
def zeroSession (outgoing : Direction) : SealingContext :=
  .new (Handshake.sessionKey
    (((Aes.Cipher.ofKey .zero).decrypt .zero).xor ((Aes.Cipher.ofKey .zero).encrypt .zero)) .zero) outgoing

/-- One refused heartbeat changes the context, and a peer that was in step cannot open the next one,
which the link takes. -/
theorem not_opens_after_refusal :
    let refused := faltering.act (.send heartbeat)
    let following := ((zeroSession .toSorc).encrypt heartbeat.toBytes).2
    faltering.state.isConnected = true ∧ faltering.protection = .sealed (zeroSession .toSorc) ∧
      faltering.Fails heartbeat (.link .writeFailed) ∧
      refused.state.protection = .sealed following ∧ refused.state.protection ≠ faltering.protection ∧
      (∀ cause, ¬ refused.state.Fails heartbeat cause) ∧
      ¬ ∃ opened, (zeroSession .toPhone).decrypt (following.encrypt heartbeat.toBytes).1 = .ok opened := by
  intro refused following
  have before : faltering.protection = .sealed (zeroSession .toSorc) := by decide +kernel
  have leaves := leavesRefused_of_fails (lawful_of_run _ _ _) before fails_faltering
  have after : refused.state.protection = .sealed following := leaves.moved.1
  refine ⟨connected_faltering, before, fails_faltering, after, ?_, ?_, ?_⟩
  · intro unchanged
    have same := leaves.unchanged_iff.mp unchanged
    revert same
    decide +kernel
  · intro cause fails
    have silent : (refused.state.act (.send heartbeat)).reports.length = 0 := by decide +kernel
    rw [Fails, List.eq_nil_of_length_eq_zero silent] at fails
    cases fails
  · intro opens
    have coincide := (leaves.opens_iff (zeroSession .toPhone) _ heartbeat after rfl rfl).mp opens
    revert coincide
    decide +kernel

end PhoneKey.Channel
