import PhoneKey.Proofs.Channel.Origin

/-! # The invariant of a channel

Between two inputs the fields of a channel, of its link and of its line agree with each other, whatever
the inputs were and whatever the radio answered.
-/

namespace PhoneKey.Channel

variable {defaultMtu : Nat} {channel : Channel}

/-- How the fields of a channel belong together after the calls of a run. -/
structure Consistent (calls : List (Call Channel Input)) (channel : Channel) : Prop where
  sealed_iff : channel.protection.isSealed = true ↔ channel.state.isConnected = true
  handshake_iff : channel.handshake.isSome = true ↔ channel.isChallenging = true
  credentials_iff : channel.credentials = none ↔ channel.state = .disconnected
  unrejected : channel.rejection = none
  /-- A key waits only for the answer to the peer's proof to be written out. -/
  pending : ∀ key, channel.pendingKey = some key → channel.isChallenging = true ∧
    ∃ response package, response.id = .challengePhoneResponse ∧ channel.inFlight = some response ∧
      channel.link.line.sending = some package ∧ package.message = response.toBytes ∧
      package.pending ≠ []
  spoken : channel.isChallenging = true → ∀ package, channel.link.line.sending = some package →
    ∃ message, channel.inFlight = some message ∧ package.message = message.toBytes
  sealing : channel.state.isConnected = true → ∀ package, channel.link.line.sending = some package →
    ∃ message context, channel.inFlight = some message ∧
      package.message = (context.encrypt message.toBytes).1 ∧
      ∃ call ∈ calls, call.input = .send message ∧ call.before.protection = .sealed context

private theorem pending_of_lawful (lawful : Lawful defaultMtu channel) {key : Block}
    (held : channel.pendingKey = some key) : channel.isChallenging = true ∧
    ∃ response package, response.id = .challengePhoneResponse ∧ channel.inFlight = some response ∧
      channel.link.line.sending = some package ∧ package.message = response.toBytes ∧
      package.pending ≠ [] := by
  cases lawful with
  | proving handset credentials default limit begun underway pending =>
    obtain ⟨busy, response, flying, kind⟩ := pending key held
    obtain ⟨package, sending⟩ := Option.isSome_iff_exists.mp busy
    obtain ⟨alive, message, same, carried⟩ := underway package sending
    cases flying.symm.trans same
    exact ⟨rfl, response, package, kind, flying, sending, carried, alive.unfinished⟩
  | _ => cases held

private theorem spoken_of_lawful (lawful : Lawful defaultMtu channel)
    (challenging : channel.isChallenging = true) {package : Package}
    (sending : channel.link.line.sending = some package) :
    ∃ message, channel.inFlight = some message ∧ package.message = message.toBytes := by
  cases lawful with
  | proving handset credentials default limit begun underway pending => exact (underway package sending).2
  | _ => cases challenging

private theorem sealing_of_traced {calls : List (Call Channel Input)} (traced : Traced calls channel)
    (connected : channel.state.isConnected = true) {package : Package}
    (sending : channel.link.line.sending = some package) :
    ∃ message context, channel.inFlight = some message ∧
      package.message = (context.encrypt message.toBytes).1 ∧
      ∃ call ∈ calls, call.input = .send message ∧ call.before.protection = .sealed context := by
  cases traced with
  | clear closed made => cases closed.symm.trans connected
  | sealed _ session _ _ made =>
    obtain ⟨call, member, message, flying, launch⟩ := made package sending
    obtain ⟨earlier, opening, split, _⟩ := session.opened
    obtain ⟨asked, context, keyed, carried⟩ := launch.of_connected (session.unbroken call member).1
    have listed : call ∈ calls := by
      rw [split]
      exact List.mem_append_right _ (List.mem_cons_of_mem _ member)
    exact ⟨message, context, flying, carried, call, listed, asked, keyed⟩

/-- After any inputs the fields of a channel agree with each other. -/
theorem consistent_of_run (handset : Handset) (defaultMtu : Nat) (inputs : List Input) :
    Consistent ((atRest handset defaultMtu).history inputs)
      ((atRest handset defaultMtu).run inputs).state := by
  have lawful := lawful_of_run handset defaultMtu inputs
  have traced := traced_of_run handset defaultMtu inputs
  generalize (atRest handset defaultMtu).history inputs = calls at traced ⊢
  generalize ((atRest handset defaultMtu).run inputs).state = channel at lawful traced ⊢
  refine
    { sealed_iff := ?_, handshake_iff := ?_, credentials_iff := ?_, unrejected := ?_
      pending := fun key => pending_of_lawful lawful
      spoken := fun challenging package => spoken_of_lawful lawful challenging
      sealing := fun connected package => sealing_of_traced traced connected }
  · have agree : channel.protection.isSealed = channel.state.isConnected := by cases lawful <;> rfl
    rw [agree]
  · have agree : channel.handshake.isSome = channel.isChallenging := by cases lawful <;> rfl
    rw [agree]
  · cases lawful <;> simp [atRest, dialling, settling, proving, secured, new]
  · cases lawful <;> rfl

end PhoneKey.Channel
