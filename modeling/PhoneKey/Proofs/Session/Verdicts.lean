import PhoneKey.Proofs.Channel.Verdicts

/-! # Why the handshake of a session failed

A session ends its channel because the user asked for it or because the peer fell silent, and hands it no
other cause. So whatever is published under a session about a handshake that failed was found by the
channel itself.
-/

namespace PhoneKey

namespace Session

variable {defaultMtu now : Nat} {session : Session} {turn : SessionTurn} {cause : Option HandshakeError}

private theorem genuine_of_quiet (quiet : Quiet turn)
    (told : cause ∈ handshakeFailures (connectionChanges turn.effects)) : IsGenuine cause := by
  rw [connectionChanges_of_quiet quiet] at told
  cases told

private theorem genuine_absorb (settled : Settled defaultMtu session) (lower : Channel.Input)
    (unsent : ∀ message, lower ≠ .send message)
    (unhanded : ∀ detail, lower ≠ .close (.protocol (.handshakeFailed (some detail))))
    (told : cause ∈ handshakeFailures
      (connectionChanges (session.absorb now (session.channel.act lower)).effects)) :
    IsGenuine cause := by
  rw [connectionChanges_absorb settled ⟨lower, unsent, rfl⟩] at told
  exact settled.lawful.genuine unhanded told

private theorem genuine_tick (settled : Settled defaultMtu session)
    (told : cause ∈ handshakeFailures (connectionChanges (session.tick now).effects)) :
    IsGenuine cause := by
  cases connected : session.state.isConnected with
  | false =>
    simp only [tick, connected] at told
    exact genuine_of_quiet (quiet_idle session) told
  | true =>
    simp only [tick, connected, if_true] at told
    split at told
    · have checked : Settled defaultMtu { session with checkTimer := (session.checkTimer.poll now).2 } :=
        settled.of_connected connected rfl rfl
      exact genuine_absorb checked (.close (.protocol .heartbeatTimedOut)) (by simp) (by simp) told
    · split at told
      · exact genuine_of_quiet (serving_serve _).quiet told
      · exact genuine_of_quiet (quiet_idle _) told

theorem genuine_act (settled : Settled defaultMtu session) (input : Input)
    (told : cause ∈ handshakeFailures (connectionChanges (session.act input).effects)) :
    IsGenuine cause := by
  obtain ⟨now, action⟩ := input
  cases action with
  | connect credentials =>
    simp only [act, connect] at told
    split at told
    · exact genuine_absorb settled (.connect credentials) (by simp) (by simp) told
    · exact genuine_of_quiet (quiet_idle session) told
  | disconnect => exact genuine_absorb settled (.close .userRequested) (by simp) (by simp) told
  | requestGrant grant => exact genuine_of_quiet (quiet_requestGrant session grant) told
  | radioEvent event => exact genuine_absorb settled (.radioEvent event) (by simp) (by simp) told
  | confirm result => exact genuine_absorb settled (.confirm result) (by simp) (by simp) told
  | receive result => exact genuine_absorb settled (.receive result) (by simp) (by simp) told
  | tick => exact genuine_tick settled told

/-- The channel under a session publishes only causes that it found. -/
theorem genuine_of_run (handset : Handset) (defaultMtu : Nat) (config : Config) (inputs : List Input)
    (told : cause ∈ handshakeFailures
      (channelChanges ((fresh handset defaultMtu config).run inputs).effects)) : IsGenuine cause := by
  induction inputs using List.reverseRecOn with
  | nil => cases told
  | append_singleton inputs input ih =>
    have settled := settled_of_run handset defaultMtu config inputs
    have mirrored := ((act_moves settled input).tells settled).mirrored
    rw [run, Turn.effects_forEach_concat, channelChanges_append, handshakeFailures, List.filterMap_append,
      List.mem_append] at told
    rcases told with earlier | latest
    · exact ih earlier
    · exact genuine_act settled input (mirrored ▸ latest)

end Session

/-- In every run of a channel each call names a cause only if it was handed down with the call or is what is
wrong with the peer's response, and the places that would name another are never reached. Under a session
no cause is handed down. -/
theorem verdicts_of_runs (handset : Handset) (defaultMtu : Nat) :
    (∀ inputs, ∀ call ∈ (Channel.atRest handset defaultMtu).history inputs,
        Channel.Justified call.before call.input) ∧
      ∀ config inputs, ∀ cause ∈ handshakeFailures
        (channelChanges ((Session.fresh handset defaultMtu config).run inputs).effects), IsGenuine cause :=
  ⟨fun _ _ made => Channel.justified_of_mem_history made,
    fun config inputs _ told => Session.genuine_of_run handset defaultMtu config inputs told⟩

/-- A peer that draws zeros answers with two blocks of zeros, which prove nothing. It is rejected for that
although the rejection cannot be written. -/
example : handshakeFailures (channelChanges ((Channel.atRest (Channel.zeroHandset 2) 200).run
    (Channel.zeroInputs.dropLast ++
      [.receive (.ok ([0x30, 0, 33, 0, 0x02] ++ Block.zero.toList ++ Block.zero.toList))])).effects) =
    [some .responseDoNotMatch] := by decide +kernel

end PhoneKey
