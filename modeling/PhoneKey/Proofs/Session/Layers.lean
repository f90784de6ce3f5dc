import PhoneKey.Proofs.Session.Calls

/-! # Layers in step

Session, channel and link each keep a connection state of their own and learn of each other from
reports alone. After every call the three states stand for the same phase of a connection to the same
peer.
-/

namespace PhoneKey

/-- The phases of a connection, as the channel and its link count them. -/
inductive InStep : SessionState → LinkState → Prop
  | disconnected : InStep .disconnected .disconnected
  | dialling (sorcId : Uuid) : InStep (.connecting sorcId .physical) (.connecting sorcId .physical)
  | settling (sorcId : Uuid) : InStep (.connecting sorcId .transport) (.connecting sorcId .requestingMtu)
  | proving (sorcId : Uuid) : InStep (.connecting sorcId .challenging) (.connected sorcId)
  | secured (sorcId : Uuid) : InStep (.connected sorcId) (.connected sorcId)

/-- A lawful channel is in the phase of its link. -/
theorem Channel.Lawful.inStep {defaultMtu : Nat} {channel : Channel} (lawful : Lawful defaultMtu channel) :
    InStep channel.state channel.link.state := by
  cases lawful with
  | atRest handset => exact .disconnected
  | dialling handset credentials => exact .dialling _
  | settling handset credentials default underway => exact .settling _
  | proving handset credentials default limit begun underway pending => exact .proving _
  | secured handset credentials default limit underway => exact .secured _

namespace Session

/-- After any inputs, whatever the radio answers, the session is in the state of its channel and the
channel is in the phase of its link. -/
theorem inStep_of_run (handset : Handset) (defaultMtu : Nat) (config : Config) (inputs : List Input) :
    ((fresh handset defaultMtu config).run inputs).state.state =
        ((fresh handset defaultMtu config).run inputs).state.channel.state ∧
      InStep ((fresh handset defaultMtu config).run inputs).state.channel.state
        ((fresh handset defaultMtu config).run inputs).state.channel.link.state := by
  have settled := settled_of_run handset defaultMtu config inputs
  exact ⟨settled.agrees, settled.lawful.inStep⟩

end Session

end PhoneKey
