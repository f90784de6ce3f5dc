import PhoneKey.Proofs.Channel.Reachable

/-! # News of a channel

What a lawful channel reports in one call is determined up to a few shapes by its states before and
after the call. The layer above learns of the channel from these reports alone.
-/

namespace PhoneKey.Channel

/-- Stages of an attempt that follow each other, with the reason that is published. -/
inductive Advance : SessionState → SessionState → SessionReason → Prop
  | dials (sorcId : Uuid) :
      Advance .disconnected (.connecting sorcId .physical) (.entered sorcId .physical)
  | reaches (sorcId : Uuid) :
      Advance (.connecting sorcId .physical) (.connecting sorcId .transport) (.entered sorcId .transport)
  | opens (sorcId : Uuid) : Advance (.connecting sorcId .transport) (.connecting sorcId .challenging)
      (.entered sorcId .challenging)

theorem Advance.closed {before after : SessionState} {reason : SessionReason}
    (advance : Advance before after reason) : before.isConnected = false := by
  cases advance <;> rfl

theorem Advance.engaged {before after : SessionState} {reason : SessionReason} {sorcId : Uuid}
    (advance : Advance before after reason) (engaged : before.sorcId? = some sorcId) :
    after.sorcId? = some sorcId := by
  cases advance with
  | dials other => cases engaged
  | reaches other => exact engaged
  | opens other => exact engaged

/-- What is reported when a channel goes from one state to another in a call. -/
inductive News : SessionState → SessionState → List ChannelReport → Prop
  | nothing (state : SessionState) : News state state []
  | advances {before after : SessionState} {reason : SessionReason}
      (advance : Advance before after reason) :
      News before after [.connectionChanged ⟨after, reason⟩]
  | establishes (sorcId : Uuid) : News (.connecting sorcId .challenging) (.connected sorcId)
      [.connectionChanged ⟨.connected sorcId, .established sorcId⟩]
  | ends {before : SessionState} {sorcId : Uuid} (engaged : before.sorcId? = some sorcId)
      (cause : EndCause) : News before .disconnected [.connectionChanged ⟨.disconnected, cause.reason sorcId⟩]
  /-- The next stage is entered in vain. -/
  | recoils {before entered : SessionState} {reason : SessionReason} {sorcId : Uuid}
      (advance : Advance before entered reason) (engaged : before.sorcId? = some sorcId)
      (failure : ConnectFailure) :
      News before .disconnected [.connectionChanged ⟨entered, reason⟩,
        .connectionChanged ⟨.disconnected, .connectingFailed sorcId failure⟩]
  | sent (sorcId : Uuid) (result : Except ChannelError Message) :
      News (.connected sorcId) (.connected sorcId) [.messageSent result]
  | received (sorcId : Uuid) (result : Except ChannelError Message) :
      News (.connected sorcId) (.connected sorcId) [.messageReceived result]

variable {defaultMtu : Nat} {channel : Channel} {input : Input} {turn : Turn Channel ChannelReport}

private theorem Grounds.engaged {sorcId : Uuid} {cause : EndCause} {lower : List Effect}
    (grounds : Grounds channel input sorcId cause lower) : channel.state.sorcId? = some sorcId := by
  cases grounds with
  | asked cause engaged => exact engaged
  | radio engaged phase => exact engaged
  | limit handset line credentials input => rfl
  | handshake handset line credentials handshake pendingKey inFlight input cause => rfl
  | outdated handset line credentials handshake pendingKey inFlight input => rfl

/-- The reports of a transition have one of the shapes, but for a message that was to be sent without a
connection. -/
theorem Transition.news (transition : Transition defaultMtu channel input turn)
    (allowed : ∀ message, input = .send message → channel.state.isConnected = true) :
    News channel.state turn.state.state turn.reports := by
  cases transition with
  | idle quiet => exact .nothing _
  | unconnected message closed => cases closed.symm.trans (allowed message rfl)
  | dials handset credentials => exact .advances (.dials _)
  | @redials handset earlier credentials same =>
    simp only [dialling, same]
    exact .nothing _
  | asks asked taken => exact .advances (.reaches _)
  | asksInVain asked refused => exact .recoils (.reaches _) rfl _
  | ends grounds => exact .ends grounds.engaged _
  | proceeds confirmed => exact .nothing _
  | breaksOff confirmed closed grounds => exact .ends grounds.engaged _
  | collects listening received quiet => exact .nothing _
  | waits confirmed closed keyless => exact .nothing _
  | opens received kind told limit spoken taken => exact .advances (.opens _)
  | opensInVain received spoken refused => exact .recoils (.opens _) rfl _
  | replies received reply spoken taken => exact .nothing _
  | givesUp received kind spoken => exact .ends rfl _
  | establishes confirmed => exact .establishes _
  | seals spoken taken => exact .nothing _
  | refuses spoken refused => exact .sent _ _
  | delivers confirmed => exact .sent _ _
  | loses cause sending => exact .sent _ _
  | declines confirmed => exact .sent _ _
  | hears received unprotected => exact .received _ _
  | mishears cause result kept => exact .received _ _

/-- What a lawful channel reports in a call. -/
theorem Lawful.news (lawful : Lawful defaultMtu channel)
    (allowed : ∀ message, input = .send message → channel.state.isConnected = true) :
    News channel.state (channel.act input).state.state (channel.act input).reports :=
  (act_transition lawful input).news allowed

/-- Only what the radio received is reported as received. -/
theorem Transition.receives (transition : Transition defaultMtu channel input turn)
    {result : Except ChannelError Message} (told : turn.reports = [.messageReceived result]) :
    ∃ raw, input = .receive raw := by
  cases transition with
  | hears received unprotected => exact ⟨_, rfl⟩
  | mishears cause raw kept => exact ⟨raw, rfl⟩
  | breaksOff confirmed closed grounds => simp [ended, Turn.after] at told
  | givesUp received kind spoken => simp [ended, Turn.after] at told
  | _ => simp [Turn.idle, Turn.report, ended] at told

/-- A message that is given to an established channel is sent, or it is reported as refused. -/
theorem act_send_of_connected (connected : channel.state.isConnected = true) (message : Message) :
    channel.act (.send message) =
      ⟨(channel.offer message).channel,
        ((channel.offer message).refusal.map fun cause =>
          ChannelReport.messageSent (.error (.link cause))).toList,
        (channel.offer message).effects⟩ := by
  have sent : channel.act (.send message) = channel.transmit message := by
    rw [act, send, if_pos connected]
  have kept : (channel.offer message).channel.state = channel.state := rfl
  rw [sent, transmit]
  cases outcome : (channel.offer message).refusal with
  | none => simp
  | some cause =>
    cases state : channel.state with
    | connected sorcId =>
      simp only [sendFailed_of_connected (kept.trans state), Turn.after_report, Option.map_some,
        Option.toList_some]
    | disconnected => rw [state] at connected; cases connected
    | connecting sorcId stage => rw [state] at connected; cases connected

end PhoneKey.Channel
