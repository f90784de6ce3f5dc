import PhoneKey.Proofs.Channel.Writes

/-! # No session without proof of the key

A session is established only by the call that completes the phone's answer to the peer's proof. Between
the choice of the nonce and that call nothing chooses a nonce again, so the proof answers the nonce at
hand, and the key that waits for the answer to be written is made of the nonces of this very exchange.
-/

namespace PhoneKey.Channel

variable {defaultMtu : Nat} {channel : Channel} {input : Input} {turn : Turn Channel ChannelReport}

/-- The credentials that a call presents, unless it is ignored. -/
def accepted? (call : Call Channel Input) : Option Credentials :=
  match call.input with
  | .connect credentials =>
    if admits call.before.state credentials.token.sorcId then some credentials else none
  | _ => none

/-- The credentials that were accepted last. -/
def lastAccepted? (calls : List (Call Channel Input)) : Option Credentials :=
  (calls.filterMap accepted?).getLast?

/-- The calls of a run since the phone chose its nonce for the last time. -/
structure ChosenSince (calls since : List (Call Channel Input)) (nonce : Block) : Prop where
  chosen : ∃ earlier choosing, calls = earlier ++ choosing :: since ∧
    choosing.before.Chooses choosing.input ∧
    choosing.before.link.handset.drawNonce.1 = nonce ∧
    (choosing.before.act choosing.input).state.handshake.map Handshake.nonce = some nonce
  kept : ∀ call ∈ since, ¬ call.before.Chooses call.input

/-- A call in which the blocks of a peer's answer arrive while the handshake runs. -/
def Hears (call : Call Channel Input) (b1 b2 : Block) : Prop :=
  call.before.isChallenging = true ∧ ∃ raw data line rest, call.input = .receive (.ok raw) ∧
    call.before.link.line.receive raw = (.ok (some data), line) ∧
    Message.ofBytes data = ⟨.challengeSorcResponse, b1.toList ++ b2.toList ++ rest⟩

/-- What the calls of a run tell about the handshake and the key that waits. -/
structure Evidenced (calls : List (Call Channel Input)) (channel : Channel) : Prop where
  presented : ∀ credentials, channel.credentials = some credentials →
    lastAccepted? calls = some credentials
  chosen : ∀ handshake, channel.handshake = some handshake →
    ∃ since, ChosenSince calls since handshake.nonce ∧
      ∀ key, channel.pendingKey = some key → ∃ b1 b2,
        b2 = handshake.cipher.encrypt (handshake.nonce.rotate.xor b1) ∧
        key = Handshake.sessionKey (handshake.sorcNonce b1) handshake.nonce ∧
        channel.inFlight = some (handshake.response b1 b2) ∧ ∃ heard ∈ since, Hears heard b1 b2

/-- Only an accepted request to connect presents credentials. -/
theorem Transition.credentials {credentials : Credentials}
    (transition : Transition defaultMtu channel input turn) (other : ∀ given, input ≠ .connect given)
    (held : turn.state.credentials = some credentials) : channel.credentials = some credentials := by
  cases transition with
  | dials => exact absurd rfl (other _)
  | redials => exact absurd rfl (other _)
  | asksInVain => cases held
  | ends => cases held
  | breaksOff => cases held
  | opensInVain => cases held
  | givesUp => cases held
  | _ => exact held

/-- What becomes of the handshake and the waiting key in a call that leaves a handshake behind. -/
inductive HandshakeMove (channel : Channel) (input : Input) (next : Channel) (handshake : Handshake) : Prop
  | chosen (chooses : channel.Chooses input) (drawn : channel.link.handset.drawNonce.1 = handshake.nonce)
      (keyless : next.pendingKey = none)
  | kept (quiet : ¬ channel.Chooses input) (same : channel.handshake = some handshake)
      (waiting : ∀ key, next.pendingKey = some key →
        channel.pendingKey = some key ∧ next.inFlight = channel.inFlight)
  | answered {b1 b2 : Block} (quiet : ¬ channel.Chooses input) (same : channel.handshake = some handshake)
      (heard : Hears ⟨channel, input⟩ b1 b2)
      (proof : b2 = handshake.cipher.encrypt (handshake.nonce.rotate.xor b1))
      (waiting : next.pendingKey = some (Handshake.sessionKey (handshake.sorcNonce b1) handshake.nonce))
      (flying : next.inFlight = some (handshake.response b1 b2))

private theorem Transition.handshake {handshake : Handshake} (lawful : Lawful defaultMtu channel)
    (transition : Transition defaultMtu channel input turn)
    (held : turn.state.handshake = some handshake) :
    HandshakeMove channel input turn.state handshake := by
  cases transition with
  | idle quiet => exact .kept quiet held fun key waits => ⟨waits, rfl⟩
  | unconnected => exact .kept (not_chooses nofun) held fun key waits => ⟨waits, rfl⟩
  | dials => cases held
  | redials => cases held
  | asks => cases held
  | asksInVain => cases held
  | ends => cases held
  | proceeds => exact .kept (not_chooses nofun) held fun key waits => ⟨waits, rfl⟩
  | breaksOff => cases held
  | collects listening received quiet => exact .kept quiet held fun key waits => ⟨waits, rfl⟩
  | waits confirmed closed keyless =>
    refine .kept (not_chooses nofun) held ?_
    intro key waits
    cases keyless.symm.trans waits
  | opens received kind told limit spoken taken =>
    cases held
    exact .chosen ⟨_, _, _, rfl, received, .inl ⟨rfl, kind⟩⟩ rfl rfl
  | opensInVain => cases held
  | replies received reply spoken taken =>
    subst spoken
    cases held
    have keyless := keyless_of_taken lawful received taken
    cases reply with
    | pushes kind readable =>
      refine .kept (not_chooses_of_other received rfl kind) rfl ?_
      intro key waits
      cases keyless.symm.trans waits
    | renews kind => exact .chosen ⟨_, _, _, rfl, received, .inr ⟨rfl, kind⟩⟩ rfl keyless
    | answers kind read proof =>
      obtain ⟨rest, payload⟩ := Payload.eq_of_sorcResponse read
      refine .answered (not_chooses_of_other received rfl ?_) rfl
        ⟨rfl, _, _, _, rest, rfl, received, ?_⟩ proof rfl rfl
      · intro acknowledged
        cases kind.symm.trans acknowledged
      · rw [← kind, ← payload]
  | givesUp => cases held
  | establishes => cases held
  | seals => cases held
  | refuses => cases held
  | delivers => cases held
  | loses => cases held
  | declines => cases held
  | hears => cases held
  | mishears => cases held

theorem credentials_connect {credentials : Credentials} (lawful : Lawful defaultMtu channel)
    (admitted : admits channel.state credentials.token.sorcId = true) :
    (channel.connect credentials).state.credentials = some credentials := by
  cases lawful with
  | atRest handset => rfl
  | @dialling handset earlier =>
    have same : earlier.token.sorcId = credentials.token.sorcId := by
      simpa [admits, dialling, ConnectionState.isDisconnected, ConnectionState.isAt] using admitted
    rw [connect_dialling handset same]
    rfl
  | settling => simp [admits, settling, ConnectionState.isDisconnected, ConnectionState.isAt] at admitted
  | proving => simp [admits, proving, ConnectionState.isDisconnected, ConnectionState.isAt] at admitted
  | secured => simp [admits, secured, ConnectionState.isDisconnected, ConnectionState.isAt] at admitted

/-- An accepted request replaces the credentials, and any other call keeps or drops them. -/
theorem presented_of_act {calls : List (Call Channel Input)} (lawful : Lawful defaultMtu channel)
    (presented : ∀ credentials, channel.credentials = some credentials →
      lastAccepted? calls = some credentials) {credentials : Credentials}
    (held : (channel.act input).state.credentials = some credentials) :
    lastAccepted? (calls ++ [⟨channel, input⟩]) = some credentials := by
  have ignored (nothing : accepted? ⟨channel, input⟩ = none)
      (same : channel.credentials = some credentials) :
      lastAccepted? (calls ++ [⟨channel, input⟩]) = some credentials := by
    simpa [lastAccepted?, List.filterMap_append, nothing] using presented credentials same
  have transition := act_transition lawful input
  cases input with
  | connect given =>
    cases admitted : admits channel.state given.token.sorcId with
    | true =>
      cases (credentials_connect lawful admitted).symm.trans held
      simp [lastAccepted?, List.filterMap_append, accepted?, admitted]
    | false =>
      refine ignored (by simp [accepted?, admitted]) ?_
      have idle : channel.connect given = .idle channel := by simp [connect, admitted]
      exact (congrArg (fun turn => turn.state.credentials) idle).symm.trans held
  | _ => exact ignored rfl (transition.credentials (by simp) held)

theorem ChosenSince.concat {calls since : List (Call Channel Input)} {nonce : Block}
    (chosen : ChosenSince calls since nonce) (quiet : ¬ channel.Chooses input) :
    ChosenSince (calls ++ [⟨channel, input⟩]) (since ++ [⟨channel, input⟩]) nonce := by
  obtain ⟨earlier, choosing, split, chooses, drawn, held⟩ := chosen.chosen
  refine ⟨⟨earlier, choosing, by simp [split], chooses, drawn, held⟩, ?_⟩
  intro call member
  rcases List.mem_append.mp member with member | member
  · exact chosen.kept call member
  · cases List.mem_singleton.mp member
    exact quiet

/-- One more call keeps the evidence for the waiting key. -/
theorem Evidenced.act {calls : List (Call Channel Input)} (evidenced : Evidenced calls channel)
    (lawful : Lawful defaultMtu channel) (input : Input) :
    Evidenced (calls ++ [⟨channel, input⟩]) (channel.act input).state := by
  refine ⟨fun credentials => presented_of_act lawful evidenced.presented, ?_⟩
  intro handshake held
  cases (act_transition lawful input).handshake lawful held with
  | chosen chooses drawn keyless =>
    have fresh : ChosenSince (calls ++ [⟨channel, input⟩]) [] handshake.nonce :=
      ⟨⟨calls, ⟨channel, input⟩, rfl, chooses, drawn, by rw [held]; rfl⟩, by simp⟩
    refine ⟨[], fresh, ?_⟩
    intro key waits
    cases keyless.symm.trans waits
  | kept quiet same waiting =>
    obtain ⟨since, chosen, proofs⟩ := evidenced.chosen handshake same
    refine ⟨_, chosen.concat quiet, ?_⟩
    intro key waits
    obtain ⟨waited, still⟩ := waiting key waits
    obtain ⟨b1, b2, proof, derived, flying, heard, member, hears⟩ := proofs key waited
    exact ⟨b1, b2, proof, derived, still.trans flying, heard, List.mem_append_left _ member, hears⟩
  | @answered b1 b2 quiet same heard proof waiting flying =>
    obtain ⟨since, chosen, _⟩ := evidenced.chosen handshake same
    refine ⟨_, chosen.concat quiet, ?_⟩
    intro key waits
    cases waiting.symm.trans waits
    exact ⟨b1, b2, proof, rfl, flying, ⟨channel, input⟩, by simp, heard⟩

theorem evidenced_of_run (handset : Handset) (defaultMtu : Nat) (inputs : List Input) :
    Evidenced ((atRest handset defaultMtu).history inputs)
      ((atRest handset defaultMtu).run inputs).state := by
  apply lawful_run_induction (motive := Evidenced)
  · exact ⟨nofun, nofun⟩
  · intro calls channel input lawful evidenced
    exact evidenced.act lawful input

/-- Whether a change of the channel's state is published in a turn. -/
def Publishes (turn : Turn Channel ChannelReport) (change : SessionChange) : Prop :=
  .connectionChanged change ∈ turn.reports ∨ .announce (.channel change) ∈ turn.effects

private theorem reason_ne_established {Stage : Type} (cause : EndCause) (ended established : Uuid) :
    cause.reason ended ≠ (.established established : ConnectionReason Stage) := by
  simp only [EndCause.reason]
  split <;> simp

/-- The end of a connection establishes nothing. -/
theorem not_established_of_ended {handset : Handset} {sorcId other : Uuid} {cause : EndCause}
    {lower first : List Effect} {change : SessionChange}
    (quiet : .announce (.channel change) ∉ first ++ lower)
    (published : Publishes ((ended handset defaultMtu sorcId cause lower).after first) change) :
    change.reason ≠ .established other := by
  have same : change = ⟨.disconnected, cause.reason sorcId⟩ := by
    simp only [List.mem_append, not_or] at quiet
    simpa [Publishes, ended, Turn.after, quiet] using published
  rw [same]
  exact reason_ne_established cause sorcId other

/-- Only the call that completes the answer to a proof establishes a session. -/
theorem Transition.established {change : SessionChange} {sorcId : Uuid}
    (transition : Transition defaultMtu channel input turn) (published : Publishes turn change)
    (established : change.reason = .established sorcId) :
    ∃ handset line next credentials handshake key inFlight message,
      channel = proving handset line credentials handshake (some key) inFlight ∧
      input = .confirm (.ok ()) ∧ line.confirm = (.complete message, next) ∧
      turn.state = secured handset next credentials (.new key .toSorc) none := by
  cases transition with
  | establishes confirmed => exact ⟨_, _, _, _, _, _, _, _, rfl, rfl, confirmed, rfl⟩
  | @dials handset credentials =>
    obtain rfl : change = ⟨.connecting credentials.token.sorcId .physical,
      .entered credentials.token.sorcId .physical⟩ := by simpa [Publishes] using published
    cases established
  | @asks handset credentials offered asked taken =>
    have quiet := Link.no_news_of_offered asked (.channel change)
    obtain rfl : change = ⟨.connecting credentials.token.sorcId .transport,
      .entered credentials.token.sorcId .transport⟩ := by simpa [Publishes, quiet] using published
    cases established
  | @asksInVain handset credentials offered cause asked refused =>
    have quiet := Link.no_news_of_offered asked (.channel change)
    obtain rfl | rfl : change = ⟨.connecting credentials.token.sorcId .transport,
          .entered credentials.token.sorcId .transport⟩ ∨
        change = ⟨.disconnected, .connectingFailed credentials.token.sorcId .invalidMtuResponse⟩ := by
      simpa [Publishes, quiet, linkEndEffects] using published
    · cases established
    · cases established
  | ends grounds =>
    have quiet : Effect.announce (.channel change) ∉ [] ++ _ := grounds.no_news change
    exact absurd established (not_established_of_ended quiet published)
  | breaksOff confirmed closed grounds =>
    refine absurd established (not_established_of_ended ?_ published)
    simpa using grounds.no_news change
  | @opens handset line next credentials raw data mtu offered received kind told limit spoken taken =>
    have quiet := Link.no_news_of_offered spoken (.channel change)
    obtain rfl : change = ⟨.connecting credentials.token.sorcId .challenging,
      .entered credentials.token.sorcId .challenging⟩ := by
      simpa [Publishes, quiet, openingEffects] using published
    cases established
  | @opensInVain handset line next credentials raw data mtu offered cause received spoken refused =>
    have quiet := Link.no_news_of_offered spoken (.channel change)
    obtain rfl | rfl : change = ⟨.connecting credentials.token.sorcId .challenging,
          .entered credentials.token.sorcId .challenging⟩ ∨
        change = ⟨.disconnected, .connectingFailed credentials.token.sorcId (.handshakeFailed none)⟩ := by
      simpa [Publishes, quiet, openingEffects, hangUpEffects] using published
    · cases established
    · cases established
  | @givesUp _ _ _ _ _ _ _ _ _ _ _ offered _ received kind spoken =>
    have quiet := Link.no_news_of_offered spoken (.channel change)
    refine absurd established (not_established_of_ended ?_ published)
    simpa [hangUpEffects] using quiet
  | @replies _ _ _ _ _ _ _ _ _ _ _ _ _ offered received reply spoken taken =>
    have quiet := Link.no_news_of_offered spoken (.channel change)
    simp [Publishes, quiet] at published
  | @seals _ _ _ _ _ _ offered spoken taken =>
    have quiet := Link.no_news_of_offered spoken (.channel change)
    simp [Publishes, quiet] at published
  | @refuses _ _ _ _ _ _ offered _ spoken refused =>
    have quiet := Link.no_news_of_offered spoken (.channel change)
    simp [Publishes, quiet] at published
  | _ => simp [Publishes, Turn.idle, Turn.report] at published

/-- What the establishment of a session by a call rests on: since the phone last chose its nonce the peer
has proved that it holds the key of the credentials accepted last, the call completes the phone's answer,
and the session is sealed under the key that both nonces make. -/
def RestsOnProof (calls : List (Call Channel Input)) (call : Call Channel Input) : Prop :=
  ∃ credentials since phoneNonce sorcNonce b1 b2,
    lastAccepted? calls = some credentials ∧ ChosenSince calls since phoneNonce ∧
    (∃ heard ∈ since, Hears heard b1 b2) ∧
    b2 = (Aes.Cipher.ofKey credentials.token.key).encrypt (phoneNonce.rotate.xor b1) ∧
    sorcNonce = ((Aes.Cipher.ofKey credentials.token.key).decrypt b1).xor
      ((Aes.Cipher.ofKey credentials.token.key).encrypt phoneNonce) ∧
    call.input = .confirm (.ok ()) ∧
    call.before.link.line.confirm.1 = .complete (Message.toBytes ⟨.challengePhoneResponse,
      ((Aes.Cipher.ofKey credentials.token.key).encrypt (sorcNonce.rotate.xor b2)).toList⟩) ∧
    (call.before.act call.input).state.protection =
      .sealed ⟨Handshake.sessionKey sorcNonce phoneNonce, .zero, .zero, .toSorc⟩

/-- No session is established without proof of the key. -/
theorem restsOnProof_of_established (handset : Handset) (defaultMtu : Nat) (inputs : List Input)
    (input : Input) {change : SessionChange} {sorcId : Uuid}
    (published : Publishes (((atRest handset defaultMtu).run inputs).state.act input) change)
    (established : change.reason = .established sorcId) :
    RestsOnProof ((atRest handset defaultMtu).history inputs)
      ⟨((atRest handset defaultMtu).run inputs).state, input⟩ := by
  have lawful := lawful_of_run handset defaultMtu inputs
  have evidenced := evidenced_of_run handset defaultMtu inputs
  generalize (atRest handset defaultMtu).history inputs = calls at evidenced ⊢
  generalize ((atRest handset defaultMtu).run inputs).state = channel at lawful evidenced published ⊢
  obtain ⟨handset, line, next, credentials, handshake, key, inFlight, message, rfl, asked, confirmed,
      after⟩ :=
    (act_transition lawful input).established published established
  obtain ⟨_, _, begun, underway, _⟩ := lawful_proving_iff.mp lawful
  obtain ⟨nonce, rfl⟩ : ∃ nonce, handshake = (Handshake.new credentials.token nonce).start.2 := ⟨_, begun⟩
  obtain ⟨since, chosen, proofs⟩ := evidenced.chosen _ rfl
  obtain ⟨b1, b2, proof, derived, flying, heard⟩ := proofs key rfl
  obtain ⟨package, sending, carried, _⟩ := Line.confirm_eq_complete confirmed
  obtain ⟨_, response, same, spoken⟩ := underway package sending
  cases flying.symm.trans same
  have written : line.confirm.1 = .complete
      ((Handshake.new credentials.token nonce).start.2.response b1 b2).toBytes := by
    rw [confirmed, ← carried, spoken]
  refine ⟨credentials, since, nonce, _, b1, b2, evidenced.presented credentials rfl, chosen, heard, proof,
    rfl, asked, written, ?_⟩
  rw [after, derived]
  rfl

theorem restsOnProof_zeroInputs :
    Publishes (((atRest (zeroHandset 8) 200).run zeroInputs).state.act (.confirm (.ok ())))
        ⟨.connected ⟨.zero⟩, .established ⟨.zero⟩⟩ ∧
      RestsOnProof ((atRest (zeroHandset 8) 200).history zeroInputs)
        ⟨((atRest (zeroHandset 8) 200).run zeroInputs).state, .confirm (.ok ())⟩ := by
  have published : Publishes (((atRest (zeroHandset 8) 200).run zeroInputs).state.act (.confirm (.ok ())))
      ⟨.connected ⟨.zero⟩, .established ⟨.zero⟩⟩ := .inr (by decide +kernel)
  exact ⟨published, restsOnProof_of_established _ _ _ _ published rfl⟩

end PhoneKey.Channel
