import PhoneKey.Proofs.Channel.Steps
import PhoneKey.Proofs.Frame

/-! # Progress of an attempt

What a channel does while nothing goes wrong: the radio takes every write, packages are written out frame
by frame, and messages of the peer come in whole.
-/

namespace PhoneKey

namespace Payload

private theorem toNat_lt_capacity (counter : UInt32) : counter.toNat < Bytes.capacity 4 :=
  counter.toNat_lt

/-- A counter is read from a rejection as it was written. -/
theorem rejectedCounter?_bigEndian (first : UInt8) (counter : UInt32) :
    rejectedCounter? (first :: Bytes.bigEndian 4 counter.toNat) = some counter := by
  have read : rejectedCounter? (first :: Bytes.bigEndian 4 counter.toNat) =
      some (UInt32.ofNat (Bytes.ofBigEndian (Bytes.bigEndian 4 counter.toNat))) := rfl
  rw [read, Bytes.ofBigEndian_bigEndian 4 (toNat_lt_capacity counter), UInt32.ofNat_toNat]

/-- A counter is read from a request as it was written. -/
theorem blobRequestCounter_littleEndian (counter : UInt32) :
    blobRequestCounter (Bytes.littleEndian 4 counter.toNat) = counter := by
  have whole : (Bytes.littleEndian 4 counter.toNat).take 4 = Bytes.littleEndian 4 counter.toNat :=
    List.take_of_length_le (by simp)
  rw [blobRequestCounter, whole, Bytes.ofLittleEndian_littleEndian 4 (toNat_lt_capacity counter),
    UInt32.ofNat_toNat]

end Payload

/-- A device whose radio takes every write. -/
def Handset.willing (nonces : Nonces) : Handset := ⟨fun _ => true, nonces⟩

/-- A line with nothing under way. -/
def Line.resting (defaultMtu mtu : Nat) : Line := ⟨defaultMtu, mtu, none, .empty⟩

/-- A line on which the given frames of a message are still to be confirmed. -/
def Line.carrying (line : Line) (message : Bytes) (pending : List Frame) : Line :=
  { line with sending := some ⟨message, pending⟩ }

namespace Line

variable {line : Line} {message : Bytes} {frame last : Frame}

private theorem confirm_carrying (opening : List Frame) :
    (line.carrying message (frame :: (opening ++ [last]))).confirm =
      (.next (opening.headD last).toBytes, line.carrying message (opening ++ [last])) := by
  simp [confirm, carrying, Package.confirm, Package.waiting?]

private theorem confirm_last :
    (line.carrying message [last]).confirm = (.complete message, { line with sending := none }) := by
  simp [confirm, carrying, Package.confirm, Package.waiting?]

private theorem receive_leaves (leaves : frame.type.closes = false) (plain : frame.flags = 0) :
    line.receive frame.toBytes =
      (.ok none, { line with receiving := line.receiving.append frame.payload }) := by
  rw [receive, Frame.ofBytes_toBytes_of_plain plain]
  simp only [Assembler.push_of_leaves leaves]

/-- The last frame of a package completes its message. -/
theorem receive_last {opening : List Frame} (whole : Frame.Whole message opening last)
    (gathered : line.receiving = Assembler.empty.gather opening) :
    line.receive last.toBytes = (.ok (some message), { line with receiving := .empty }) := by
  rw [receive, Frame.ofBytes_toBytes_of_plain (whole.plain last (by simp))]
  simp only [gathered, Assembler.push_last whole]

end Line

/-- A free line over a willing radio takes every message that can be cut. -/
theorem Link.start_willing {line : Line} {message : Bytes} {opening : List Frame} {last : Frame}
    (nonces : Nonces) (state : LinkState) (free : line.isBusy = false)
    (cut : Frame.split message (Frame.sizeForMtu line.mtu) = .ok (opening ++ [last])) :
    Link.start ⟨.willing nonces, line, state⟩ message =
      ⟨none, ⟨.willing nonces, line.carrying message (opening ++ [last]), state⟩,
        [.radio (.write (opening.headD last).toBytes true)]⟩ := by
  have launched : line.launch message =
      .ok ((opening.headD last).toBytes, line.carrying message (opening ++ [last])) := by
    simp [Line.launch, free, Package.make, cut, Except.map, Package.waiting?, Line.carrying]
  rw [start, launched]
  exact write_of_accepts ⟨.willing nonces, line.carrying message (opening ++ [last]), state⟩ rfl _

/-- The last frame of a package has been written. -/
theorem Link.confirm_last (handset : Handset) (line : Line) (state : LinkState) (message : Bytes)
    (last : Frame) :
    Link.confirm ⟨handset, line.carrying message [last], state⟩ (.ok ()) =
      if Link.isSettling ⟨handset, { line with sending := none }, state⟩ then
        .idle ⟨handset, { line with sending := none }, state⟩
      else .report ⟨handset, { line with sending := none }, state⟩ (.dataSent (.ok message)) := by
  simp only [confirm, Line.confirm_last]
  rfl

namespace Channel

/-- A channel that runs over a line of its own and a willing radio. -/
def onLine (channel : Channel) (nonces : Nonces) (line : Line) : Channel :=
  { channel with link := ⟨.willing nonces, line, channel.link.state⟩ }

variable {channel : Channel} {line : Line} {message : Bytes} {frame last : Frame} {nonces : Nonces}

/-- The next frame of a package is written as soon as the one before it is confirmed. -/
theorem confirm_carrying (opening : List Frame) :
    (channel.onLine nonces (line.carrying message (frame :: (opening ++ [last])))).confirm (.ok ()) =
      ⟨channel.onLine nonces (line.carrying message (opening ++ [last])), [],
        [.radio (.write (opening.headD last).toBytes true)]⟩ := by
  have lower : (channel.onLine nonces (line.carrying message (frame :: (opening ++ [last])))).link.confirm
      (.ok ()) = ⟨⟨.willing nonces, line.carrying message (opening ++ [last]), channel.link.state⟩, [],
        [.radio (.write (opening.headD last).toBytes true)]⟩ := by
    have written := Link.write_of_accepts
      ⟨.willing nonces, line.carrying message (opening ++ [last]), channel.link.state⟩ rfl
      (opening.headD last).toBytes
    simp only [onLine, Link.confirm, Line.confirm_carrying, written]
    rfl
  rw [confirm, lower, absorb_silent]
  rfl

/-- A frame that leaves its package open is put to the others. -/
theorem receive_leaves (nonces : Nonces) (line : Line) (receiving : Assembler)
    (listening : channel.link.isSettling = true ∨ channel.link.state.isConnected = true)
    (leaves : frame.type.closes = false) (plain : frame.flags = 0) :
    (channel.onLine nonces { line with receiving }).receive (.ok frame.toBytes) =
      ⟨channel.onLine nonces { line with receiving := receiving.append frame.payload }, [], []⟩ := by
  have lower : (channel.onLine nonces { line with receiving }).link.receive (.ok frame.toBytes) =
      .idle ⟨.willing nonces, { line with receiving := receiving.append frame.payload },
        channel.link.state⟩ := by
    have taken := @Line.receive_leaves { line with receiving } frame leaves plain
    cases state : channel.link.state with
    | disconnected => simp [Link.isSettling, state, ConnectionState.isConnected] at listening
    | connected sorcId => simp only [onLine, Link.receive, state, taken]
    | connecting sorcId stage =>
      cases stage with
      | physical => simp [Link.isSettling, state, ConnectionState.isConnected] at listening
      | requestingMtu => simp only [onLine, Link.receive, state, taken]
  rw [receive, lower]
  exact absorb_silent _ _ _

theorem confirm_settling_last (handset : Handset) (credentials : Credentials) :
    (settling handset (line.carrying message [last]) credentials).confirm (.ok ()) =
      .idle (settling handset { line with sending := none } credentials) := by
  have lower : (settling handset (line.carrying message [last]) credentials).link.confirm (.ok ()) =
      .idle ⟨handset, { line with sending := none },
        .connecting credentials.token.sorcId .requestingMtu⟩ := Link.confirm_last _ _ _ _ _
  rw [confirm, lower]
  exact absorb_silent _ _ _

theorem confirm_proving_last (handset : Handset) (credentials : Credentials) (handshake : Handshake)
    (key : Option Block) (inFlight : Option Message) :
    (proving handset (line.carrying message [last]) credentials handshake key inFlight).confirm (.ok ()) =
      match key with
      | none => .idle (proving handset { line with sending := none } credentials handshake none none)
      | some key =>
        ⟨secured handset { line with sending := none } credentials (.new key .toSorc) none,
          [.connectionChanged ⟨.connected credentials.token.sorcId,
            .established credentials.token.sorcId⟩],
          [.announce (.channel ⟨.connected credentials.token.sorcId,
            .established credentials.token.sorcId⟩)]⟩ := by
  have lower : (proving handset (line.carrying message [last]) credentials handshake key
      inFlight).link.confirm (.ok ()) =
      .report ⟨handset, { line with sending := none }, .connected credentials.token.sorcId⟩
        (.dataSent (.ok message)) := Link.confirm_last _ _ _ _ _
  rw [confirm, lower, Turn.report, absorb_report, Turn.after_nil]
  cases key <;> rfl

/-- The last frame of a message was confirmed on a secured channel. -/
theorem confirm_secured_last (handset : Handset) (credentials : Credentials) (context : SealingContext)
    (inFlight : Option Message) (data : Bytes) :
    (secured handset (line.carrying data [last]) credentials context inFlight).confirm (.ok ()) =
      ⟨secured handset { line with sending := none } credentials context none,
        (inFlight.map fun message => .messageSent (.ok message)).toList, []⟩ := by
  have lower : (secured handset (line.carrying data [last]) credentials context inFlight).link.confirm
      (.ok ()) =
      .report ⟨handset, { line with sending := none }, .connected credentials.token.sorcId⟩
        (.dataSent (.ok data)) := Link.confirm_last _ _ _ _ _
  rw [confirm, lower, Turn.report, absorb_report, Turn.after_nil]
  cases inFlight <;> rfl

/-- A sealed message is sent over a free line. -/
theorem offer_willing {spoken : Message} {opening : List Frame} {context : SealingContext} (nonces : Nonces)
    (credentials : Credentials) (inFlight : Option Message) (free : line.isBusy = false)
    (cut : Frame.split (context.encrypt spoken.toBytes).1 (Frame.sizeForMtu line.mtu) =
      .ok (opening ++ [last])) :
    (secured (.willing nonces) line credentials context inFlight).offer spoken =
      ⟨none, secured (.willing nonces)
          (line.carrying (context.encrypt spoken.toBytes).1 (opening ++ [last])) credentials
          (context.encrypt spoken.toBytes).2 (some spoken),
        [.radio (.write (opening.headD last).toBytes true)]⟩ := by
  have started := Link.start_willing nonces (.connected credentials.token.sorcId) free cut
  have linked : (ConnectionState.connected credentials.token.sorcId : LinkState).isConnected = true := rfl
  simp only [offer, secured, Protection.protect, Link.offer, linked, if_true, started]

/-- An envelope that opens to a message is reported as that message. -/
theorem receive_secured_message {next : Line} {raw data : Bytes} {heard : Message}
    {context following : SealingContext} (handset : Handset) (credentials : Credentials)
    (inFlight : Option Message) (received : line.receive raw = (.ok (some data), next))
    (opened : context.decrypt data = .ok (heard.toBytes, following)) (valid : heard.isValid = true) :
    (secured handset line credentials context inFlight).receive (.ok raw) =
      ⟨secured handset next credentials following inFlight, [.messageReceived (.ok heard)], []⟩ := by
  have lower : (secured handset line credentials context inFlight).link.receive (.ok raw) =
      .report ⟨handset, next, .connected credentials.token.sorcId⟩ (.dataReceived (.ok data)) := by
    simp [secured, Link.receive, received]
  rw [receive, lower, Turn.report, absorb_report, Turn.after_nil]
  simp only [linkReported, dataReceived, secured, Protection.unprotect, opened, Message.ofBytes_toBytes,
    valid, if_true, Turn.report]

/-- A message of the handshake is sent over a free line. -/
theorem transmit_willing {spoken : Message} {opening : List Frame} (nonces : Nonces)
    (credentials : Credentials) (handshake : Handshake) (key : Option Block) (inFlight : Option Message)
    (free : line.isBusy = false)
    (cut : Frame.split spoken.toBytes (Frame.sizeForMtu line.mtu) = .ok (opening ++ [last])) :
    (proving (.willing nonces) line credentials handshake key inFlight).transmit spoken =
      ⟨proving (.willing nonces) (line.carrying spoken.toBytes (opening ++ [last])) credentials handshake key
          (some spoken), [],
        [.radio (.write (opening.headD last).toBytes true)]⟩ := by
  have started := Link.start_willing nonces (.connected credentials.token.sorcId) free cut
  exact @transmit_of_taken (proving (.willing nonces) line credentials handshake key inFlight) spoken _ _ _
    rfl rfl started.symm rfl

/-- The radio has reached the peer of the credentials, which is asked for its limit. -/
theorem radioEvent_reached {defaultMtu : Nat} {opening : List Frame} (nonces : Nonces)
    (credentials : Credentials)
    (cut : Frame.split limitRequest.toBytes (Frame.sizeForMtu defaultMtu) = .ok (opening ++ [last])) :
    (dialling (.willing nonces) defaultMtu credentials).radioEvent (.connected credentials.token.sorcId) =
      ⟨settling (.willing nonces)
          ((Line.resting defaultMtu defaultMtu).carrying limitRequest.toBytes (opening ++ [last]))
          credentials,
        [.connectionChanged ⟨.connecting credentials.token.sorcId .transport,
          .entered credentials.token.sorcId .transport⟩],
        [.announce (.link ⟨.connecting credentials.token.sorcId .requestingMtu,
            .entered credentials.token.sorcId .requestingMtu⟩),
          .radio (.write (opening.headD last).toBytes true),
          .announce (.channel ⟨.connecting credentials.token.sorcId .transport,
            .entered credentials.token.sorcId .transport⟩)]⟩ := by
  have asked := @Link.start_willing (.new defaultMtu) limitRequest.toBytes opening last nonces
    (.connecting credentials.token.sorcId .requestingMtu) rfl cut
  have reached : (dialling (.willing nonces) defaultMtu credentials).link =
    ⟨.willing nonces, .new defaultMtu, .connecting credentials.token.sorcId .physical⟩ := rfl
  rw [radioEvent, reached, Link.radioEvent_of_asked asked.symm rfl, absorb_report, linkReported_of_reached]
  rfl

/-- The peer tells its limit, which opens the handshake. -/
theorem receive_limit {next : Line} {raw : Bytes} {mtu : UInt8} {rest : Bytes} {opening : List Frame}
    (nonces : Nonces) (credentials : Credentials)
    (received : line.receive raw = (.ok (some (Message.toBytes ⟨.mtuReceive, mtu :: rest⟩)), next))
    (limit : Frame.headerSize < mtu.toNat) (closed : next.receiving.isOpen = false)
    (cut : Frame.split (Channel.opening (.willing nonces) credentials).1.toBytes
      (Frame.sizeForMtu mtu.toNat) = .ok (opening ++ [last])) :
    (settling (.willing nonces) line credentials).receive (.ok raw) =
      ⟨proving (.willing nonces.draw.2)
          ((next.dropSending.2.withMtu mtu.toNat).carrying
            (Channel.opening (.willing nonces) credentials).1.toBytes (opening ++ [last]))
          credentials (Channel.opening (.willing nonces) credentials).2 none
          (some (Channel.opening (.willing nonces) credentials).1),
        [.connectionChanged ⟨.connecting credentials.token.sorcId .challenging,
          .entered credentials.token.sorcId .challenging⟩],
        [.announce (.link ⟨.connected credentials.token.sorcId, .established credentials.token.sorcId⟩),
          .announce (.channel ⟨.connecting credentials.token.sorcId .challenging,
            .entered credentials.token.sorcId .challenging⟩),
          .radio (.write (opening.headD last).toBytes true)]⟩ := by
  have lower : (settling (.willing nonces) line credentials).link.receive (.ok raw) =
      Link.publish ⟨.willing nonces, next.dropSending.2.withMtu mtu.toNat,
          .connecting credentials.token.sorcId .requestingMtu⟩
        (.connected credentials.token.sorcId) (.established credentials.token.sorcId) := by
    simp [settling, new, Link.receive, received, Link.mtuReceived, Payload.mtu?, limit]
  have free : (next.dropSending.2.withMtu mtu.toNat).isBusy = false := by
    simp [Line.isBusy, Line.dropSending, Line.withMtu, closed]
  have sent := @transmit_willing (next.dropSending.2.withMtu mtu.toNat) last
    (Channel.opening (.willing nonces) credentials).1 opening nonces.draw.2 credentials
    (Channel.opening (.willing nonces) credentials).2 none none free cut
  rw [receive, lower, Link.publish, absorb_report]
  erw [linkReported_of_settled]
  rw [Turn.andThen]
  erw [sent]
  rfl

/-- A whole message of the peer is a step of the handshake. -/
theorem receive_proving_message {next : Line} {raw : Bytes} {heard : Message} (handset : Handset)
    (credentials : Credentials) (handshake : Handshake) (key : Option Block) (inFlight : Option Message)
    (received : line.receive raw = (.ok (some heard.toBytes), next)) :
    (proving handset line credentials handshake key inFlight).receive (.ok raw) =
      (proving handset next credentials handshake key inFlight).handshakeMessage heard := by
  have lower : (proving handset line credentials handshake key inFlight).link.receive (.ok raw) =
      .report ⟨handset, next, .connected credentials.token.sorcId⟩ (.dataReceived (.ok heard.toBytes)) := by
    simp [proving, Link.receive, received]
  rw [receive, lower, Turn.report, absorb_report, Turn.after_nil]
  simp only [linkReported, dataReceived, proving, Message.ofBytes_toBytes]

section

variable (handset : Handset) (line : Line) (credentials : Credentials) (handshake : Handshake)
  {inFlight : Option Message}

/-- An honest proof is answered, and the session key waits for the answer to be written. -/
theorem handshakeMessage_proof (sorcNonce : Block) :
    (proving handset line credentials handshake none inFlight).handshakeMessage (handshake.proof sorcNonce) =
      (proving handset line credentials handshake
        (some (Handshake.sessionKey sorcNonce handshake.nonce)) inFlight).transmit
          (handshake.reply sorcNonce) := by
  have kind : (handshake.proof sorcNonce).id = .challengeSorcResponse := rfl
  simp only [handshakeMessage, kind, proving, Handshake.respond, Handshake.answer_proof, follow]

/-- A rejection of the challenge ends the attempt if the peer knows a newer blob; otherwise the blob at
hand is pushed. -/
theorem handshakeMessage_rejection (counter : UInt32) :
    (proving handset line credentials handshake none inFlight).handshakeMessage
        ⟨.badChallengeSorcResponse, 0 :: Bytes.bigEndian 4 counter.toNat⟩ =
      if credentials.blob.counter < counter then
        (proving handset line credentials handshake none inFlight).close (.protocol .blobOutdated)
      else (proving handset line credentials handshake none inFlight).pushBlob := by
  have told := Payload.rejectedCounter?_bigEndian 0 counter
  by_cases newer : credentials.blob.counter < counter
  · simp only [handshakeMessage, proving, Handshake.respond, follow, told, blobNeeded, heldCounter?,
      Option.map_some, Option.getD_some, Option.any_some, newer, decide_true, if_true]
  · simp only [handshakeMessage, proving, Handshake.respond, follow, told, blobNeeded, heldCounter?,
      Option.map_some, Option.getD_some, Option.any_some, newer, decide_false, Bool.false_eq_true, if_false]

/-- A request for a blob is granted if the blob at hand is newer. -/
theorem handshakeMessage_request (counter : UInt32) :
    (proving handset line credentials handshake none inFlight).handshakeMessage
        ⟨.ltBlobRequest, Bytes.littleEndian 4 counter.toNat⟩ =
      if counter < credentials.blob.counter then
        (proving handset line credentials handshake none inFlight).pushBlob
      else .idle (proving handset line credentials handshake none inFlight) := by
  have told := Payload.blobRequestCounter_littleEndian counter
  simp [handshakeMessage, told, proving, heldCounter?]

theorem pushBlob_readable {payload : Bytes} (readable : Payload.blob credentials.blob.data = .ok payload) :
    (proving handset line credentials handshake none inFlight).pushBlob =
      (proving handset line credentials handshake none inFlight).transmit ⟨.ltBlob, payload⟩ := by
  simp only [pushBlob, proving, readable]

/-- An acknowledged blob opens the handshake anew with the next nonce. -/
theorem handshakeMessage_ack :
    (proving handset line credentials handshake none inFlight).handshakeMessage (.empty .ltAck) =
      (proving { handset with nonces := handset.nonces.draw.2 } line credentials
        (handshake.renew handset.nonces.draw.1).2 none inFlight).transmit
          (handshake.renew handset.nonces.draw.1).1 := by
  simp only [handshakeMessage, Message.empty, proving, Handshake.respond, follow]

end

end Channel

end PhoneKey
