import PhoneKey.Proofs.Envelope.Opening
import PhoneKey.Proofs.Grant
import PhoneKey.Proofs.Simulation.Prospect
import PhoneKey.Session.Request

/-! # Requests and their answers

Two ends that agree on key and chains agree again after every envelope. So a peer that answers requests
opens the envelope of a request and seals an answer that the phone can open.
-/

namespace PhoneKey

namespace SealingContext

/-- An envelope is little longer than its message. -/
theorem length_encrypt (context : SealingContext) (message : Bytes) :
    (context.encrypt message).1.length ≤ message.length + 24 ∧
      (context.encrypt message).1.length % Block.size = Envelope.macSize := by
  have whole := Envelope.length_plaintext context.outgoing message
  have filled : (Envelope.plaintext context.outgoing message).length ≤ message.length + 16 := by
    have short := Envelope.padding_lt message.length
    simp only [Envelope.plaintext, List.length_append, List.length_cons, List.length_replicate]
    omega
  have parts := congrArg List.length (Block.join_split_of_whole whole.1)
  rw [Block.length_join] at parts
  rw [fst_encrypt, List.length_append, Envelope.length_mac, ciphertext, Block.length_join, chain,
    Envelope.length_encryptChain, parts]
  simp only [Block.size, Envelope.macSize] at whole ⊢
  omega

/-- Two ends of a session that agree on the key and on where each chain goes on. -/
structure InStep (context other : SealingContext) : Prop where
  key : other.key = context.key
  sends : other.openStart = context.sealStart
  opens : context.openStart = other.sealStart

namespace InStep

variable {context other : SealingContext}

theorem symm (inStep : context.InStep other) : other.InStep context :=
  ⟨inStep.key.symm, inStep.opens, inStep.sends⟩

/-- What one end seals opens at the other, and both agree again. -/
theorem encrypt (inStep : context.InStep other) (message : Bytes) :
    ∃ next, other.decrypt (context.encrypt message).1 = .ok (message, next) ∧
      (context.encrypt message).2.InStep next := by
  refine ⟨_, decrypt_encrypt inStep.key inStep.sends message, ?_⟩
  exact ⟨inStep.key, rfl, inStep.opens⟩

theorem fresh (key : Block) : (new key .toSorc).InStep (new key .toPhone) := ⟨rfl, rfl, rfl⟩

end InStep

end SealingContext

/-- What the peer answers to a request. -/
def SorcProfile.answer (profile : SorcProfile) : Request → Message
  | .heartbeat => .empty .heartbeatResponse
  | .grant grant => Sorc.grantAnswer grant profile.grantStatus profile.grantText

/-- What the phone reads from the peer's answer to a grant. -/
def SorcProfile.response (profile : SorcProfile) (grant : UInt16) : GrantResponse where
  sorcId := profile.sorcId
  grant
  status := profile.grantStatus
  text := String.ofList
    ((Text.trim Grant.isControl profile.grantText).map fun byte => Char.ofNat byte.toNat)

/-- The peer asks for a blob that is newer than one with this counter. -/
def SorcProfile.Outdates (profile : SorcProfile) (counter : UInt32) : Prop :=
  profile.requiredBlob = none ∧ ∃ known, profile.requestedBlob = some known ∧ counter ≤ known

/-- The longest text of a grant whose answer still fits a package when it is sealed. -/
def SorcProfile.longestText : Nat := 65515

/-- An honest peer that answers every request, in seven-bit text, and gets the blob that it wants from
these credentials. -/
structure SorcProfile.Serves (profile : SorcProfile) (credentials : Credentials) : Prop where
  honest : profile.Honest credentials.token
  heartbeats : profile.answersHeartbeats = true
  grants : profile.answersGrants = true
  ascii : profile.grantText.all (· < 0x80) = true
  text : profile.grantText.length ≤ longestText
  challenge : (credentials.token.challenge .zero).toBytes.length ≤ maxMessageLength
  /-- The peer does not insist on a blob that the phone does not have. -/
  current : ∀ least, profile.requiredBlob = some least → least ≤ credentials.blob.counter
  blob : profile.Wants credentials.blob.counter → ∃ payload,
    Payload.blob credentials.blob.data = .ok payload ∧
      (Message.toBytes ⟨.ltBlob, payload⟩).length ≤ maxMessageLength

namespace SorcProfile.Serves

variable {profile : SorcProfile} {credentials : Credentials}

theorem fits (serves : profile.Serves credentials) (nonce : Block) :
    (credentials.token.challenge nonce).toBytes.length ≤ maxMessageLength :=
  credentials.token.length_challenge .zero nonce ▸ serves.challenge

/-- Once the blob has arrived the peer goes on to serve. -/
theorem remains {later : SorcProfile} (serves : profile.Serves credentials)
    (remains : profile.Remains later) : later.Serves credentials := by
  rcases remains with rfl | rfl
  · exact serves
  · refine ⟨serves.honest.satisfied, serves.heartbeats, serves.grants, serves.ascii, serves.text,
      serves.challenge, ?_, ?_⟩
    · intro least required
      cases required
    · rintro (⟨least, required, _⟩ | ⟨_, known, requested, _⟩)
      · cases required
      · cases requested

end SorcProfile.Serves

theorem SorcProfile.length_answer (profile : SorcProfile) (short : profile.grantText.length ≤ longestText)
    (request : Request) : (profile.answer request).toBytes.length ≤ longestText + 4 := by
  cases request with
  | heartbeat => simp [answer, Message.empty, Message.toBytes, longestText]
  | grant grant =>
    simp only [answer, Sorc.grantAnswer, Grant.answer, Message.toBytes, List.length_cons, List.length_append,
      Bytes.length_littleEndian]
    omega

theorem Request.length_message (request : Request) : request.message.toBytes.length ≤ 3 := by
  cases request with
  | heartbeat => simp [message, Message.empty, Message.toBytes]
  | grant grant => simp [message, Message.toBytes, Grant.request]

/-- Whether the peer answers a request at all. -/
def SorcProfile.answers (profile : SorcProfile) : Request → Bool
  | .heartbeat => profile.answersHeartbeats
  | .grant _ => profile.answersGrants

/-- The peer answers a request, and its sealed answer can be sent. -/
structure SorcProfile.Handles (profile : SorcProfile) (request : Request) : Prop where
  room : Frame.headerSize < profile.mtu.toNat
  answers : profile.answers request = true
  fits : ∀ context : SealingContext,
    (context.encrypt (profile.answer request).toBytes).1.length ≤ maxMessageLength

/-- With a text that is short enough every answer fits. -/
theorem SorcProfile.fits_answer (profile : SorcProfile) (short : profile.grantText.length ≤ longestText)
    (request : Request) (context : SealingContext) :
    (context.encrypt (profile.answer request).toBytes).1.length ≤ maxMessageLength := by
  have bound := context.length_encrypt (profile.answer request).toBytes
  have short := profile.length_answer short request
  simp only [Block.size, Envelope.macSize, SorcProfile.longestText, maxMessageLength] at bound short ⊢
  omega

theorem SorcProfile.Serves.handles {profile : SorcProfile} {credentials : Credentials}
    (serves : profile.Serves credentials) (request : Request) : profile.Handles request := by
  refine ⟨serves.honest.room, ?_, profile.fits_answer serves.text request⟩
  cases request with
  | heartbeat => exact serves.heartbeats
  | grant grant => exact serves.grants

theorem SorcProfile.Remains.response {profile later : SorcProfile} (remains : profile.Remains later) :
    later.response = profile.response := by
  rcases remains with rfl | rfl <;> rfl

theorem SorcProfile.Remains.handles {profile later : SorcProfile} (remains : profile.Remains later)
    {request : Request} (handles : profile.Handles request) : later.Handles request := by
  rcases remains with rfl | rfl
  · exact handles
  · refine ⟨handles.room, ?_, ?_⟩
    · have answers := handles.answers
      cases request <;> exact answers
    · have fits := handles.fits
      cases request <;> exact fits

/-- The peer answers a request in place. -/
theorem Sorc.respond_request {sorc : Sorc} {request : Request} (answers : sorc.profile.answers request = true)
    (nonces : Nonces) :
    sorc.respond nonces request.message = (some (sorc.profile.answer request), sorc, nonces) := by
  cases request with
  | heartbeat =>
    have answers : sorc.profile.answersHeartbeats = true := answers
    simp only [respond, Request.message, Message.empty, answers, if_true, SorcProfile.answer]
  | grant grant =>
    have answers : sorc.profile.answersGrants = true := answers
    simp only [respond, Request.message, answers, if_true, Grant.requested?_request, Option.map_some,
      SorcProfile.answer]

/-- A package with some data is on its way to the phone, which has collected the first of its frames. -/
def Awaits (receiving : Assembler) (frames : List Bytes) (data : Bytes) : Prop :=
  ∃ gathered rest last, Frame.Whole data (gathered ++ rest) last ∧
    receiving = Assembler.empty.gather gathered ∧ frames = (rest ++ [last]).map Frame.toBytes

/-- Frames are to come as long as the phone waits for an answer. -/
theorem Awaits.ne_nil {receiving : Assembler} {frames : List Bytes} {data : Bytes}
    (awaits : Awaits receiving frames data) : frames ≠ [] := by
  obtain ⟨gathered, rest, last, _, _, rfl⟩ := awaits
  simp

/-- A peer between two messages of the phone, with what it keeps of the session. -/
structure Sorc.Listens (sorc : Sorc) (session : Option SealingContext) : Prop where
  session : sorc.session = session
  vacant : sorc.assembler = .empty

namespace Prospect

variable {prospect : Prospect} {opening : List Frame} {last : Frame}

/-- Without a session a message of the phone is answered in clear. -/
theorem takeAll_clear {spoken reply : Message} {next : Sorc} {rest : Nonces}
    (whole : Frame.Whole spoken.toBytes opening last) (listens : prospect.peer.Listens none)
    (responded : Sorc.respond { prospect.peer with received := prospect.peer.received ++ [spoken] }
      prospect.nonces spoken = (some reply, next, rest))
    (clear : next.session = none) (room : Frame.headerSize < next.profile.mtu.toNat)
    (fits : reply.toBytes.length ≤ maxMessageLength) :
    ∃ frames, prospect.takeAll ((opening ++ [last]).map Frame.toBytes) =
        ⟨prospect.frames ++ frames, next, rest⟩ ∧
      Awaits .empty frames reply.toBytes := by
  have opens : prospect.peer.open? spoken.toBytes = some (spoken, prospect.peer) := by
    rw [Sorc.open?, listens.session, Message.ofBytes_toBytes]
  have taken := prospect.takeAll_package whole listens.vacant opens responded
  have size : 0 < Frame.sizeForMtu next.profile.mtu.toNat := Nat.sub_pos_of_lt room
  obtain ⟨beginning, ending, cut, complete⟩ := Frame.split_whole size fits
  rw [Sorc.sayAny, Sorc.say_clear clear cut] at taken
  exact ⟨_, taken, [], beginning, ending, complete, rfl, rfl⟩

/-- A sealed request is answered with a sealed message, after which both ends agree again. -/
theorem takeAll_request {request : Request} {ours theirs : SealingContext}
    (handles : SorcProfile.Handles prospect.peer.profile request)
    (whole : Frame.Whole (ours.encrypt request.message.toBytes).1 opening last)
    (listens : prospect.peer.Listens (some theirs)) (inStep : ours.InStep theirs) :
    ∃ frames peer data after theirs',
      prospect.takeAll ((opening ++ [last]).map Frame.toBytes) =
        ⟨prospect.frames ++ frames, peer, prospect.nonces⟩ ∧
      Awaits .empty frames data ∧
      (ours.encrypt request.message.toBytes).2.decrypt data =
        .ok ((prospect.peer.profile.answer request).toBytes, after) ∧
      peer.Listens (some theirs') ∧ after.InStep theirs' := by
  obtain ⟨heard, opened, agreed⟩ := inStep.encrypt request.message.toBytes
  obtain ⟨after, answered, inStep'⟩ :=
    agreed.symm.encrypt (prospect.peer.profile.answer request).toBytes
  have opens : prospect.peer.open? (ours.encrypt request.message.toBytes).1 =
      some (request.message, { prospect.peer with session := some heard }) := by
    rw [Sorc.open?, listens.session]
    simp only [opened, Message.ofBytes_toBytes]
  have responded := @Sorc.respond_request
    ⟨prospect.peer.profile, prospect.peer.handshake, some heard, prospect.peer.assembler,
      prospect.peer.received ++ [request.message]⟩ request handles.answers prospect.nonces
  have taken := prospect.takeAll_package whole listens.vacant opens responded
  have size : 0 < Frame.sizeForMtu prospect.peer.profile.mtu.toNat := Nat.sub_pos_of_lt handles.room
  obtain ⟨beginning, ending, cut, complete⟩ := Frame.split_whole size (handles.fits heard)
  simp only [Sorc.sayAny, Sorc.say, Sorc.frame, cut] at taken
  exact ⟨_, _, _, after, _, taken, ⟨[], beginning, ending, complete, rfl, rfl⟩, answered,
    ⟨rfl, listens.vacant⟩, inStep'.symm⟩

end Prospect

end PhoneKey
