import PhoneKey.Config.Persisted
import PhoneKey.Proofs.Config
import PhoneKey.Proofs.Phone.Run
import PhoneKey.Proofs.Varint

/-! # Persisted configurations are read back

The settings are written one after the other, each in a form that its own reader takes from the front. Hence
what was written is read back whatever follows, and refused wherever it is cut short. What is read has passed
the check, and a phone that is built from it can ask any peer for its limit.
-/

namespace PhoneKey

namespace Link

/-- The frame with the question for the limit. -/
def question : Bytes := [0x30, 0, 1, 0, 0x06]

/-- A free line with room for payload takes the question, which is then written. -/
theorem effects_question {link : Link} (free : link.line.isBusy = false)
    (room : Frame.headerSize < link.line.mtu) :
    (link.start (Message.empty .mtuRequest).toBytes).effects =
      [.radio (.write question (link.handset.accepts 0))] := by
  obtain ⟨size, large⟩ : ∃ size, Frame.sizeForMtu link.line.mtu = size + 1 :=
    Nat.exists_eq_succ_of_ne_zero (Nat.sub_ne_zero_of_lt room)
  have whole : Package.make (Message.empty .mtuRequest).toBytes (size + 1) =
      .ok ⟨[0x06], [⟨.single, 0, 0, 1, [0x06]⟩]⟩ := by
    simp [Package.make, Message.toBytes, Message.empty, MessageId.toByte, Frame.split, maxMessageLength,
      piecesOf, Frame.ofPieces, Except.map]
  have framed : (⟨.single, 0, 0, 1, [0x06]⟩ : Frame).toBytes = question := by decide
  have launched : link.line.launch (Message.empty .mtuRequest).toBytes =
      .ok (question, { link.line with sending := some ⟨[0x06], [⟨.single, 0, 0, 1, [0x06]⟩]⟩ }) := by
    simp [Line.launch, free, large, whole, Package.waiting?, framed]
  rw [start, launched]
  cases answer : link.handset.accepts 0 <;> simp [write, Handset.answerWrite, answer]

/-- The question is put whatever becomes of it. -/
theorem mem_effects_askMtu {link : Link} {effect : Effect}
    (asked : effect ∈ (link.start (Message.empty .mtuRequest).toBytes).effects) :
    effect ∈ link.askMtu.effects := by
  rw [askMtu]
  split
  · exact asked
  · exact List.mem_append_left _ asked

end Link

namespace Phone

/-- Whenever the radio has reached the peer that it was asked for, the question for the limit is written. -/
def AsksForLimit (phone : Phone) : Prop :=
  ∀ inputs now sorcId, (phone.run inputs).state.state = .connecting sorcId .physical →
    .radio (.write Link.question ((phone.run inputs).state.session.channel.link.handset.accepts 0)) ∈
      ((phone.run inputs).state.act ⟨now, .radioEvent (.connected sorcId)⟩).effects

/-- A channel that waits for the radio puts the question as soon as the peer is reached. -/
theorem question_of_dialling {defaultMtu : Nat} {channel : Channel} {sorcId : Uuid}
    (lawful : Channel.Lawful defaultMtu channel) (dialling : channel.state = .connecting sorcId .physical)
    (room : Frame.headerSize < defaultMtu) :
    .radio (.write Link.question (channel.link.handset.accepts 0)) ∈
      (channel.radioEvent (.connected sorcId)).effects := by
  cases lawful with
  | dialling handset credentials =>
    obtain rfl : credentials.token.sorcId = sorcId := by
      simpa [Channel.dialling] using dialling
    refine List.mem_append_left _ ?_
    have reached : (Channel.dialling handset defaultMtu credentials).link =
      ⟨handset, .new defaultMtu, .connecting credentials.token.sorcId .physical⟩ := rfl
    rw [reached, Link.radioEvent_of_reached]
    refine List.mem_append_right _ (Link.mem_effects_askMtu ?_)
    rw [Link.effects_question rfl room]
    exact List.mem_singleton_self _
  | _ => simp [Channel.atRest, Channel.settling, Channel.proving, Channel.secured, Channel.new] at dialling

private theorem asksForLimit_fresh (handset : Handset) {config : Config}
    (room : Frame.headerSize < config.defaultMtu.toNat) : (fresh handset config).AsksForLimit := by
  intro inputs now sorcId dialling
  have settled := settled_of_run handset config inputs
  generalize ((fresh handset config).run inputs).state = phone at dialling settled ⊢
  have asked := question_of_dialling settled.lawful (settled.agrees.symm.trans dialling) room
  obtain ⟨aside, whole, -⟩ := (carries_act phone ⟨now, .radioEvent (.connected sorcId)⟩).effects
  rw [whole]
  exact List.mem_append_left _ (List.mem_append_left _ asked)

end Phone

namespace Config

/-- A persisted setting. -/
inductive Piece where
  | number (value : Nat)
  | identifier (id : Uuid)

/-- Numbers stand in their base-128 form, identifiers as their bytes behind the number of them. -/
def Piece.Spells : Piece → Bytes → Prop
  | .number value, bytes => Varint.Spells value bytes
  | .identifier id, bytes => bytes = 16 :: id.toBytes

/-- The settings in the order in which they are persisted. -/
def pieces (config : Config) : List Piece :=
  [.number config.heartbeatInterval.toNat, .number config.heartbeatTimeout.toNat,
   .number config.maxEnqueuedMessages.toNat, .number config.defaultMtu.toNat,
   .identifier config.serviceId, .identifier config.notifyCharacteristicId,
   .identifier config.writeCharacteristicId, .number config.sorcOutdatedDuration.toNat,
   .number config.removeOutdatedInterval.toNat]

/-- A byte string is the persisted form of a configuration. -/
def Spells (config : Config) (bytes : Bytes) : Prop :=
  ∃ parts, List.Forall₂ Piece.Spells config.pieces parts ∧ bytes = parts.flatten

private theorem spells_number32 (number : UInt32) :
    Varint.Spells number.toNat (Varint.write 32 number.toNat) :=
  Varint.spells_write (by decide) number.toNat_lt

private theorem spells_number16 (number : UInt16) :
    Varint.Spells number.toNat (Varint.write 16 number.toNat) :=
  Varint.spells_write (by decide) number.toNat_lt

theorem spells_toBytes (config : Config) : config.Spells config.toBytes := by
  refine ⟨_, .cons (spells_number32 _) <| .cons (spells_number32 _) <| .cons (spells_number16 _) <|
    .cons (spells_number16 _) <| .cons rfl <| .cons rfl <| .cons rfl <| .cons (spells_number32 _) <|
    .cons (spells_number32 _) .nil, ?_⟩
  simp [toBytes, writeUuid, Varint.write, Varint.maxLength, Varint.encode, Block.size]

private theorem takes_number32 (number : UInt32) :
    Takes (Varint.read? 32) (Varint.write 32 number.toNat) number.toNat :=
  Varint.takes_write (by decide) number.toNat_lt

private theorem takes_number16 (number : UInt16) :
    Takes (Varint.read? 16) (Varint.write 16 number.toNat) number.toNat :=
  Varint.takes_write (by decide) number.toNat_lt

/-- The number of bytes in front of an identifier. -/
theorem takes_size : Takes (Varint.read? 64) (Varint.write 64 Block.size) Block.size :=
  Varint.takes_write (by decide) (by decide)

private theorem takes_uuid (id : Uuid) : Takes readUuid? (writeUuid id) id where
  whole rest := by
    have size : id.toBytes.length = Block.size := rfl
    rw [readUuid?, writeUuid, List.append_assoc, takes_size.bind_whole]
    simp [← size]
  short part cut less := by
    refine takes_size.bind_short cut less fun tail inside shorter => ?_
    have lacking : tail.length < Block.size :=
      lt_of_le_of_ne inside.length_le fun same => shorter (inside.eq_of_length same)
    exact if_neg (Nat.not_le.mpr lacking)

/-- What was written is read back, whatever follows it. -/
theorem read?_toBytes (config : Config) (rest : Bytes) : read? (config.toBytes ++ rest) = some config := by
  simp only [read?, toBytes, List.append_assoc]
  rw [(takes_number32 _).bind_whole, (takes_number32 _).bind_whole, (takes_number16 _).bind_whole,
    (takes_number16 _).bind_whole, (takes_uuid _).bind_whole, (takes_uuid _).bind_whole,
    (takes_uuid _).bind_whole, (takes_number32 _).bind_whole, (takes_number32 _).bind_whole]
  simp

/-- What was written and is cut short is refused. -/
theorem read?_short {config : Config} {part : Bytes} (cut : part <+: config.toBytes)
    (less : part ≠ config.toBytes) : read? part = none := by
  simp only [toBytes, List.append_assoc] at cut less
  refine (takes_number32 _).bind_short cut less fun part cut less => ?_
  refine (takes_number32 _).bind_short cut less fun part cut less => ?_
  refine (takes_number16 _).bind_short cut less fun part cut less => ?_
  refine (takes_number16 _).bind_short cut less fun part cut less => ?_
  refine (takes_uuid _).bind_short cut less fun part cut less => ?_
  refine (takes_uuid _).bind_short cut less fun part cut less => ?_
  refine (takes_uuid _).bind_short cut less fun part cut less => ?_
  refine (takes_number32 _).bind_short cut less fun part cut less => ?_
  exact (takes_number32 _).bind_last cut less

/-- What can be read at all is read as its check decides. -/
theorem ofBytes_of_read {bytes : Bytes} {config : Config} (read : read? bytes = some config) :
    ofBytes bytes = config.check.map fun _ => config := by
  simp only [ofBytes, read, check]
  cases config.fault? <;> rfl

private theorem check_of_ofBytes {bytes : Bytes} {config : Config} (read : ofBytes bytes = .ok config) :
    config.check = .ok () := by
  cases found : read? bytes with
  | none => simp [ofBytes, found] at read
  | some other =>
    rw [ofBytes_of_read found] at read
    cases passed : other.check with
    | error cause => simp [passed, Except.map] at read
    | ok _ =>
      simp only [passed, Except.map, Except.ok.injEq] at read
      exact read ▸ passed

/-- The persisted form of a configuration follows its format, is read back whatever follows it unless the
check objects, and is refused where it is cut short. Whatever bytes a configuration was read from, it is
usable, and a phone can be built from it that asks for limits. -/
theorem persisted_faithful :
    (∀ config : Config, config.Spells config.toBytes) ∧
    (∀ (config : Config) (rest : Bytes),
      ofBytes (config.toBytes ++ rest) = config.check.map fun _ => config) ∧
    (∀ (bytes : Bytes) (config : Config), ofBytes bytes = .ok config →
      config.Usable ∧ ∀ handset, ∃ phone, Phone.make handset config = .ok phone ∧ phone.AsksForLimit) ∧
    (∀ (config : Config) (part : Bytes), part <+: config.toBytes → part ≠ config.toBytes →
      ofBytes part = .error .corrupted) := by
  refine ⟨spells_toBytes, ?_, ?_, ?_⟩
  · intro config rest
    exact ofBytes_of_read (read?_toBytes config rest)
  · intro bytes config read
    have passed := check_of_ofBytes read
    have usable := usable_of_check passed
    refine ⟨usable, fun handset => ⟨.fresh handset config, ?_, Phone.asksForLimit_fresh handset usable.room⟩⟩
    rw [Phone.make_eq, passed]
    rfl
  · intro config part cut less
    rw [ofBytes, read?_short cut less]

end Config

end PhoneKey
