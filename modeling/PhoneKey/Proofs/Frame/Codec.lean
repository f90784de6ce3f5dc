import Mathlib.Data.Set.Function
import PhoneKey.Proofs.Frame

/-! # Which bytes are frames

The bytes alone tell what reading makes of them: fewer than a header are cut off, another nibble than one
of six names no type, and everything else is a frame. What was read is written as the same bytes, and a
frame comes back with the low half of its flags, so frames whose flags fit half a byte and readable byte
strings correspond one to one.
-/

namespace PhoneKey

namespace Frame

/-- The half of the first byte that names the type of a frame. -/
def typeNibble (raw : Bytes) : UInt8 := raw.headD 0 >>> 4

/-- Bytes with a whole header and a type that there is. -/
def Readable (raw : Bytes) : Prop :=
  headerSize ≤ raw.length ∧ typeNibble raw ∈ ([0x0, 0x1, 0x2, 0x3, 0x7, 0xb] : List UInt8)

/-- Bytes whose type closes a package: the last frame of several, or the only one. -/
def Closing (raw : Bytes) : Prop := typeNibble raw ∈ ([0x2, 0x3] : List UInt8)

/-- What comes behind the header. -/
def body (raw : Bytes) : Bytes := raw.drop headerSize

instance (raw : Bytes) : Decidable (Readable raw) := inferInstanceAs (Decidable (_ ∧ _))

instance (raw : Bytes) : Decidable (Closing raw) := inferInstanceAs (Decidable (_ ∈ _))

end Frame

namespace FrameKind

/-- There is a type for each of six nibbles. -/
theorem exists_ofNibble?_iff (nibble : UInt8) :
    (∃ type, ofNibble? nibble = some type) ↔
      nibble ∈ ([0x0, 0x1, 0x2, 0x3, 0x7, 0xb] : List UInt8) := by
  constructor
  · rintro ⟨type, known⟩
    rw [← nibble_of_ofNibble? known]
    cases type <;> decide
  · intro listed
    simp only [List.mem_cons, List.not_mem_nil, or_false] at listed
    rcases listed with rfl | rfl | rfl | rfl | rfl | rfl
    · exact ⟨.frag, rfl⟩
    · exact ⟨.sop, rfl⟩
    · exact ⟨.eop, rfl⟩
    · exact ⟨.single, rfl⟩
    · exact ⟨.noAck, rfl⟩
    · exact ⟨.ack, rfl⟩

theorem closes_iff (type : FrameKind) :
    type.closes = true ↔ type.nibble ∈ ([0x2, 0x3] : List UInt8) := by
  cases type <;> decide

end FrameKind

namespace Frame

variable {raw : Bytes} {frame : Frame}

/-! ### What is read -/

/-- What reading yields, in terms of the bytes alone. -/
theorem exists_ofBytes_of_readable {raw : Bytes} (readable : Readable raw) :
    ∃ frame, ofBytes raw = .ok frame ∧ frame.payload = body raw ∧
      (frame.type.closes = true ↔ Closing raw) := by
  obtain ⟨whole, known⟩ := readable
  match raw, whole with
  | head :: sequence :: low :: high :: payload, _ =>
    obtain ⟨type, found⟩ := (FrameKind.exists_ofNibble?_iff (head >>> 4)).mpr known
    refine ⟨⟨type, head &&& 0x0f, sequence, low.toUInt16 ||| (high.toUInt16 <<< 8), payload⟩, ?_, rfl, ?_⟩
    · simp only [ofBytes, found]
    · rw [FrameKind.closes_iff, FrameKind.nibble_of_ofNibble? found]
      rfl

/-- What was read had a whole header, and says what its bytes did. -/
theorem exists_bytes_of_ofBytes (read : ofBytes raw = .ok frame) :
    ∃ head sequence low high payload, raw = head :: sequence :: low :: high :: payload ∧
      FrameKind.ofNibble? (head >>> 4) = some frame.type ∧
      frame = ⟨frame.type, head &&& 0x0f, sequence, low.toUInt16 ||| (high.toUInt16 <<< 8), payload⟩ := by
  match raw with
  | [] | [_] | [_, _] | [_, _, _] => cases read
  | head :: sequence :: low :: high :: payload =>
    cases known : FrameKind.ofNibble? (head >>> 4) with
    | none => simp [ofBytes, known] at read
    | some type =>
      simp only [ofBytes, known] at read
      cases read
      exact ⟨head, sequence, low, high, payload, rfl, known, rfl⟩

theorem readable_of_ofBytes {raw : Bytes} {frame : Frame} (read : ofBytes raw = .ok frame) :
    Readable raw := by
  obtain ⟨head, sequence, low, high, payload, rfl, known, -⟩ := exists_bytes_of_ofBytes read
  exact ⟨by simp [headerSize], (FrameKind.exists_ofNibble?_iff _).mp ⟨frame.type, known⟩⟩

theorem ofBytes_eq_truncated_iff (raw : Bytes) : ofBytes raw = .error .truncated ↔ raw.length < headerSize := by
  match raw with
  | [] | [_] | [_, _] | [_, _, _] => simp [ofBytes, headerSize]
  | head :: sequence :: low :: high :: payload =>
    cases known : FrameKind.ofNibble? (head >>> 4) <;> simp [ofBytes, known, headerSize]

/-- Bytes with a whole header are refused for one reason only. -/
theorem ofBytes_eq_unknownType_iff (raw : Bytes) :
    ofBytes raw = .error .unknownType ↔ headerSize ≤ raw.length ∧ ¬ Readable raw := by
  constructor
  · intro refused
    refine ⟨Nat.le_of_not_lt fun short => ?_, fun readable => ?_⟩
    · cases refused.symm.trans ((ofBytes_eq_truncated_iff raw).mpr short)
    · obtain ⟨frame, read, _⟩ := exists_ofBytes_of_readable readable
      cases refused.symm.trans read
  · rintro ⟨whole, unreadable⟩
    match raw, whole with
    | head :: sequence :: low :: high :: payload, whole =>
      cases known : FrameKind.ofNibble? (head >>> 4) with
      | none => simp only [ofBytes, known]
      | some type => exact absurd ⟨whole, (FrameKind.exists_ofNibble?_iff _).mp ⟨type, known⟩⟩ unreadable

/-! ### What was read is written again -/

private theorem low_half_eq_mod (flags : UInt8) : flags &&& 0x0f = flags % 16 := by
  apply UInt8.toNat_inj.mp
  rw [UInt8.toNat_and, UInt8.toNat_mod]
  exact Nat.and_two_pow_sub_one_eq_mod flags.toNat 4

private theorem low_half_lt (flags : UInt8) : flags &&& 0x0f < 16 := by
  rw [low_half_eq_mod, UInt8.lt_iff_toNat_lt, UInt8.toNat_mod]
  exact Nat.mod_lt _ (by decide)

private theorem low_half_of_lt {flags : UInt8} (small : flags < 16) : flags &&& 0x0f = flags := by
  rw [low_half_eq_mod]
  apply UInt8.toNat_inj.mp
  rw [UInt8.toNat_mod]
  exact Nat.mod_eq_of_lt (UInt8.lt_iff_toNat_lt.mp small)

private theorem head_of_halves (head : UInt8) :
    ((head >>> 4) <<< 4) ||| ((head &&& 0x0f) &&& 0x0f) = head := by
  have bound := head.toNat_lt
  have small : head.toNat % 16 < 2 ^ 4 := Nat.mod_lt _ (by decide)
  have low : ((head &&& 0x0f) &&& 0x0f).toNat = head.toNat % 16 := by
    rw [low_half_of_lt (low_half_lt head), low_half_eq_mod, UInt8.toNat_mod]
    rfl
  have high : ((head >>> 4) <<< 4).toNat = (head.toNat / 16) <<< 4 := by
    simp [Nat.shiftRight_eq_div_pow, Nat.shiftLeft_eq]
    omega
  apply UInt8.toNat_inj.mp
  rw [UInt8.toNat_or, high, low, ← Nat.shiftLeft_add_eq_or_of_lt small, Nat.shiftLeft_eq]
  omega

private theorem toNat_of_bytes (low high : UInt8) :
    (low.toUInt16 ||| (high.toUInt16 <<< 8)).toNat = high.toNat * 256 + low.toNat := by
  have bound := high.toNat_lt
  have small : low.toUInt16.toNat < 2 ^ 8 := low.toNat_lt
  have shifted : (high.toUInt16 <<< 8).toNat = high.toNat <<< 8 := by
    simp [Nat.shiftLeft_eq]
    omega
  rw [UInt16.toNat_or, shifted, Nat.or_comm, ← Nat.shiftLeft_add_eq_or_of_lt small, Nat.shiftLeft_eq]
  rfl

private theorem bytes_of_length (low high : UInt8) :
    (low.toUInt16 ||| (high.toUInt16 <<< 8)).toUInt8 = low ∧
      ((low.toUInt16 ||| (high.toUInt16 <<< 8)) >>> 8).toUInt8 = high := by
  have total := toNat_of_bytes low high
  have small := low.toNat_lt
  have bound := high.toNat_lt
  constructor
  · apply UInt8.toNat_inj.mp
    rw [UInt16.toNat_toUInt8, total]
    omega
  · apply UInt8.toNat_inj.mp
    rw [UInt16.toNat_toUInt8, UInt16.toNat_shiftRight, total, Nat.shiftRight_eq_div_pow]
    change (high.toNat * 256 + low.toNat) / 2 ^ 8 % 2 ^ 8 = high.toNat
    omega

private theorem flags_lt_of_ofBytes (read : ofBytes raw = .ok frame) : frame.flags < 16 := by
  obtain ⟨head, _, _, _, _, -, -, parts⟩ := exists_bytes_of_ofBytes read
  rw [parts]
  exact low_half_lt head

/-- A frame that was read is written as the bytes it was read from. -/
theorem toBytes_of_ofBytes (read : ofBytes raw = .ok frame) : frame.toBytes = raw := by
  obtain ⟨head, sequence, low, high, payload, rfl, known, parts⟩ := exists_bytes_of_ofBytes read
  obtain ⟨lower, upper⟩ := bytes_of_length low high
  rw [parts]
  simp only [toBytes, FrameKind.nibble_of_ofNibble? known, head_of_halves, lower, upper]

/-- A written frame has its type and its payload where they are looked for. -/
theorem readable_toBytes (frame : Frame) : Readable frame.toBytes :=
  readable_of_ofBytes (ofBytes_toBytes frame)

theorem body_toBytes (frame : Frame) : body frame.toBytes = frame.payload := rfl

theorem closing_toBytes_iff (frame : Frame) : Closing frame.toBytes ↔ frame.type.closes = true := by
  obtain ⟨read, same, _, closes⟩ := exists_ofBytes_of_readable (readable_toBytes frame)
  cases (ofBytes_toBytes frame).symm.trans same
  exact closes.symm

/-! ### One to one -/

/-- What reading makes of some bytes: the first fault that they have, or the frame that is written as they
are. -/
structure Reads (raw : Bytes) (read : Except FrameError Frame) : Prop where
  truncated : read = .error .truncated ↔ raw.length < headerSize
  unknown : read = .error .unknownType ↔ headerSize ≤ raw.length ∧
    typeNibble raw ∉ ([0x0, 0x1, 0x2, 0x3, 0x7, 0xb] : List UInt8)
  accepted : headerSize ≤ raw.length → typeNibble raw ∈ ([0x0, 0x1, 0x2, 0x3, 0x7, 0xb] : List UInt8) →
    ∃ frame, read = .ok frame ∧ frame.flags < 16 ∧ frame.toBytes = raw

theorem reads_ofBytes (raw : Bytes) : Reads raw (ofBytes raw) where
  truncated := ofBytes_eq_truncated_iff raw
  unknown := by
    rw [ofBytes_eq_unknownType_iff, Readable]
    exact and_congr_right fun whole => not_congr (and_iff_right whole)
  accepted whole known := by
    obtain ⟨frame, read, _⟩ := exists_ofBytes_of_readable ⟨whole, known⟩
    exact ⟨frame, read, flags_lt_of_ofBytes read, toBytes_of_ofBytes read⟩

/-- Reading and writing undo each other: what was read is written as the same bytes, a written frame is read
with its flags reduced to half a byte, and frames with such flags are written as exactly the readable byte
strings, each as one of its own. -/
theorem codec_bijective :
    (∀ raw, Reads raw (ofBytes raw)) ∧
      (∀ frame : Frame, ofBytes frame.toBytes = .ok { frame with flags := frame.flags % 16 }) ∧
      Set.BijOn toBytes { frame : Frame | frame.flags < 16 } { raw | Readable raw } := by
  have back (frame : Frame) (small : frame.flags < 16) : ofBytes frame.toBytes = .ok frame := by
    rw [ofBytes_toBytes, low_half_of_lt small]
  refine ⟨reads_ofBytes, fun frame => ?_, fun frame _ => readable_toBytes frame, ?_, ?_⟩
  · rw [ofBytes_toBytes, low_half_eq_mod]
  · intro frame small other fits same
    exact Except.ok.inj ((back frame small).symm.trans ((congrArg ofBytes same).trans (back other fits)))
  · intro raw readable
    obtain ⟨frame, read, _⟩ := exists_ofBytes_of_readable readable
    exact ⟨frame, flags_lt_of_ofBytes read, toBytes_of_ofBytes read⟩

end Frame

end PhoneKey
