import PhoneKey.Frame.Assembler
import PhoneKey.Proofs.Line

/-! # Frames of a message

What a frame is written as is read back as that frame. Splitting a message yields frames that leave their
package open and one that closes it, and their payloads are the message in order: whoever collects the
frames has the message with the last of them and not before.
-/

namespace PhoneKey

theorem flatten_piecesOf {α : Type} (size : Nat) (items : List α) :
    (piecesOf size items).flatten = items := by
  fun_induction piecesOf size items with
  | case1 => rfl
  | case2 item rest ih => simp [ih]

namespace Frame

private theorem type_of_head (type : FrameKind) (flags : UInt8) :
    ((type.nibble <<< 4) ||| (flags &&& 0x0f)) >>> 4 = type.nibble := by
  have small : (flags &&& 0x0f).toNat < 2 ^ 4 := by
    rw [UInt8.toNat_and]
    exact Nat.and_lt_two_pow _ (by decide)
  have high : (type.nibble <<< 4).toNat = type.nibble.toNat <<< 4 := by cases type <;> rfl
  have shift : (4 : UInt8).toNat % 8 = 4 := rfl
  apply UInt8.toNat_inj.mp
  rw [UInt8.toNat_shiftRight, UInt8.toNat_or, high, ← Nat.shiftLeft_add_eq_or_of_lt small,
    Nat.shiftLeft_eq, shift, Nat.shiftRight_eq_div_pow]
  omega

private theorem flags_of_head (type : FrameKind) (flags : UInt8) :
    ((type.nibble <<< 4) ||| (flags &&& 0x0f)) &&& 0x0f = flags &&& 0x0f := by
  have none : (type.nibble <<< 4) &&& 0x0f = 0 := by cases type <;> rfl
  have zero := congrArg UInt8.toNat none
  rw [UInt8.toNat_and] at zero
  apply UInt8.toNat_inj.mp
  rw [UInt8.toNat_and, UInt8.toNat_or, Nat.and_or_distrib_right, zero,
    UInt8.toNat_zero, Nat.zero_or, UInt8.toNat_and, Nat.and_assoc, Nat.and_self]

private theorem length_of_bytes (length : UInt16) :
    length.toUInt8.toUInt16 ||| ((length >>> 8).toUInt8.toUInt16 <<< 8) = length := by
  have small : length.toUInt8.toUInt16.toNat < 2 ^ 8 := UInt8.toNat_lt _
  have low : length.toUInt8.toUInt16.toNat = length.toNat % 256 := by simp
  have high : ((length >>> 8).toUInt8.toUInt16 <<< 8).toNat = (length.toNat / 256) <<< 8 := by
    have bound := length.toNat_lt
    simp [Nat.shiftRight_eq_div_pow, Nat.shiftLeft_eq]
    omega
  apply UInt16.toNat_inj.mp
  rw [UInt16.toNat_or, high, Nat.or_comm, ← Nat.shiftLeft_add_eq_or_of_lt small, Nat.shiftLeft_eq, low]
  omega

/-- A frame is read back as it was written, but for the high half of its flags. -/
theorem ofBytes_toBytes (frame : Frame) :
    ofBytes frame.toBytes = .ok { frame with flags := frame.flags &&& 0x0f } := by
  simp only [toBytes, ofBytes, type_of_head, flags_of_head, length_of_bytes, FrameKind.ofNibble?_nibble]

theorem ofBytes_toBytes_of_plain {frame : Frame} (plain : frame.flags = 0) :
    ofBytes frame.toBytes = .ok frame := by
  rw [ofBytes_toBytes, plain]
  exact congrArg Except.ok (by cases frame; cases plain; rfl)

/-- The frames of one package with a message: those that leave it open, and the one that closes it. -/
structure Whole (message : Bytes) (opening : List Frame) (last : Frame) : Prop where
  leaves : ∀ frame ∈ opening, frame.type.closes = false
  closes : last.type.closes = true
  payloads : (opening ++ [last]).flatMap Frame.payload = message
  plain : ∀ frame ∈ opening ++ [last], frame.flags = 0

namespace Whole

theorem single (length : UInt16) (payload : Bytes) :
    Whole payload [] ⟨.single, 0, 0, length, payload⟩ where
  leaves := nofun
  closes := rfl
  payloads := by simp
  plain := by simp

end Whole

theorem header_following (start : Nat) (pieces : List Bytes) :
    ∀ frame ∈ following start pieces, frame.flags = 0 ∧ frame.length = UInt16.ofNat frame.payload.length := by
  fun_induction following start pieces with
  | case1 => nofun
  | case2 => simp
  | case3 index piece rest some ih => exact List.forall_mem_cons.mpr ⟨⟨rfl, rfl⟩, ih⟩

/-- Behind the first frame, all leave the package open but the last. -/
theorem following_concat (start : Nat) (full : List Bytes) (last : Bytes) :
    ∃ middle closing, following start (full ++ [last]) = middle ++ [closing] ∧
      (∀ frame ∈ middle, frame.type = .frag) ∧ closing.type = .eop ∧
      middle.map Frame.payload = full ∧ closing.payload = last := by
  induction full generalizing start with
  | nil => exact ⟨[], _, rfl, nofun, rfl, rfl, rfl⟩
  | cons piece rest ih =>
    obtain ⟨middle, closing, behind, frags, closes, payloads, same⟩ := ih (start + 1)
    refine ⟨⟨.frag, 0, UInt8.ofNat start, UInt16.ofNat piece.length, piece⟩ :: middle, closing, ?_,
      List.forall_mem_cons.mpr ⟨rfl, frags⟩, closes, congrArg (piece :: ·) payloads, same⟩
    rw [List.cons_append, following, behind]
    · rfl
    · simp

/-- A message that can be cut makes the frames of one package. -/
theorem split_whole {message : Bytes} {size : Nat} (room : 0 < size)
    (fits : message.length ≤ maxMessageLength) :
    ∃ opening last, split message size = .ok (opening ++ [last]) ∧ Whole message opening last := by
  obtain ⟨size, rfl⟩ := Nat.exists_eq_succ_of_ne_zero (Nat.ne_of_gt room)
  have cut : split message (size + 1) = .ok (ofPieces message.length (piecesOf size message)) := by
    simp [split, Nat.not_lt.mpr fits]
  have joined := flatten_piecesOf size message
  rw [cut]
  cases pieces : piecesOf size message with
  | nil =>
    rw [pieces] at joined
    exact ⟨[], _, rfl, joined ▸ .single 0 []⟩
  | cons piece rest =>
    rw [pieces, List.flatten_cons] at joined
    rcases List.eq_nil_or_concat rest with rfl | ⟨full, last, same⟩
    · rw [List.flatten_nil, List.append_nil] at joined
      exact ⟨[], _, rfl, joined ▸ .single _ piece⟩
    · obtain rfl : rest = full ++ [last] := same.trans List.concat_eq_append
      have header := header_following 1 (full ++ [last])
      obtain ⟨middle, closing, behind, frags, closes, rfl, rfl⟩ := following_concat 1 full last
      rw [behind] at header
      refine ⟨⟨.sop, 0, 0, UInt16.ofNat message.length, piece⟩ :: middle, closing, ?_, ?_, ?_, ?_, ?_⟩
      · rw [ofPieces, behind]
        · rfl
        · simp
      · exact List.forall_mem_cons.mpr ⟨rfl, fun frame member => by rw [frags frame member]; rfl⟩
      · rw [closes]
        rfl
      · simpa [List.flatMap_def] using joined
      · exact List.forall_mem_cons.mpr ⟨rfl, fun frame member => (header frame member).1⟩

/-- A message of one byte takes one frame. -/
theorem split_singleton {size : Nat} (room : 0 < size) (byte : UInt8) :
    ∃ last, split [byte] size = .ok ([] ++ [last]) ∧ Whole [byte] [] last := by
  obtain ⟨size, rfl⟩ := Nat.exists_eq_succ_of_ne_zero (Nat.ne_of_gt room)
  refine ⟨⟨.single, 0, 0, 1, [byte]⟩, ?_, .single 1 [byte]⟩
  simp [split, maxMessageLength, piecesOf, ofPieces]

end Frame

namespace Assembler

/-- An open package after more frames that leave it open. -/
def gather (assembler : Assembler) (frames : List Frame) : Assembler :=
  frames.foldl (fun grown frame => grown.append frame.payload) assembler

private theorem collected_gather (assembler : Assembler) (frames : List Frame) :
    (assembler.gather frames).collected = assembler.collected ++ frames.flatMap Frame.payload := by
  induction frames generalizing assembler with
  | nil => simp [gather]
  | cons frame rest ih =>
    have step : assembler.gather (frame :: rest) = (assembler.append frame.payload).gather rest := rfl
    rw [step, ih, collected_append, List.flatMap_cons, List.append_assoc]

theorem push_of_leaves {frame : Frame} (leaves : frame.type.closes = false) (assembler : Assembler) :
    assembler.push frame = (none, assembler.append frame.payload) := by
  simp [push, leaves]

theorem push_of_closes {frame : Frame} (closes : frame.type.closes = true) (assembler : Assembler) :
    assembler.push frame = (some (assembler.append frame.payload).collected, empty) := by
  simp [push, closes]

/-- The last frame of a package completes the message for whoever has collected the ones before. -/
theorem push_last {message : Bytes} {opening : List Frame} {last : Frame}
    (whole : Frame.Whole message opening last) :
    (empty.gather opening).push last = (some message, empty) := by
  rw [push_of_closes whole.closes, collected_append, collected_gather, ← whole.payloads]
  simp

end Assembler

end PhoneKey
