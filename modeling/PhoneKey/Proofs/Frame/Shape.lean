import Mathlib.Algebra.Order.Floor.Div
import PhoneKey.Proofs.Frame

/-! # The shape of a package

A message is cut into as few pieces as its length asks for, all full but the last, and the header of each
frame tells its place. Nothing is cut off on the way into a header: a piece is no longer than the message,
whose length was checked, and a sequence number is meant to start again behind the last one there is.
-/

namespace PhoneKey

/-! ### Pieces -/

/-- All pieces but the last are full; the last holds something, and no more than they do. -/
theorem piecesOf_eq_concat {α : Type} (size : Nat) {items : List α} (filled : items ≠ []) :
    ∃ full last, piecesOf size items = full ++ [last] ∧ (∀ piece ∈ full, piece.length = size + 1) ∧
      0 < last.length ∧ last.length ≤ size + 1 := by
  fun_induction piecesOf size items with
  | case1 => exact absurd rfl filled
  | case2 item rest ih =>
    by_cases short : rest.length ≤ size
    · have done : rest.drop size = [] := List.drop_eq_nil_iff.mpr short
      refine ⟨[], item :: rest.take size, by rw [done, piecesOf]; rfl, List.forall_mem_nil _, by simp, ?_⟩
      simp
    · have further : rest.drop size ≠ [] := by simpa using short
      obtain ⟨full, last, cut, even, positive, fits⟩ := ih further
      refine ⟨(item :: rest.take size) :: full, last, by rw [cut]; rfl, ?_, positive, fits⟩
      refine List.forall_mem_cons.mpr ⟨?_, even⟩
      rw [List.length_cons, List.length_take_of_le (Nat.le_of_not_le short)]

private theorem length_flatten_of_pieces {α : Type} {size : Nat} {full : List (List α)}
    (even : ∀ piece ∈ full, piece.length = size) (last : List α) :
    (full ++ [last]).flatten.length = full.length * size + last.length := by
  have lengths : full.map List.length = List.replicate full.length size := List.map_eq_replicate_iff.mpr even
  simp [List.length_flatten, lengths]

/-- Full pieces and a last one are as many as the items ask for. -/
theorem ceilDiv_of_pieces {α : Type} {size : Nat} {full : List (List α)} {last : List α}
    (even : ∀ piece ∈ full, piece.length = size) (positive : 0 < last.length) (fits : last.length ≤ size) :
    (full ++ [last]).flatten.length ⌈/⌉ size = full.length + 1 := by
  rw [length_flatten_of_pieces even, Nat.ceilDiv_eq_add_pred_div]
  refine Nat.div_eq_of_lt_le ?_ ?_
  · rw [Nat.succ_mul]
    omega
  · rw [Nat.succ_mul, Nat.succ_mul]
    omega

namespace Frame

/-! ### Headers -/

theorem length_toBytes (frame : Frame) : frame.toBytes.length = frame.payload.length + headerSize := rfl

private theorem toNat_length_of_fits {length : Nat} (fits : length ≤ maxMessageLength) :
    (UInt16.ofNat length).toNat = length :=
  UInt16.toNat_ofNat_of_lt' (Nat.lt_succ_of_le fits)

private theorem sequence_following {start index : Nat} {pieces : List Bytes} {frame : Frame}
    (found : (following start pieces)[index]? = some frame) : frame.sequence = UInt8.ofNat (start + index) := by
  fun_induction following start pieces generalizing index with
  | case1 => cases found
  | case2 start piece =>
    cases index with
    | zero =>
      cases found
      rfl
    | succ index => cases found
  | case3 start piece rest some ih =>
    cases index with
    | zero =>
      cases found
      rfl
    | succ index =>
      rw [ih found]
      congr 1
      omega

/-! ### Packages -/

/-- The frames of a message that is cut for frames of at most `size` payload bytes. -/
structure Shaped (message : Bytes) (size : Nat) (frames : List Frame) : Prop where
  count : frames.length = max 1 (message.length ⌈/⌉ size)
  payloads : frames.flatMap Frame.payload = message
  /-- A message that fits one frame travels in one. -/
  alone : message.length ≤ size →
    ∃ frame, frames = [frame] ∧ frame.type = .single ∧ frame.length.toNat = message.length
  /-- A longer one is opened with its whole length and closed once, and only the closing frame may have room
  left. -/
  several : size < message.length → ∃ first middle last, frames = first :: middle ++ [last] ∧
    first.type = .sop ∧ first.length.toNat = message.length ∧
    (∀ frame ∈ middle, frame.type = .frag) ∧ last.type = .eop ∧
    (∀ frame ∈ first :: middle, frame.payload.length = size) ∧
    0 < last.payload.length ∧ last.payload.length ≤ size
  lengths : ∀ frame ∈ frames, frame.type ≠ .sop → frame.length.toNat = frame.payload.length
  numbered : ∀ index frame, frames[index]? = some frame → frame.sequence.toNat = index % 256
  plain : ∀ frame ∈ frames, frame.flags = 0
  narrow : ∀ frame ∈ frames, frame.toBytes.length ≤ size + headerSize

private theorem split_of_short {message : Bytes} {size : Nat} (room : 0 < size)
    (fits : message.length ≤ maxMessageLength) (short : message.length ≤ size) :
    split message size = .ok [⟨.single, 0, 0, UInt16.ofNat message.length, message⟩] := by
  obtain ⟨size, rfl⟩ := Nat.exists_eq_succ_of_ne_zero (Nat.ne_of_gt room)
  rw [split, if_neg (Nat.not_lt.mpr fits)]
  cases message with
  | nil => simp [piecesOf, ofPieces]
  | cons byte rest =>
    have whole : rest.length ≤ size := by simpa using short
    simp [piecesOf, List.take_of_length_le whole, List.drop_eq_nil_iff.mpr whole, ofPieces]

private theorem shaped_single {message : Bytes} {size : Nat} (room : 0 < size)
    (fits : message.length ≤ maxMessageLength) (short : message.length ≤ size) :
    Shaped message size [⟨.single, 0, 0, UInt16.ofNat message.length, message⟩] where
  count := by
    have few : message.length ⌈/⌉ size ≤ 1 := by
      rw [ceilDiv_le_iff_le_smul room]
      simpa using short
    exact (max_eq_left few).symm
  payloads := by simp
  alone _ := ⟨_, rfl, rfl, toNat_length_of_fits fits⟩
  several long := absurd long (Nat.not_lt.mpr short)
  lengths := by simpa using toNat_length_of_fits fits
  numbered index frame found := by
    obtain ⟨rfl, rfl⟩ : index = 0 ∧ _ = frame := by simpa [List.getElem?_singleton] using found
    rfl
  plain := by simp
  narrow := by simpa [length_toBytes] using short

private theorem shaped_several {first last : Bytes} {full : List Bytes} {size : Nat}
    (fits : (first :: full ++ [last]).flatten.length ≤ maxMessageLength)
    (even : ∀ piece ∈ first :: full, piece.length = size) (positive : 0 < last.length) (room : last.length ≤ size) :
    Shaped (first :: full ++ [last]).flatten size
      (⟨.sop, 0, 0, UInt16.ofNat (first :: full ++ [last]).flatten.length, first⟩ ::
        following 1 (full ++ [last])) := by
  have count := ceilDiv_of_pieces even positive room
  have long : size < (first :: full ++ [last]).flatten.length := by
    rw [length_flatten_of_pieces even, List.length_cons, Nat.succ_mul]
    omega
  have header := header_following 1 (full ++ [last])
  obtain ⟨middle, closing, behind, frags, closes, rfl, rfl⟩ := following_concat 1 full last
  obtain ⟨filled, others⟩ := List.forall_mem_cons.mp even
  have even : ∀ frame ∈ middle, frame.payload.length = size := fun frame member =>
    others frame.payload (List.mem_map_of_mem member)
  have narrow : ∀ frame ∈ middle ++ [closing], frame.payload.length ≤ size := by
    rw [List.forall_mem_append, List.forall_mem_singleton]
    exact ⟨fun frame member => Nat.le_of_eq (even frame member), room⟩
  rw [behind] at header ⊢
  exact {
    count := by
      rw [count]
      simp
    payloads := by simp [List.flatMap_def]
    alone := fun short => absurd short (Nat.not_le.mpr long)
    several := fun _ => ⟨_, middle, closing, rfl, rfl, toNat_length_of_fits fits, frags, closes,
      List.forall_mem_cons.mpr ⟨filled, even⟩, positive, room⟩
    lengths := by
      refine List.forall_mem_cons.mpr ⟨fun other => absurd rfl other, fun frame member _ => ?_⟩
      have short := (narrow frame member).trans (Nat.le_of_lt (Nat.lt_of_lt_of_le long fits))
      rw [(header frame member).2]
      exact toNat_length_of_fits short
    numbered := by
      intro index frame found
      cases index with
      | zero =>
        cases found
        rfl
      | succ index =>
        rw [← behind, List.getElem?_cons_succ] at found
        rw [sequence_following found, UInt8.toNat_ofNat', Nat.add_comm]
    plain := List.forall_mem_cons.mpr ⟨rfl, fun frame member => (header frame member).1⟩
    narrow := by
      refine List.forall_mem_cons.mpr ⟨?_, fun frame member => ?_⟩
      · rw [length_toBytes, filled]
      · rw [length_toBytes]
        exact Nat.add_le_add_right (narrow frame member) headerSize }

/-- A message that can be cut is cut into frames of that shape. -/
theorem split_shaped {message : Bytes} {size : Nat} (room : 0 < size) (fits : message.length ≤ maxMessageLength) :
    ∃ frames, split message size = .ok frames ∧ Shaped message size frames := by
  by_cases short : message.length ≤ size
  · exact ⟨_, split_of_short room fits short, shaped_single room fits short⟩
  · obtain ⟨size, rfl⟩ := Nat.exists_eq_succ_of_ne_zero (Nat.ne_of_gt room)
    have filled : message ≠ [] := fun empty => short (by simp [empty])
    obtain ⟨full, last, cut, even, positive, narrow⟩ := piecesOf_eq_concat size filled
    have joined : message = (full ++ [last]).flatten := cut ▸ (flatten_piecesOf size message).symm
    cases full with
    | nil =>
      have alone : message = last := by simpa using joined
      exact absurd (alone ▸ narrow) short
    | cons first full =>
      refine ⟨_, ?_, joined ▸ shaped_several (joined ▸ fits) even positive narrow⟩
      rw [split, if_neg (Nat.not_lt.mpr fits), cut, List.cons_append, ofPieces]
      simp

end Frame

namespace Package

/-- What becomes of cutting a message: it fails when frames have no room, else when the length does not fit a
header, and never otherwise. -/
structure Cuts (message : Bytes) (size : Nat) (made : Except FrameError Package) : Prop where
  roomless : made = .error .emptyFrameSize ↔ size = 0
  oversized : made = .error .messageTooLarge ↔ size ≠ 0 ∧ maxMessageLength < message.length
  /-- All frames are still to be confirmed, and none is larger than a link that the size was taken from
  carries at once. -/
  shaped : size ≠ 0 → message.length ≤ maxMessageLength →
    ∃ frames, made = .ok ⟨message, frames⟩ ∧ Frame.Shaped message size frames ∧
      ∀ mtu, size = Frame.sizeForMtu mtu → ∀ frame ∈ frames, frame.toBytes.length ≤ mtu

/-- Every message is cut as its length and the frame size ask for. -/
theorem make_cuts (message : Bytes) (size : Nat) : Cuts message size (make message size) := by
  cases size with
  | zero => exact ⟨by simp [make, Frame.split, Except.map], by simp [make, Frame.split, Except.map], by simp⟩
  | succ size =>
    by_cases large : maxMessageLength < message.length
    · have refused : make message (size + 1) = .error .messageTooLarge := by
        simp [make, Frame.split, large, Except.map]
      refine ⟨by simp [refused], by simp [refused, large], fun _ fits => ?_⟩
      exact absurd large (Nat.not_lt.mpr fits)
    · obtain ⟨frames, split, shaped⟩ := Frame.split_shaped (Nat.succ_pos size) (Nat.le_of_not_lt large)
      have cut : make message (size + 1) = .ok ⟨message, frames⟩ := by
        rw [make, split]
        rfl
      refine ⟨by simp [cut], by simp [cut, large], fun _ _ => ⟨frames, cut, shaped, fun mtu same frame member => ?_⟩⟩
      have narrow := shaped.narrow frame member
      rw [Frame.sizeForMtu] at same
      omega

end Package

end PhoneKey
