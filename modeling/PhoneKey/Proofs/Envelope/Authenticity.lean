import Mathlib.Data.List.DropRight
import PhoneKey.Proofs.Envelope.Reflection

/-! # What opens, and to what

Data opens if its length is that of whole blocks and a code and if the code is the one for the start that is
expected; the length is looked at first. What does not open leaves the context as it was. What opens moves
the incoming chain to its last encrypted block and gives the decrypted text without the header and without
the zeros that the header names, as far as there are any. Nothing is looked for in places that do not exist.
-/

namespace PhoneKey

namespace Bytes

/-- What is left of a number, unless more is taken away than there is. -/
def difference? (whole part : Nat) : Option Nat := if part ≤ whole then some (whole - part) else none

/-- The bytes before a place and those from it on, unless it lies behind the end. -/
def splitAt? (bytes : Bytes) (place : Nat) : Option (Bytes × Bytes) :=
  if place ≤ bytes.length then some (bytes.take place, bytes.drop place) else none

private theorem difference?_of_le {whole part : Nat} (enough : part ≤ whole) :
    difference? whole part = some (whole - part) := if_pos enough

private theorem splitAt?_of_le {bytes : Bytes} {place : Nat} (inside : place ≤ bytes.length) :
    bytes.splitAt? place = some (bytes.take place, bytes.drop place) := if_pos inside

end Bytes

namespace Envelope

/-- The zeros at the end of a text. -/
def trailingZeros (text : Bytes) : Nat := (text.rtakeWhile (· == 0)).length

private theorem length_takeWhile_reverse (text : Bytes) :
    (text.reverse.takeWhile (· == 0)).length = trailingZeros text := by
  rw [trailingZeros, List.rtakeWhile, List.length_reverse]

private theorem trailingZeros_le (text : Bytes) : trailingZeros text ≤ text.length :=
  (List.rtakeWhile_suffix _ text).length_le

/-- No more bytes than there are zeros at the end of a text are zeros at its end. -/
theorem take_append_zeros (text : Bytes) {count : Nat} (few : count ≤ trailingZeros text) :
    text.take (text.length - count) ++ List.replicate count 0 = text := by
  have enough := trailingZeros_le text
  have ending : text.rtakeWhile (· == 0) = text.drop (text.length - trailingZeros text) :=
    List.suffix_iff_eq_drop.mp (List.rtakeWhile_suffix _ text)
  have fewer : text.drop (text.length - count) =
      (text.rtakeWhile (· == 0)).drop (trailingZeros text - count) := by
    rw [ending, List.drop_drop]
    congr 1
    omega
  have zeros : text.drop (text.length - count) = List.replicate count 0 := by
    refine List.eq_replicate_iff.mpr ⟨by rw [List.length_drop]; omega, fun byte member => ?_⟩
    rw [fewer] at member
    simpa using List.mem_rtakeWhile_imp (List.mem_of_mem_drop member)
  rw [← zeros, List.take_append_drop]

/-- A text without the zeros that are dropped for its header has them behind it. -/
theorem messageOf_cons (header : UInt8) (body : Bytes) :
    messageOf (header :: body) ++ List.replicate (min (header >>> 4).toNat (trailingZeros body)) 0 = body := by
  simp only [messageOf, length_takeWhile_reverse]
  exact take_append_zeros body (Nat.min_le_right _ _)

/-- Every block is decrypted and added to the one before it; the first is added to the start. -/
theorem decryptChain_eq_zipWith (cipher : Aes.Cipher) (start : Block) (blocks : List Block) :
    decryptChain cipher start blocks =
      List.zipWith (fun block previous => (cipher.decrypt block).xor previous) blocks
        (start :: blocks.dropLast) := by
  induction blocks generalizing start with
  | nil => rfl
  | cons block rest ih =>
    rw [decryptChain, ih, List.zipWith_cons_cons]
    cases rest <;> rfl

@[simp] theorem length_decryptChain (cipher : Aes.Cipher) (start : Block) (blocks : List Block) :
    (decryptChain cipher start blocks).length = blocks.length := by
  induction blocks generalizing start with
  | nil => rfl
  | cons block rest ih => rw [decryptChain, List.length_cons, ih, List.length_cons]

/-- The length of one or more blocks and a code. -/
def Sized (data : Bytes) : Prop := ∃ count, 1 ≤ count ∧ data.length = macSize + Block.size * count

theorem sized_iff (data : Bytes) :
    Sized data ↔ macSize < data.length ∧ (data.length - macSize) % Block.size = 0 := by
  simp only [Sized, macSize, Block.size]
  constructor
  · rintro ⟨count, positive, length⟩
    omega
  · rintro ⟨large, whole⟩
    exact ⟨(data.length - 8) / 16, by omega, by omega⟩

private theorem length_take_of_sized {data : Bytes} (sized : Sized data) :
    (data.take (data.length - macSize)).length % Block.size = 0 ∧
      data.take (data.length - macSize) ≠ [] ∧
      (data.drop (data.length - macSize)).length = macSize := by
  obtain ⟨large, whole⟩ := (sized_iff data).mp sized
  have front : (data.take (data.length - macSize)).length = data.length - macSize := by
    rw [List.length_take]
    omega
  refine ⟨by rw [front, whole], fun empty => ?_, by rw [List.length_drop]; omega⟩
  rw [empty, List.length_nil] at front
  omega

/-- The text of data of the right length has a header. -/
theorem text_of_sized {data : Bytes} (sized : Sized data) (cipher : Aes.Cipher) (start : Block) :
    ∃ header body, Block.join (decryptChain cipher start
      (Block.split (data.take (data.length - macSize))).1) = header :: body := by
  obtain ⟨whole, some_block, _⟩ := length_take_of_sized sized
  rw [← List.length_pos_iff, ← Block.join_split_of_whole whole, Block.length_join] at some_block
  refine List.exists_cons_of_length_pos ?_
  rw [Block.length_join, length_decryptChain]
  exact some_block

end Envelope

namespace SealingContext

open Envelope

/-- The authentication code that is expected, cut out of the whole one. -/
def code? (context : SealingContext) (ciphertext : Bytes) : Option Bytes := do
  let unused ← Bytes.difference? Block.size macSize
  let (_, code) ← (context.cipher.cmac (context.openStart.toList ++ ciphertext)).toList.splitAt? unused
  some code

/-- Opening step by step. There is no answer where more is subtracted than there is or where a place is
looked for behind the end. -/
def decrypt? (context : SealingContext) (data : Bytes) :
    Option (Except CipherError (Bytes × SealingContext)) :=
  if data.length ≤ macSize then some (.error .invalidLength)
  else do
    let front ← Bytes.difference? data.length macSize
    let (ciphertext, code) ← data.splitAt? front
    if ciphertext = [] ∨ ciphertext.length % Block.size ≠ 0 then some (.error .invalidLength)
    else do
      let expected ← context.code? ciphertext
      if expected ≠ code then some (.error .macMismatch)
      else do
        let chain := (Block.split ciphertext).1
        let text := Block.join (decryptChain context.cipher context.openStart chain)
        let header ← text[0]?
        let (_, body) ← text.splitAt? 1
        let kept ← Bytes.difference? body.length (min (header >>> 4).toNat (trailingZeros body))
        some (.ok (body.take kept, { context with openStart := chainEnd context.openStart chain }))

variable {context : SealingContext} {data : Bytes}

private theorem decrypt_of_not_sized (context : SealingContext) (odd : ¬ Sized data) :
    context.decrypt data = .error .invalidLength := by
  rw [sized_iff] at odd
  have refused : data.length ≤ macSize ∨
      (data.take (data.length - macSize)).length % Block.size ≠ 0 := by
    rw [List.length_take, Nat.min_eq_left (Nat.sub_le _ _)]
    omega
  rw [decrypt, if_pos refused]

/-- Data of the right length is judged by its code. -/
theorem decrypt_of_sized (context : SealingContext) (sized : Sized data) :
    context.decrypt data =
      if mac context.cipher context.openStart (data.take (data.length - macSize)) =
          data.drop (data.length - macSize) then
        .ok (messageOf (Block.join (decryptChain context.cipher context.openStart
            (Block.split (data.take (data.length - macSize))).1)),
          { context with
            openStart := chainEnd context.openStart
              (Block.split (data.take (data.length - macSize))).1 })
      else .error .macMismatch := by
  obtain ⟨whole, some_block, size⟩ := length_take_of_sized sized
  have opened := context.decrypt_append whole some_block size
  rwa [List.take_append_drop] at opened

private theorem code?_eq (context : SealingContext) (ciphertext : Bytes) :
    context.code? ciphertext = some (mac context.cipher context.openStart ciphertext) := by
  have unused : macSize ≤ Block.size := by decide
  simp only [code?, Bytes.difference?_of_le unused, Option.bind_eq_bind, Option.bind_some]
  rw [Bytes.splitAt?_of_le (by rw [Block.length_toList]; decide)]
  rfl

/-- Nothing is ever missing. -/
theorem decrypt?_eq (context : SealingContext) (data : Bytes) :
    context.decrypt? data = some (context.decrypt data) := by
  by_cases sized : Sized data
  · have large := ((sized_iff data).mp sized).1
    obtain ⟨whole, some_block, -⟩ := length_take_of_sized sized
    obtain ⟨header, body, text⟩ := text_of_sized sized context.cipher context.openStart
    rw [decrypt_of_sized context sized, decrypt?, if_neg (Nat.not_le.mpr large),
      Bytes.difference?_of_le large.le]
    simp only [Option.bind_eq_bind, Option.bind_some, Bytes.splitAt?_of_le (Nat.sub_le data.length macSize),
      if_neg (not_or.mpr ⟨some_block, not_not.mpr whole⟩), code?_eq]
    by_cases authentic : mac context.cipher context.openStart (data.take (data.length - macSize)) =
        data.drop (data.length - macSize)
    · have zeros : min (header >>> 4).toNat (trailingZeros body) ≤ body.length :=
        (Nat.min_le_right _ _).trans (trailingZeros_le body)
      have place : 1 ≤ (header :: body).length := Nat.le_add_left 1 _
      rw [if_neg (not_not.mpr authentic), if_pos authentic, text]
      simp only [List.getElem?_cons_zero, Option.bind_some, Bytes.splitAt?_of_le place, List.drop_succ_cons,
        List.drop_zero, Bytes.difference?_of_le zeros, messageOf, length_takeWhile_reverse]
    · rw [if_pos authentic, if_neg authentic]
  · rw [decrypt_of_not_sized context sized, decrypt?]
    rw [sized_iff] at sized
    by_cases small : data.length ≤ macSize
    · rw [if_pos small]
    · have front := Nat.sub_le data.length macSize
      have odd : (data.take (data.length - macSize)).length % Block.size ≠ 0 := by
        rw [List.length_take, Nat.min_eq_left front]
        omega
      rw [if_neg small, Bytes.difference?_of_le (Nat.le_of_lt (Nat.not_le.mp small))]
      simp only [Option.bind_eq_bind, Option.bind_some, Bytes.splitAt?_of_le front, if_pos (Or.inr odd)]

/-- What an end of a session makes of data. -/
structure Screens (context : SealingContext) (data : Bytes) : Prop where
  invalidLength_iff : context.decrypt data = .error .invalidLength ↔ ¬ Sized data
  macMismatch_iff : context.decrypt data = .error .macMismatch ↔
    Sized data ∧ data.drop (data.length - macSize) ≠
      (context.cipher.cmac (context.openStart.toList ++ data.take (data.length - macSize))).toList.drop 8
  opens_iff : (∃ opened, context.decrypt data = .ok opened) ↔
    Sized data ∧ data.drop (data.length - macSize) =
      (context.cipher.cmac (context.openStart.toList ++ data.take (data.length - macSize))).toList.drop 8
  /-- What does not open leaves no trace. -/
  kept : ∀ cause, context.decrypt data = .error cause →
    (context.operate (.decrypt data)).state = context ∧
      (Protection.sealed context).unprotect data = (.invalid, .sealed context)
  /-- What opens is a chain of blocks. It moves on to the last of them, and their text is header, message and
  the zeros that are dropped. -/
  opened : ∀ message next, context.decrypt data = .ok (message, next) →
    ∃ blocks last header body, data.take (data.length - macSize) = Block.join (blocks ++ [last]) ∧
      next = { context with openStart := last } ∧
      Block.join (List.zipWith (fun block previous => (context.cipher.decrypt block).xor previous)
        (blocks ++ [last]) (context.openStart :: blocks)) = header :: body ∧
      message ++ List.replicate (min (header >>> 4).toNat (trailingZeros body)) 0 = body
  in_range : context.decrypt? data = some (context.decrypt data)

private theorem opened_of_decrypt {message : Bytes} {next : SealingContext}
    (decrypted : context.decrypt data = .ok (message, next)) :
    ∃ blocks last header body, data.take (data.length - macSize) = Block.join (blocks ++ [last]) ∧
      next = { context with openStart := last } ∧
      Block.join (List.zipWith (fun block previous => (context.cipher.decrypt block).xor previous)
        (blocks ++ [last]) (context.openStart :: blocks)) = header :: body ∧
      message ++ List.replicate (min (header >>> 4).toNat (trailingZeros body)) 0 = body := by
  have sized : Sized data := by
    by_contra odd
    rw [decrypt_of_not_sized context odd] at decrypted
    cases decrypted
  obtain ⟨whole, some_block, -⟩ := length_take_of_sized sized
  obtain ⟨header, body, text⟩ := text_of_sized sized context.cipher context.openStart
  have joined := Block.join_split_of_whole whole
  rw [decrypt_of_sized context sized] at decrypted
  generalize data.take (data.length - macSize) = ciphertext at *
  generalize (Block.split ciphertext).1 = chain at *
  subst joined
  obtain ⟨blocks, last, rfl⟩ : ∃ blocks last, chain = blocks ++ [last] := by
    rcases List.eq_nil_or_concat chain with rfl | found
    · exact absurd rfl some_block
    · obtain ⟨blocks, last, found⟩ := found
      exact ⟨blocks, last, found.trans List.concat_eq_append⟩
  split at decrypted
  · cases decrypted
    refine ⟨blocks, last, header, body, rfl, ?_, ?_, ?_⟩
    · rw [chainEnd, List.getLast?_concat]
      rfl
    · rw [← text, decryptChain_eq_zipWith, List.dropLast_concat]
    · rw [text]
      exact messageOf_cons header body
  · cases decrypted

/-- Every end of a session opens what is authentic and nothing else, whatever data it is given. -/
theorem screens_data (context : SealingContext) (data : Bytes) : Screens context data := by
  have code : (context.cipher.cmac (context.openStart.toList ++
        data.take (data.length - macSize))).toList.drop 8 =
      mac context.cipher context.openStart (data.take (data.length - macSize)) := rfl
  constructor
  case invalidLength_iff =>
    by_cases sized : Sized data
    · rw [decrypt_of_sized context sized]
      split <;> simp [sized]
    · simp [decrypt_of_not_sized context sized, sized]
  case macMismatch_iff =>
    by_cases sized : Sized data
    · rw [decrypt_of_sized context sized, code, ne_comm]
      split <;> simp [*]
    · simp [decrypt_of_not_sized context sized, sized]
  case opens_iff =>
    by_cases sized : Sized data
    · rw [decrypt_of_sized context sized, code, eq_comm (b := mac _ _ _)]
      split <;> simp [*]
    · simp [decrypt_of_not_sized context sized, sized]
  case kept =>
    intro cause refused
    simp only [operate, Protection.unprotect, refused]
    exact ⟨rfl, trivial⟩
  case opened => exact fun _ _ => opened_of_decrypt
  case in_range => exact decrypt?_eq context data

end SealingContext

end PhoneKey
