import Mathlib.Data.List.DropRight
import PhoneKey.Message.Payload
import PhoneKey.Session.Request
import PhoneKey.Simulation.Sorc

/-! # Grants on the wire

The payload of an answer is readable exactly if it is long enough, its status is known and its text has seven
bits. What is read is what was written, but for the control characters around the text. A peer reads the
number of a grant from its request.
-/

namespace PhoneKey

namespace Text

variable {α β : Type} {drops : α → Bool} {items core : List α}

/-- Neither end of a list belongs to a class. -/
structure Bare (drops : α → Bool) (items : List α) : Prop where
  first : ∀ item, items.head? = some item → drops item = false
  last : ∀ item, items.getLast? = some item → drops item = false

/-- What is left of a list without the longest runs of members of a class at both ends. -/
structure Trims (drops : α → Bool) (items core : List α) : Prop where
  framed : ∃ lead trail, items = lead ++ core ++ trail ∧ (∀ item ∈ lead, drops item = true) ∧
    ∀ item ∈ trail, drops item = true
  bare : Bare drops core

private theorem trim_eq (drops : α → Bool) (items : List α) :
    trim drops items = (items.dropWhile drops).rdropWhile drops := rfl

private theorem bare_trim (drops : α → Bool) (items : List α) : Bare drops (trim drops items) := by
  rw [trim_eq]
  constructor
  case first =>
    intro item found
    have first := List.head?_dropWhile_not drops items
    obtain ⟨tail, whole⟩ := List.rdropWhile_prefix drops (items.dropWhile drops)
    have kept : (items.dropWhile drops).head? = some item := by
      rw [← whole, List.head?_append, found]
      rfl
    rwa [kept] at first
  case last =>
    intro item found
    rw [← List.getLast_of_getLast?_eq_some found]
    exact Bool.eq_false_iff.mpr (List.rdropWhile_last_not drops _ _)

/-- Trimming drops the longest runs at both ends and nothing else. -/
theorem trims_trim (drops : α → Bool) (items : List α) : Trims drops items (trim drops items) where
  framed := by
    refine ⟨items.takeWhile drops, (items.dropWhile drops).rtakeWhile drops, ?_,
      fun item member => List.mem_takeWhile_imp member, fun item member => List.mem_rtakeWhile_imp member⟩
    rw [trim_eq, List.append_assoc, List.rdropWhile_append_rtakeWhile, List.takeWhile_append_dropWhile]
  bare := bare_trim drops items

theorem trim_eq_self_iff : trim drops items = items ↔ Bare drops items := by
  constructor
  · intro same
    exact same ▸ bare_trim drops items
  · intro bare
    have leading : items.dropWhile drops = items := by
      refine List.dropWhile_eq_self_iff.mpr fun filled => ?_
      rw [bare.first items[0] (List.head?_eq_getElem? ▸ List.getElem?_eq_getElem filled)]
      exact Bool.false_ne_true
    rw [trim_eq, leading]
    refine List.rdropWhile_eq_self_iff.mpr fun filled => ?_
    rw [bare.last _ (List.getLast?_eq_some_getLast filled)]
    exact Bool.false_ne_true

private theorem trim_map (change : β → α) (items : List β) :
    trim drops (items.map change) = (trim (drops ∘ change) items).map change := by
  simp only [trim, List.dropWhile_map, ← List.map_reverse]

end Text

namespace Bytes

private theorem toList_loop (array : ByteArray) (index : Nat) (collected : Bytes) :
    ByteArray.toList.loop array index collected = collected.reverse ++ array.data.toList.drop index := by
  fun_induction ByteArray.toList.loop array index collected with
  | case1 index collected inside ih =>
    have bound : index < array.data.toList.length := by simpa using inside
    have read : array.get! index = array.data.toList[index] := by
      simp [ByteArray.get!, getElem!_pos array.data index inside]
    rw [ih, List.drop_eq_getElem_cons bound, read]
    simp
  | case2 index collected outside =>
    rw [List.drop_eq_nil_of_le (by simpa using Nat.le_of_not_lt outside), List.append_nil]

private theorem toNat_of_ascii {char : Char} (ascii : char.toNat < 128) :
    (UInt8.ofNat char.toNat).toNat = char.toNat :=
  UInt8.toNat_ofNat_of_lt' (ascii.trans (by decide))

/-- A text of seven-bit characters has one byte for each of them. -/
theorem ofText_of_ascii {text : String} (ascii : ∀ char ∈ text.toList, char.toNat < 128) :
    ofText text = text.toList.map fun char => UInt8.ofNat char.toNat := by
  have encoded : text.toUTF8 = (text.toList.flatMap String.utf8EncodeChar).toByteArray :=
    String.utf8Encode_toList.symm
  rw [ofText, ByteArray.toList, toList_loop, encoded, List.toList_data_toByteArray, List.drop_zero,
    List.map_eq_flatMap]
  refine List.flatMap_congr fun char member => ?_
  exact if_pos (Nat.le_of_lt_succ (ascii char member))

end Bytes

namespace Grant

/-- The control characters of seven-bit text. -/
def isControlChar (char : Char) : Bool := char.toNat < 0x20 || char.toNat == 0x7f

/-- The characters of seven-bit text, one for each byte. -/
def letters (text : Bytes) : List Char := text.map fun byte => Char.ofNat byte.toNat

/-- Payloads of answers that can be read. -/
structure Readable (payload : Bytes) : Prop where
  length : 3 ≤ payload.length
  status : ∀ code, payload[2]? = some code → code ≤ 4
  text : ∀ byte ∈ payload.drop 3, byte < 0x80

/-- What a readable payload says. -/
structure Says (payload : Bytes) (response : GrantResponse) : Prop where
  /-- The number stands in front, its lower byte first. -/
  grant : payload.take 2 =
    [UInt8.ofNat (response.grant.toNat % 256), UInt8.ofNat (response.grant.toNat / 256)]
  status : payload[2]? = some response.status.toByte
  text : ∃ core, response.text = String.ofList core ∧
    Text.Trims isControlChar (letters (payload.drop 3)) core

private theorem toNat_letter (byte : UInt8) : (Char.ofNat byte.toNat).toNat = byte.toNat := by
  have small := byte.toNat_lt
  have valid : byte.toNat.isValidChar := .inl (by omega)
  rw [Char.ofNat, dif_pos valid]
  rfl

private theorem isControlChar_letter (byte : UInt8) :
    isControlChar (Char.ofNat byte.toNat) = isControl byte := by
  have delete : (byte.toNat == 0x7f) = (byte == 0x7f) := by
    rw [Bool.eq_iff_iff, beq_iff_eq, beq_iff_eq, ← UInt8.toNat_inj]
    rfl
  rw [isControlChar, isControl, toNat_letter, delete]
  rfl

private theorem letters_trim (text : Bytes) :
    letters (Text.trim isControl text) = Text.trim isControlChar (letters text) := by
  have same : isControlChar ∘ (fun byte : UInt8 => Char.ofNat byte.toNat) = isControl :=
    funext isControlChar_letter
  rw [letters, letters, Text.trim_map, same]

private theorem toByte_of_ofByte? {code : UInt8} {status : GrantStatus}
    (known : GrantStatus.ofByte? code = some status) : status.toByte = code := by
  simpa using List.find?_some known

/-- The statuses are numbered without gaps. -/
theorem exists_status_iff (code : UInt8) : (∃ status, GrantStatus.ofByte? code = some status) ↔ code ≤ 4 := by
  constructor
  · rintro ⟨status, known⟩
    rw [← toByte_of_ofByte? known]
    cases status <;> decide
  · intro small
    have small : code.toNat ≤ 4 := UInt8.le_iff_toNat_le.mp small
    have listed : code = 0 ∨ code = 1 ∨ code = 2 ∨ code = 3 ∨ code = 4 := by
      simp only [← UInt8.toNat_inj, UInt8.toNat_ofNat]
      omega
    rcases listed with rfl | rfl | rfl | rfl | rfl <;> exact ⟨_, rfl⟩

private theorem bytes_of_number (low high : UInt8) :
    [low, high] = [UInt8.ofNat ((UInt16.ofNat (Bytes.ofLittleEndian [low, high])).toNat % 256),
      UInt8.ofNat ((UInt16.ofNat (Bytes.ofLittleEndian [low, high])).toNat / 256)] := by
  have lower := low.toNat_lt
  have upper := high.toNat_lt
  have whole : (UInt16.ofNat (Bytes.ofLittleEndian [low, high])).toNat = low.toNat + 256 * high.toNat :=
    UInt16.toNat_ofNat_of_lt' (by simp only [Bytes.ofLittleEndian, UInt16.size]; omega)
  have first : (low.toNat + 256 * high.toNat) % 256 = low.toNat := by omega
  have second : (low.toNat + 256 * high.toNat) / 256 = high.toNat := by omega
  rw [whole, first, second, UInt8.ofNat_toNat, UInt8.ofNat_toNat]

/-- A request is read as the grant that it was written for. -/
theorem requested?_request (grant : UInt16) : requested? (request grant) = some grant := by
  have read : requested? (request grant) =
      some (UInt16.ofNat (Bytes.ofLittleEndian (Bytes.littleEndian 2 grant.toNat))) := rfl
  have fits : grant.toNat < Bytes.capacity 2 := grant.toNat_lt
  rw [read, Bytes.ofLittleEndian_littleEndian 2 fits, UInt16.ofNat_toNat]

/-- An answer is read as it was written, but for the control characters around its text. -/
theorem response?_answer (sorcId : Uuid) (grant : UInt16) (status : GrantStatus) {text : Bytes}
    (ascii : text.all (· < 0x80) = true) :
    response? sorcId (answer grant status text) =
      some ⟨sorcId, grant, status,
        String.ofList ((Text.trim isControl text).map fun byte => Char.ofNat byte.toNat)⟩ := by
  have fits : grant.toNat < Bytes.capacity 2 := grant.toNat_lt
  have number : UInt16.ofNat (Bytes.ofLittleEndian (Bytes.littleEndian 2 grant.toNat)) = grant := by
    rw [Bytes.ofLittleEndian_littleEndian 2 fits, UInt16.ofNat_toNat]
  simp only [Bytes.littleEndian] at number
  simp only [answer, Bytes.littleEndian, List.cons_append, List.nil_append, response?,
    GrantStatus.ofByte?_toByte, ascii, if_true, number]

private theorem exists_of_readable (sorcId : Uuid) {payload : Bytes} (readable : Readable payload) :
    ∃ response, response? sorcId payload = some response := by
  obtain ⟨length, status, text⟩ := readable
  match payload with
  | low :: high :: code :: rest =>
    obtain ⟨known, found⟩ := (exists_status_iff code).mpr (status code rfl)
    have ascii : rest.all (· < 0x80) = true := List.all_eq_true.mpr fun byte member =>
      decide_eq_true (text byte member)
    simp only [response?, found, ascii, if_true]
    exact ⟨_, rfl⟩

/-- Only what is readable is read, and as what it says. -/
theorem readable_of_response? {sorcId : Uuid} {payload : Bytes} {response : GrantResponse}
    (read : response? sorcId payload = some response) : Readable payload ∧ Says payload response := by
  unfold response? at read
  split at read
  · next low high code text =>
    split at read
    · next status known =>
      split at read
      · next ascii =>
        obtain rfl := Option.some.inj read
        refine ⟨⟨by simp, ?_, ?_⟩, ⟨bytes_of_number low high, ?_, ?_⟩⟩
        · intro found same
          obtain rfl : code = found := by simpa using same
          exact (exists_status_iff code).mp ⟨status, known⟩
        · intro byte member
          exact of_decide_eq_true (List.all_eq_true.mp ascii byte member)
        · exact congrArg some (toByte_of_ofByte? known).symm
        · exact ⟨_, congrArg String.ofList (letters_trim text), Text.trims_trim _ _⟩
      · cases read
    · cases read
  · cases read

private theorem letters_ofText {text : String} (ascii : ∀ char ∈ text.toList, char.toNat < 128) :
    letters (Bytes.ofText text) = text.toList := by
  rw [letters, Bytes.ofText_of_ascii ascii, List.map_map]
  refine (List.map_congr_left fun char member => ?_).trans (List.map_id _)
  simp only [Function.comp_apply, Bytes.toNat_of_ascii (ascii char member), Char.ofNat_toNat, id_eq]

private theorem all_ofText {text : String} (ascii : ∀ char ∈ text.toList, char.toNat < 128) :
    (Bytes.ofText text).all (· < 0x80) = true := by
  rw [Bytes.ofText_of_ascii ascii, List.all_map]
  refine List.all_eq_true.mpr fun char member => decide_eq_true ?_
  rw [UInt8.lt_iff_toNat_lt, Bytes.toNat_of_ascii (ascii char member)]
  exact ascii char member

/-- The payload of an answer is read exactly if it is readable, and then as what it says. What the peer answers
with a seven-bit text is read as this answer with the text trimmed, and the peer answers the very grant that it
was asked for. -/
theorem answers_decode :
    (∀ sorcId payload, (∃ response, response? sorcId payload = some response) ↔ Readable payload) ∧
    (∀ sorcId payload response, response? sorcId payload = some response →
      response.sorcId = sorcId ∧ Says payload response) ∧
    (∀ sorcId grant status (text : String), (∀ char ∈ text.toList, char.toNat < 128) →
      ∃ core, response? sorcId (Sorc.grantAnswer grant status (.ofText text)).payload =
          some ⟨sorcId, grant, status, String.ofList core⟩ ∧
        Text.Trims isControlChar text.toList core ∧
        (String.ofList core = text ↔ Text.Bare isControlChar text.toList)) ∧
    (∀ grant, requested? (request grant) = some grant ∧
      ∀ (sorc : Sorc) (nonces : Nonces), sorc.profile.answersGrants = true →
        sorc.respond nonces (Request.grant grant).message =
          (some (Sorc.grantAnswer grant sorc.profile.grantStatus sorc.profile.grantText), sorc, nonces)) := by
  refine ⟨?_, ?_, ?_, ?_⟩
  · intro sorcId payload
    constructor
    · rintro ⟨response, read⟩
      exact (readable_of_response? read).1
    · exact exists_of_readable sorcId
  · intro sorcId payload response read
    exact ⟨sorcId_of_response? read, (readable_of_response? read).2⟩
  · intro sorcId grant status text ascii
    refine ⟨Text.trim isControlChar text.toList, ?_, Text.trims_trim _ _, ?_⟩
    · have trimmed := letters_trim (Bytes.ofText text)
      rw [letters_ofText ascii] at trimmed
      rw [← trimmed]
      exact response?_answer sorcId grant status (all_ofText ascii)
    · rw [← Text.trim_eq_self_iff, ← String.toList_inj, String.toList_ofList]
  · intro grant
    refine ⟨requested?_request grant, fun sorc nonces answers => ?_⟩
    simp only [Sorc.respond, Request.message, answers, if_true, requested?_request, Option.map_some]

end Grant

end PhoneKey
