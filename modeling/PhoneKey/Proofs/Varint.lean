import Mathlib.Algebra.Group.Nat.Defs
import Mathlib.Data.List.Infix
import PhoneKey.Varint

/-! # Reading numbers from the front

What a reader takes from the front of a byte string is taken whatever follows, and refused if it is cut
short. Readers that come one after the other inherit both. A number in its base-128 form is such a front for
the reader of any width that the number fits.
-/

namespace PhoneKey

/-- A reader takes these bytes for an item: it leaves what follows them alone and refuses them cut short. -/
structure Takes {α : Type} (read? : Bytes → Option (α × Bytes)) (bytes : Bytes) (item : α) : Prop where
  whole : ∀ rest, read? (bytes ++ rest) = some (item, rest)
  short : ∀ part, part <+: bytes → part ≠ bytes → read? part = none

namespace Takes

variable {α β : Type} {read? : Bytes → Option (α × Bytes)} {bytes part rest : Bytes} {item : α}

/-- What comes after a reader finds what the reader left. -/
theorem bind_whole (takes : Takes read? bytes item) (rest : Bytes) (next : α × Bytes → Option β) :
    (read? (bytes ++ rest) >>= next) = next (item, rest) := by
  rw [takes.whole rest]
  rfl

theorem bind_last (takes : Takes read? bytes item) {next : α × Bytes → Option β} (cut : part <+: bytes)
    (less : part ≠ bytes) : (read? part >>= next) = none := by
  rw [takes.short part cut less]
  rfl

/-- Bytes that are cut short are refused by the first reader that does not find all of its own. -/
theorem bind_short (takes : Takes read? bytes item) {next : α × Bytes → Option β}
    (cut : part <+: bytes ++ rest) (less : part ≠ bytes ++ rest)
    (following : ∀ tail, tail <+: rest → tail ≠ rest → next (item, tail) = none) :
    (read? part >>= next) = none := by
  rcases List.prefix_or_prefix_of_prefix cut (List.prefix_append bytes rest) with inside | ⟨tail, rfl⟩
  · by_cases whole : part = bytes
    · subst whole
      have nonempty : [] ≠ rest := fun empty => less (by rw [← empty, List.append_nil])
      have refused := following [] List.nil_prefix nonempty
      rw [← List.append_nil part, takes.bind_whole, refused]
    · exact takes.bind_last inside whole
  · rw [takes.bind_whole]
    exact following tail ((List.prefix_append_right_inj bytes).mp cut) fun same => less (by rw [same])

end Takes

namespace Varint

/-- The base-128 form of a number: seven bits a byte, lowest first, with the high bit set on every byte but
the last. -/
inductive Spells : Nat → Bytes → Prop
  | last {number : Nat} (small : number < 128) : Spells number [UInt8.ofNat number]
  | more {number : Nat} {rest : Bytes} (large : 128 ≤ number) (higher : Spells (number / 128) rest) :
      Spells number (UInt8.ofNat (number % 128 + 128) :: rest)

private theorem toNat_last {number : Nat} (small : number < 128) : (UInt8.ofNat number).toNat = number :=
  UInt8.toNat_ofNat_of_lt' (small.trans (by decide))

private theorem toNat_more (number : Nat) : (UInt8.ofNat (number % 128 + 128)).toNat = number % 128 + 128 :=
  UInt8.toNat_ofNat_of_lt' (Nat.add_lt_add_right (Nat.mod_lt number (by decide)) 128)

/-- What is left of a number that does not fit one byte takes seven bits less. -/
theorem narrower {width number : Nat} (fits : number < 2 ^ width) (large : 128 ≤ number) :
    7 < width ∧ number / 128 < 2 ^ (width - 7) ∧ 2 ^ width / 128 = 2 ^ (width - 7) := by
  have wide : 7 < width := by
    by_contra narrow
    have least : 2 ^ width ≤ 2 ^ 7 := Nat.pow_le_pow_right (by decide) (Nat.not_lt.mp narrow)
    omega
  have split : 2 ^ width = 128 * 2 ^ (width - 7) := by
    rw [show 128 = 2 ^ 7 from rfl, ← Nat.pow_add]
    congr 1
    omega
  exact ⟨wide, by omega, by omega⟩

theorem spells_encode {length width number : Nat} (positive : 0 < width) (room : width ≤ 7 * length)
    (fits : number < 2 ^ width) : Spells number (encode length number) := by
  induction length generalizing width number with
  | zero => omega
  | succ length ih =>
    rw [encode]
    split
    · next small => exact .last small
    · next wide =>
      obtain ⟨above, smaller, -⟩ := narrower fits (Nat.not_lt.mp wide)
      exact .more (Nat.not_lt.mp wide) (ih (by omega) (by omega) smaller)

theorem decode?_encode {length width number : Nat} (positive : 0 < width) (room : width ≤ 7 * length)
    (fits : number < 2 ^ width) (rest : Bytes) :
    decode? length (2 ^ width) (encode length number ++ rest) = some (number, rest) := by
  -- On the bytes that may still follow; the bits that are left shrink by seven with each.
  induction length generalizing width number with
  | zero => omega
  | succ length ih =>
    rw [encode]
    split
    · next small => simp [decode?, toNat_last small, small, Nat.not_le.mpr fits]
    · next wide =>
      obtain ⟨above, smaller, shrunk⟩ := narrower fits (Nat.not_lt.mp wide)
      have following := ih (by omega) (by omega) smaller
      have continues : ¬ number % 128 + 128 < 128 := by omega
      rw [List.cons_append, decode?, toNat_more, if_neg continues, shrunk, following]
      simp only [Option.map_some, Option.some.injEq, Prod.mk.injEq, and_true]
      omega

theorem decode?_short {length number bound : Nat} {part : Bytes} (cut : part <+: encode length number)
    (less : part ≠ encode length number) : decode? length bound part = none := by
  induction length generalizing number bound part with
  | zero => rfl
  | succ length ih =>
    cases part with
    | nil => rfl
    | cons byte part =>
      rw [encode] at cut less
      split at cut
      · next small =>
        obtain ⟨rfl, nothing⟩ := List.cons_prefix_cons.mp cut
        rw [if_pos small, List.prefix_nil.mp nothing] at less
        exact absurd rfl less
      · next wide =>
        obtain ⟨rfl, inside⟩ := List.cons_prefix_cons.mp cut
        rw [if_neg wide] at less
        have continues : ¬ number % 128 + 128 < 128 := by omega
        rw [decode?, toNat_more, if_neg continues, ih inside fun same => less (by rw [same])]
        rfl

private theorem room_of_maxLength (width : Nat) : width ≤ 7 * maxLength width := by
  rw [maxLength]
  omega

/-- A number is written in its base-128 form. -/
theorem spells_write {width number : Nat} (positive : 0 < width) (fits : number < 2 ^ width) :
    Spells number (write width number) :=
  spells_encode positive (room_of_maxLength width) fits

/-- What was written of a number is read back. -/
theorem takes_write {width number : Nat} (positive : 0 < width) (fits : number < 2 ^ width) :
    Takes (read? width) (write width number) number where
  whole rest := by
    rw [read?, Nat.one_shiftLeft]
    exact decode?_encode positive (room_of_maxLength width) fits rest
  short part cut less := decode?_short cut less

end Varint

end PhoneKey
