import PhoneKey.Bytes

/-! # Sixteen-byte blocks

A block is four words of four bytes, in reading order. Blocks carry the cipher state, nonces, keys
and the value of an identifier. Splitting a byte string into whole blocks loses nothing.
-/

namespace PhoneKey

structure Word where
  b0 : UInt8
  b1 : UInt8
  b2 : UInt8
  b3 : UInt8
deriving DecidableEq, Repr, Inhabited

structure Block where
  w0 : Word
  w1 : Word
  w2 : Word
  w3 : Word
deriving DecidableEq, Repr, Inhabited

namespace Word

def zero : Word := ⟨0, 0, 0, 0⟩

def xor (left right : Word) : Word :=
  ⟨left.b0 ^^^ right.b0, left.b1 ^^^ right.b1, left.b2 ^^^ right.b2, left.b3 ^^^ right.b3⟩

def toList (word : Word) : Bytes := [word.b0, word.b1, word.b2, word.b3]

@[simp] theorem length_toList (word : Word) : word.toList.length = 4 := rfl

@[simp] theorem xor_self (word : Word) : word.xor word = zero := by simp [xor, zero]

theorem xor_comm (left right : Word) : left.xor right = right.xor left := by
  simp [xor, UInt8.xor_comm]

theorem xor_assoc (first second third : Word) :
    (first.xor second).xor third = first.xor (second.xor third) := by
  simp [xor, UInt8.xor_assoc]

@[simp] theorem xor_zero (word : Word) : word.xor zero = word := by simp [xor, zero]

end Word

namespace Block

def zero : Block := ⟨.zero, .zero, .zero, .zero⟩

/-- Bytes in a block. -/
def size : Nat := 16

def xor (left right : Block) : Block :=
  ⟨left.w0.xor right.w0, left.w1.xor right.w1, left.w2.xor right.w2, left.w3.xor right.w3⟩

def toList (block : Block) : Bytes :=
  block.w0.toList ++ block.w1.toList ++ block.w2.toList ++ block.w3.toList

/-- The first whole block of a byte string and the bytes after it. -/
def take? : Bytes → Option (Block × Bytes)
  | a0 :: a1 :: a2 :: a3 :: b0 :: b1 :: b2 :: b3 :: c0 :: c1 :: c2 :: c3 :: d0 :: d1 :: d2 :: d3 :: rest =>
    some (⟨⟨a0, a1, a2, a3⟩, ⟨b0, b1, b2, b3⟩, ⟨c0, c1, c2, c3⟩, ⟨d0, d1, d2, d3⟩⟩, rest)
  | _ => none

/-- A byte string of exactly one block. -/
def ofBytes? (bytes : Bytes) : Option Block :=
  match take? bytes with
  | some (block, []) => some block
  | _ => none

/-- The whole blocks of a byte string and the fewer than sixteen bytes left over. -/
def split : Bytes → List Block × Bytes
  | a0 :: a1 :: a2 :: a3 :: b0 :: b1 :: b2 :: b3 :: c0 :: c1 :: c2 :: c3 :: d0 :: d1 :: d2 :: d3 :: rest =>
    let (blocks, tail) := split rest
    (⟨⟨a0, a1, a2, a3⟩, ⟨b0, b1, b2, b3⟩, ⟨c0, c1, c2, c3⟩, ⟨d0, d1, d2, d3⟩⟩ :: blocks, tail)
  | tail => ([], tail)

/-- The bytes of a row of blocks. -/
def join (blocks : List Block) : Bytes := blocks.flatMap toList

@[simp] theorem length_toList (block : Block) : block.toList.length = 16 := rfl

@[simp] theorem length_join (blocks : List Block) : (join blocks).length = 16 * blocks.length := by
  induction blocks with
  | nil => rfl
  | cons block rest ih =>
    simp only [join, List.flatMap_cons, List.length_append, length_toList, List.length_cons] at ih ⊢
    omega

@[simp] theorem take?_toList_append (block : Block) (rest : Bytes) :
    take? (block.toList ++ rest) = some (block, rest) := rfl

@[simp] theorem ofBytes?_toList (block : Block) : ofBytes? block.toList = some block := rfl

@[simp] theorem split_toList_append (block : Block) (rest : Bytes) :
    split (block.toList ++ rest) = (block :: (split rest).1, (split rest).2) := rfl

theorem split_join (blocks : List Block) : split (join blocks) = (blocks, []) := by
  induction blocks with
  | nil => rfl
  | cons block rest ih =>
    have step := split_toList_append block (join rest)
    rw [ih] at step
    exact step

theorem join_split (bytes : Bytes) : join (split bytes).1 ++ (split bytes).2 = bytes := by
  fun_induction split bytes with
  | case1 a0 a1 a2 a3 b0 b1 b2 b3 c0 c1 c2 c3 d0 d1 d2 d3 rest blocks tail whole ih =>
    rw [whole] at ih
    simp only [join, List.flatMap_cons, toList, Word.toList] at ih ⊢
    simp [ih]
  | case2 => rfl

@[simp] theorem xor_self (block : Block) : block.xor block = zero := by simp [xor, zero]

theorem xor_comm (left right : Block) : left.xor right = right.xor left := by
  simp only [xor, Word.xor_comm]

theorem xor_assoc (first second third : Block) :
    (first.xor second).xor third = first.xor (second.xor third) := by
  simp only [xor, Word.xor_assoc]

@[simp] theorem xor_zero (block : Block) : block.xor zero = block := by simp [xor, zero]

/-- Adding the same block twice restores the first. -/
@[simp] theorem xor_xor_cancel_right (block mask : Block) : (block.xor mask).xor mask = block := by
  rw [xor_assoc, xor_self, xor_zero]

/-- Moves the last byte of a block to its front. -/
def rotate (block : Block) : Block :=
  ⟨⟨block.w3.b3, block.w0.b0, block.w0.b1, block.w0.b2⟩,
   ⟨block.w0.b3, block.w1.b0, block.w1.b1, block.w1.b2⟩,
   ⟨block.w1.b3, block.w2.b0, block.w2.b1, block.w2.b2⟩,
   ⟨block.w2.b3, block.w3.b0, block.w3.b1, block.w3.b2⟩⟩

/-- Moves the first byte of a block to its end. -/
def rotateBack (block : Block) : Block :=
  ⟨⟨block.w0.b1, block.w0.b2, block.w0.b3, block.w1.b0⟩,
   ⟨block.w1.b1, block.w1.b2, block.w1.b3, block.w2.b0⟩,
   ⟨block.w2.b1, block.w2.b2, block.w2.b3, block.w3.b0⟩,
   ⟨block.w3.b1, block.w3.b2, block.w3.b3, block.w0.b0⟩⟩

@[simp] theorem rotateBack_rotate (block : Block) : block.rotate.rotateBack = block := rfl

@[simp] theorem rotate_rotateBack (block : Block) : block.rotateBack.rotate = block := rfl

end Block

end PhoneKey
