import PhoneKey.Block
import PhoneKey.Aes.Substitution

/-! # The layers of an AES round

The cipher state is a block whose words are the columns. Each layer of a round has an inverse: the
substitution of every byte, the rotation of the rows and the mixing of each column, which is linear
over exclusive or.
-/

namespace PhoneKey.Aes

/-- Doubling in the field of bytes: a carry out of the top bit adds the four bits of 0x1b. -/
def double (byte : UInt8) : UInt8 :=
  let carry := byte >>> 7
  (byte <<< 1) ^^^ carry ^^^ (carry <<< 1) ^^^ (carry <<< 3) ^^^ (carry <<< 4)

private theorem xor_left_comm (a b c : UInt8) : a ^^^ (b ^^^ c) = b ^^^ (a ^^^ c) := by
  rw [← UInt8.xor_assoc, UInt8.xor_comm a b, UInt8.xor_assoc]

private theorem xor_cancel_left (a b : UInt8) : a ^^^ (a ^^^ b) = b := by
  rw [← UInt8.xor_assoc, UInt8.xor_self, UInt8.zero_xor]

theorem double_xor (left right : UInt8) : double (left ^^^ right) = double left ^^^ double right := by
  simp only [double, UInt8.shiftLeft_xor, UInt8.shiftRight_xor]
  simp only [UInt8.xor_assoc, UInt8.xor_comm, xor_left_comm]

def mixWord (word : Word) : Word :=
  let ⟨a, b, c, d⟩ := word
  ⟨double a ^^^ double b ^^^ b ^^^ c ^^^ d, a ^^^ double b ^^^ double c ^^^ c ^^^ d,
   a ^^^ b ^^^ double c ^^^ double d ^^^ d, double a ^^^ a ^^^ b ^^^ c ^^^ double d⟩

/-- Multiplication by nine in the field of bytes. -/
def nine (byte : UInt8) : UInt8 := double (double (double byte)) ^^^ byte

def eleven (byte : UInt8) : UInt8 := double (double (double byte)) ^^^ double byte ^^^ byte

def thirteen (byte : UInt8) : UInt8 := double (double (double byte)) ^^^ double (double byte) ^^^ byte

def fourteen (byte : UInt8) : UInt8 :=
  double (double (double byte)) ^^^ double (double byte) ^^^ double byte

def unmixWord (word : Word) : Word :=
  let ⟨a, b, c, d⟩ := word
  ⟨fourteen a ^^^ eleven b ^^^ thirteen c ^^^ nine d, nine a ^^^ fourteen b ^^^ eleven c ^^^ thirteen d,
   thirteen a ^^^ nine b ^^^ fourteen c ^^^ eleven d, eleven a ^^^ thirteen b ^^^ nine c ^^^ fourteen d⟩

private theorem nine_xor (left right : UInt8) : nine (left ^^^ right) = nine left ^^^ nine right := by
  simp only [nine, double_xor]
  simp only [UInt8.xor_assoc, UInt8.xor_comm, xor_left_comm]

private theorem eleven_xor (left right : UInt8) :
    eleven (left ^^^ right) = eleven left ^^^ eleven right := by
  simp only [eleven, double_xor]
  simp only [UInt8.xor_assoc, UInt8.xor_comm, xor_left_comm]

private theorem thirteen_xor (left right : UInt8) :
    thirteen (left ^^^ right) = thirteen left ^^^ thirteen right := by
  simp only [thirteen, double_xor]
  simp only [UInt8.xor_assoc, UInt8.xor_comm, xor_left_comm]

private theorem fourteen_xor (left right : UInt8) :
    fourteen (left ^^^ right) = fourteen left ^^^ fourteen right := by
  simp only [fourteen, double_xor]
  simp only [UInt8.xor_assoc, UInt8.xor_comm, xor_left_comm]

theorem mixWord_xor (left right : Word) :
    mixWord (left.xor right) = (mixWord left).xor (mixWord right) := by
  simp only [mixWord, Word.xor, double_xor, Word.mk.injEq]
  refine ⟨?_, ?_, ?_, ?_⟩ <;> simp only [UInt8.xor_assoc, UInt8.xor_comm, xor_left_comm]

theorem unmixWord_xor (left right : Word) :
    unmixWord (left.xor right) = (unmixWord left).xor (unmixWord right) := by
  simp only [unmixWord, Word.xor, nine_xor, eleven_xor, thirteen_xor, fourteen_xor, Word.mk.injEq]
  refine ⟨?_, ?_, ?_, ?_⟩ <;> simp only [UInt8.xor_assoc, UInt8.xor_comm, xor_left_comm]

private theorem double_zero : double 0 = 0 := by decide

private theorem unmix_mix_lanes (byte : UInt8) :
    unmixWord (mixWord ⟨byte, 0, 0, 0⟩) = ⟨byte, 0, 0, 0⟩ ∧
      unmixWord (mixWord ⟨0, byte, 0, 0⟩) = ⟨0, byte, 0, 0⟩ ∧
      unmixWord (mixWord ⟨0, 0, byte, 0⟩) = ⟨0, 0, byte, 0⟩ ∧
      unmixWord (mixWord ⟨0, 0, 0, byte⟩) = ⟨0, 0, 0, byte⟩ := by
  simp only [mixWord, unmixWord, nine, eleven, thirteen, fourteen, double_xor, double_zero,
    UInt8.xor_zero, UInt8.zero_xor, Word.mk.injEq]
  refine ⟨⟨?_, ?_, ?_, ?_⟩, ⟨?_, ?_, ?_, ?_⟩, ⟨?_, ?_, ?_, ?_⟩, ⟨?_, ?_, ?_, ?_⟩⟩ <;>
    simp only [UInt8.xor_assoc, UInt8.xor_comm, xor_left_comm, xor_cancel_left, UInt8.xor_self,
      UInt8.xor_zero]

@[simp] theorem unmixWord_mixWord (word : Word) : unmixWord (mixWord word) = word := by
  obtain ⟨a, b, c, d⟩ := word
  have lanes : (⟨a, b, c, d⟩ : Word) =
      ((⟨a, 0, 0, 0⟩ : Word).xor ⟨0, b, 0, 0⟩).xor ((⟨0, 0, c, 0⟩ : Word).xor ⟨0, 0, 0, d⟩) := by
    simp [Word.xor]
  rw [lanes]
  simp only [mixWord_xor, unmixWord_xor, (unmix_mix_lanes a).1, (unmix_mix_lanes b).2.1,
    (unmix_mix_lanes c).2.2.1, (unmix_mix_lanes d).2.2.2]

def mixColumns (state : Block) : Block :=
  ⟨mixWord state.w0, mixWord state.w1, mixWord state.w2, mixWord state.w3⟩

def unmixColumns (state : Block) : Block :=
  ⟨unmixWord state.w0, unmixWord state.w1, unmixWord state.w2, unmixWord state.w3⟩

@[simp] theorem unmixColumns_mixColumns (state : Block) : unmixColumns (mixColumns state) = state := by
  simp [mixColumns, unmixColumns]

/-- Rotates row `r` of the state by `r` columns. -/
def shiftRows (state : Block) : Block :=
  ⟨⟨state.w0.b0, state.w1.b1, state.w2.b2, state.w3.b3⟩,
   ⟨state.w1.b0, state.w2.b1, state.w3.b2, state.w0.b3⟩,
   ⟨state.w2.b0, state.w3.b1, state.w0.b2, state.w1.b3⟩,
   ⟨state.w3.b0, state.w0.b1, state.w1.b2, state.w2.b3⟩⟩

def unshiftRows (state : Block) : Block :=
  ⟨⟨state.w0.b0, state.w3.b1, state.w2.b2, state.w1.b3⟩,
   ⟨state.w1.b0, state.w0.b1, state.w3.b2, state.w2.b3⟩,
   ⟨state.w2.b0, state.w1.b1, state.w0.b2, state.w3.b3⟩,
   ⟨state.w3.b0, state.w2.b1, state.w1.b2, state.w0.b3⟩⟩

@[simp] theorem unshiftRows_shiftRows (state : Block) : unshiftRows (shiftRows state) = state := rfl

def substituteWord (word : Word) : Word :=
  ⟨substitute word.b0, substitute word.b1, substitute word.b2, substitute word.b3⟩

def unsubstituteWord (word : Word) : Word :=
  ⟨unsubstitute word.b0, unsubstitute word.b1, unsubstitute word.b2, unsubstitute word.b3⟩

@[simp] theorem unsubstituteWord_substituteWord (word : Word) :
    unsubstituteWord (substituteWord word) = word := by
  simp [substituteWord, unsubstituteWord]

def substituteBytes (state : Block) : Block :=
  ⟨substituteWord state.w0, substituteWord state.w1, substituteWord state.w2, substituteWord state.w3⟩

def unsubstituteBytes (state : Block) : Block :=
  ⟨unsubstituteWord state.w0, unsubstituteWord state.w1, unsubstituteWord state.w2,
   unsubstituteWord state.w3⟩

@[simp] theorem unsubstituteBytes_substituteBytes (state : Block) :
    unsubstituteBytes (substituteBytes state) = state := by
  simp [substituteBytes, unsubstituteBytes]

end PhoneKey.Aes
