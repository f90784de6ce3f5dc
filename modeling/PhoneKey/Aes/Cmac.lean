import PhoneKey.Aes

/-! # Message authentication with AES

The code of a byte string is the last state of the chained blocks. The last block is masked with a
subkey: one for a string of whole blocks, another for one that had to be padded.
-/

namespace PhoneKey.Aes

/-- Shifts a word left by one bit and takes in the top bit of the next word. -/
def shiftWord (word next : Word) : Word :=
  ⟨(word.b0 <<< 1) ||| (word.b1 >>> 7), (word.b1 <<< 1) ||| (word.b2 >>> 7),
   (word.b2 <<< 1) ||| (word.b3 >>> 7), (word.b3 <<< 1) ||| (next.b0 >>> 7)⟩

/-- Doubling in the field of blocks: a carry out of the top bit adds 0x87. -/
def doubleBlock (block : Block) : Block :=
  let shifted : Block := ⟨shiftWord block.w0 block.w1, shiftWord block.w1 block.w2,
    shiftWord block.w2 block.w3, shiftWord block.w3 .zero⟩
  if block.w0.b0 >>> 7 = 0 then shifted else shifted.xor ⟨.zero, .zero, .zero, ⟨0, 0, 0, 0x87⟩⟩

/-- Adds the mask to the last block of a row. -/
def maskLast (mask : Block) : List Block → List Block
  | [] => []
  | [block] => [block.xor mask]
  | block :: rest => block :: maskLast mask rest

/-- A block that starts with fewer than sixteen bytes and goes on with a one bit and zeros. -/
def padded (tail : Bytes) : Block :=
  (Block.ofBytes? (tail ++ 0x80 :: List.replicate (15 - tail.length) 0)).getD .zero

/-- The blocks that are chained for a byte string. -/
def Cipher.macBlocks (cipher : Cipher) (message : Bytes) : List Block :=
  let wholeMask := doubleBlock (cipher.encrypt .zero)
  let (blocks, tail) := Block.split message
  if tail = [] ∧ blocks ≠ [] then maskLast wholeMask blocks
  else maskLast (doubleBlock wholeMask) (blocks ++ [padded tail])

def Cipher.cmac (cipher : Cipher) (message : Bytes) : Block :=
  (cipher.macBlocks message).foldl (fun state block => cipher.encrypt (state.xor block)) .zero

end PhoneKey.Aes
