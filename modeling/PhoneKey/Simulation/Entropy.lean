import PhoneKey.Handshake

/-! # Repeatable nonces

A simulation draws its nonces from a linear congruential generator, so that a seed determines the
whole run. Each step yields the top byte of the state.
-/

namespace PhoneKey

namespace Entropy

/-- The state after one byte. -/
def step (state : UInt32) : UInt32 := state * 1664525 + 1013904223

/-- The next `count` bytes and the state after them. -/
def bytes (state : UInt32) : Nat → Bytes × UInt32
  | 0 => ([], state)
  | count + 1 =>
    let next := step state
    let (rest, last) := bytes next count
    ((next >>> 24).toUInt8 :: rest, last)

/-- The state after so many nonces. -/
def skip (state : UInt32) : Nat → UInt32
  | 0 => state
  | count + 1 => skip (bytes state Block.size).2 count

/-- The nonces that a seed determines. -/
def nonces (seed : UInt32) : Nonces where
  nth index := (Block.ofBytes? (bytes (skip seed index) Block.size).1).getD .zero

end Entropy

end PhoneKey
