/-! # Byte strings

Byte strings are ordered as dictionaries order words: by the first byte that differs, and a proper
beginning comes first. A number of fixed width is written with its most or its least significant
byte first; the first of these makes the order of the bytes the order of the numbers.
-/

namespace SqlStore

abbrev Bytes := List UInt8

namespace Bytes

/-- The `width` bytes of a number, least significant first. Higher ones are dropped. -/
def ofNat : (width : Nat) → Nat → Bytes
  | 0, _ => []
  | width + 1, n => UInt8.ofNat (n % 256) :: ofNat width (n / 256)

/-- The number with these bytes, least significant first. -/
def toNat : Bytes → Nat
  | [] => 0
  | byte :: rest => byte.toNat + 256 * toNat rest

@[simp] theorem length_ofNat (width n : Nat) : (ofNat width n).length = width := by
  induction width generalizing n with
  | zero => rfl
  | succ width ih => simp [ofNat, ih]

theorem ofNat_toNat (bytes : Bytes) : ofNat bytes.length (toNat bytes) = bytes := by
  induction bytes with
  | nil => rfl
  | cons byte rest ih =>
    have small := byte.toNat_lt
    have low : (byte.toNat + 256 * toNat rest) % 256 = byte.toNat := by omega
    have high : (byte.toNat + 256 * toNat rest) / 256 = toNat rest := by omega
    rw [List.length_cons, ofNat, toNat, low, high, ih, UInt8.ofNat_toNat]

/-- The least byte string above every extension of the given one, if there is one: the last byte
that can grow does so, and what follows it is dropped. -/
def successor? : Bytes → Option Bytes
  | [] => none
  | byte :: rest =>
    match successor? rest with
    | some above => some (byte :: above)
    | none => if byte = 0xFF then none else some [byte + 1]

end Bytes

/-- Which byte of a number comes first. -/
inductive ByteOrder where
  | big
  | little
deriving DecidableEq, Repr

namespace ByteOrder

/-- Brings bytes from the order with the least significant first into this one, and back. -/
def arrange : ByteOrder → Bytes → Bytes
  | big, bytes => bytes.reverse
  | little, bytes => bytes

@[simp] theorem arrange_arrange (order : ByteOrder) (bytes : Bytes) :
    order.arrange (order.arrange bytes) = bytes := by
  cases order <;> simp [arrange]

@[simp] theorem length_arrange (order : ByteOrder) (bytes : Bytes) :
    (order.arrange bytes).length = bytes.length := by
  cases order <;> simp [arrange]

end ByteOrder

end SqlStore
