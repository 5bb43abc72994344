/-! # Decimal integers

Reading accepts one sign and any number of leading zeros, and refuses what a signed word of 64 bits
cannot hold; nothing wraps and nothing is cut. Writing uses neither a plus sign nor leading zeros.
-/

namespace SqlStore.Text.Decimal

/-- One digit or more, and nothing else. -/
def natural? (digits : List Char) : Option Nat :=
  if !digits.isEmpty && digits.all Char.isDigit then some (Nat.ofDigitChars 10 digits 0) else none

def integer? : List Char → Option Int
  | '+' :: digits => (natural? digits).map Int.ofNat
  | '-' :: digits => (natural? digits).map fun n => -Int.ofNat n
  | digits => (natural? digits).map Int.ofNat

/-- The integers that a signed word of 64 bits holds. -/
def Fits (value : Int) : Prop :=
  Int64.minValue.toInt ≤ value ∧ value ≤ Int64.maxValue.toInt

instance (value : Int) : Decidable (Fits value) := inferInstanceAs (Decidable (_ ∧ _))

def int64? (text : String) : Option Int64 :=
  (integer? text.toList).bind fun value =>
    if Fits value then some (Int64.ofInt value) else none

def ofNat (n : Nat) : String := String.ofList (Nat.toDigits 10 n)

def ofInt : Int → String
  | .ofNat n => ofNat n
  | .negSucc n => "-" ++ ofNat (n + 1)

/-- What the digits of a number denote is that number. -/
theorem natural?_toDigits (n : Nat) : natural? (Nat.toDigits 10 n) = some n := by
  have digits : (Nat.toDigits 10 n).all Char.isDigit = true :=
    List.all_eq_true.mpr fun _ member =>
      Nat.isDigit_of_mem_toDigits (by decide) (by decide) member
  simp [natural?, digits]

end SqlStore.Text.Decimal
