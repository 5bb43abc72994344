import SqlStore.Bytes

/-! # Text as bytes

UTF-8 in its strict form: every character has exactly one spelling, surrogates and code points
beyond the last plane have none. A first byte fixes how many bytes follow and which values the next
one may take, so a wrong byte is found where it stands. A fault tells where its character began and
how many bytes of it were sound.
-/

namespace SqlStore.Text.Utf8

def encodeChar (c : Char) : Bytes :=
  let code := c.toNat
  if code < 0x80 then [.ofNat code]
  else if code < 0x800 then [.ofNat (0xC0 + code / 64), .ofNat (0x80 + code % 64)]
  else if code < 0x10000 then
    [.ofNat (0xE0 + code / 4096), .ofNat (0x80 + code / 64 % 64), .ofNat (0x80 + code % 64)]
  else
    [.ofNat (0xF0 + code / 262144), .ofNat (0x80 + code / 4096 % 64),
      .ofNat (0x80 + code / 64 % 64), .ofNat (0x80 + code % 64)]

def encode (text : String) : Bytes := text.toList.flatMap encodeChar

inductive Fault where
  /-- The byte after `length` sound ones cannot stand there. A byte that begins no character counts
  as one. -/
  | invalid (length start : Nat)
  | incomplete (start : Nat)
deriving DecidableEq, Repr

def Fault.message : Fault → String
  | invalid length start => s!"invalid utf-8 sequence of {length} bytes from index {start}"
  | incomplete start => s!"incomplete utf-8 byte sequence from index {start}"

/-- The values that a byte inside a character may take. -/
def inner : Nat × Nat := (0x80, 0xBF)

/-- What a first byte announces: the top bits of the code point, and for every byte to come the
values it may take. The first range is narrowed where a longer spelling, a surrogate or a code point
that is too high would begin. -/
def lead? (byte : UInt8) : Option (Nat × List (Nat × Nat)) :=
  let b := byte.toNat
  if b < 0x80 then some (b, [])
  else if b < 0xC2 then none
  else if b < 0xE0 then some (b - 0xC0, [inner])
  else if b < 0xF0 then
    some (b - 0xE0, [(if b = 0xE0 then 0xA0 else 0x80, if b = 0xED then 0x9F else 0xBF), inner])
  else if b < 0xF5 then
    some (b - 0xF0,
      [(if b = 0xF0 then 0x90 else 0x80, if b = 0xF4 then 0x8F else 0xBF), inner, inner])
  else none

/-- A character of which some bytes are read: where it began, the bits so far, and the values that
the next byte and each later one may take. -/
structure Unfinished where
  start : Nat
  bits : Nat
  next : Nat × Nat
  later : List (Nat × Nat)
deriving DecidableEq, Repr

/-- Reads on at an index, perhaps inside a character. -/
def decodeFrom (index : Nat) : Option Unfinished → Bytes → Except Fault (List Char)
  | none, [] => .ok []
  | some unfinished, [] => .error (.incomplete unfinished.start)
  | none, byte :: rest =>
    match lead? byte with
    | none => .error (.invalid 1 index)
    | some (code, []) => (Char.ofNat code :: ·) <$> decodeFrom (index + 1) none rest
    | some (bits, next :: later) => decodeFrom (index + 1) (some ⟨index, bits, next, later⟩) rest
  | some ⟨start, bits, next, later⟩, byte :: rest =>
    if next.1 ≤ byte.toNat ∧ byte.toNat ≤ next.2 then
      let code := bits * 64 + byte.toNat % 64
      match later with
      | [] => (Char.ofNat code :: ·) <$> decodeFrom (index + 1) none rest
      | next :: later => decodeFrom (index + 1) (some ⟨start, code, next, later⟩) rest
    else .error (.invalid (index - start) start)

def decode (bytes : Bytes) : Except Fault String := String.ofList <$> decodeFrom 0 none bytes

end SqlStore.Text.Utf8
