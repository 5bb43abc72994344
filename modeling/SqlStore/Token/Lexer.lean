import SqlStore.Error

/-! # Cutting text into tokens

Blanks separate tokens and are dropped. A word or a number extends as far as its characters allow; a
string runs to the next quote, whatever lies between, and has no escapes. Where no token begins the
lexer reports the character and stays there, so every later call reports it again.
-/

namespace SqlStore

/-- The bytes that characters take. Positions in messages count bytes. -/
def byteLength : List Char → Nat
  | [] => 0
  | c :: rest => c.utf8Size + byteLength rest

namespace Token

def quote : Char := '\x27'

def startsWord (c : Char) : Bool := c.isAlpha || c == '_'

def continuesWord (c : Char) : Bool := c.isAlphanum || c == '_'

theorem continuesWord_of_startsWord {c : Char} (start : startsWord c = true) :
    continuesWord c = true := by
  simp only [startsWord, continuesWord, Char.isAlphanum, Bool.or_eq_true] at start ⊢
  rcases start with letter | underscore
  · exact .inl (.inl letter)
  · exact .inr underscore

def ofPunctuation? : Char → Option Token
  | '(' => some leftParen
  | ')' => some rightParen
  | ',' => some comma
  | ';' => some semicolon
  | '*' => some star
  | _ => none

/-- The token at the front of a text and the number of characters it takes. -/
def scan? : List Char → Option (Token × Nat)
  | [] => none
  | c :: rest =>
    if c = quote then
      let body := rest.takeWhile (· ≠ quote)
      if quote ∈ rest then some (string (String.ofList body), body.length + 2) else none
    else if c.isDigit then
      let digits := (c :: rest).takeWhile Char.isDigit
      some (number (String.ofList digits), digits.length)
    else if startsWord c then
      let word := (c :: rest).takeWhile continuesWord
      some (ident (String.ofList word), word.length)
    else (ofPunctuation? c).map fun token => (token, 1)

private theorem length_takeWhile_lt {p : Char → Bool} {text : List Char} {c : Char}
    (member : c ∈ text) (outside : p c = false) : (text.takeWhile p).length < text.length := by
  induction text with
  | nil => simp at member
  | cons head rest ih => grind [List.takeWhile_cons]

private theorem length_takeWhile_bounds {p : Char → Bool} {c : Char} (rest : List Char)
    (inside : p c = true) :
    0 < ((c :: rest).takeWhile p).length ∧ ((c :: rest).takeWhile p).length ≤ (c :: rest).length :=
  ⟨by simp [inside], (List.takeWhile_prefix p).length_le⟩

/-- A token takes at least one character, and none that is not there. -/
theorem length_of_scan? {text : List Char} {token : Token} {length : Nat}
    (scanned : scan? text = some (token, length)) : 0 < length ∧ length ≤ text.length := by
  cases text with
  | nil => simp [scan?] at scanned
  | cons c rest =>
    simp only [scan?] at scanned
    split at scanned
    · obtain ⟨closed, same⟩ := Option.ite_none_right_eq_some.mp scanned
      have shorter := length_takeWhile_lt (p := (· ≠ quote)) closed (by simp)
      simp only [Option.some.injEq, Prod.mk.injEq] at same
      simp only [List.length_cons]
      omega
    · split at scanned
      · next digit =>
        simp only [Option.some.injEq, Prod.mk.injEq] at scanned
        exact scanned.2 ▸ length_takeWhile_bounds rest digit
      · split at scanned
        · next start =>
          simp only [Option.some.injEq, Prod.mk.injEq] at scanned
          exact scanned.2 ▸ length_takeWhile_bounds rest (continuesWord_of_startsWord start)
        · obtain ⟨_, _, same⟩ := Option.map_eq_some_iff.mp scanned
          simp only [Prod.mk.injEq] at same
          simp only [List.length_cons]
          omega

end Token

/-- The text that is still to be read, and the position in bytes where it begins. -/
structure Lexer where
  rest : List Char
  position : Nat
deriving DecidableEq, Repr

namespace Lexer

def ofText (text : String) : Lexer := ⟨text.toList, 0⟩

def skip (lexer : Lexer) (length : Nat) : Lexer :=
  ⟨lexer.rest.drop length, lexer.position + byteLength (lexer.rest.take length)⟩

def skipBlanks (lexer : Lexer) : Lexer :=
  lexer.skip (lexer.rest.takeWhile Text.isBlank).length

/-- The next token, the character where none begins, or the end of the text. -/
def next (lexer : Lexer) : Option (Except SyntaxError Token) × Lexer :=
  let lexer := lexer.skipBlanks
  match lexer.rest with
  | [] => (none, lexer)
  | c :: _ =>
    match Token.scan? lexer.rest with
    | some (token, length) => (some (.ok token), lexer.skip length)
    | none => (some (.error (.unexpectedCharacter lexer.position c)), lexer)

/-- What a number of calls of `next` give, one after the other. -/
def results (lexer : Lexer) : Nat → List (Option (Except SyntaxError Token))
  | 0 => []
  | calls + 1 => lexer.next.1 :: lexer.next.2.results calls

theorem length_skipBlanks_le (lexer : Lexer) :
    lexer.skipBlanks.rest.length ≤ lexer.rest.length := by
  simp [skipBlanks, skip]

/-- Every token leaves less to read. -/
theorem length_lt_of_next {lexer after : Lexer} {token : Token}
    (read : lexer.next = (some (.ok token), after)) : after.rest.length < lexer.rest.length := by
  have shorter := lexer.length_skipBlanks_le
  simp only [next] at read
  split at read
  · simp at read
  · split at read
    · next scanned =>
      have taken := Token.length_of_scan? scanned
      simp only [Prod.mk.injEq] at read
      rw [← read.2, skip, List.length_drop]
      omega
    · simp at read

def tokens (lexer : Lexer) : Except SyntaxError (List Token) :=
  match read : lexer.next with
  | (none, _) => .ok []
  | (some (.error cause), _) => .error cause
  | (some (.ok token), after) =>
    have : after.rest.length < lexer.rest.length := length_lt_of_next read
    (token :: ·) <$> after.tokens
termination_by lexer.rest.length

end Lexer

/-- The tokens of a whole text, or the first character where none begins. -/
def Token.ofText (text : String) : Except SyntaxError (List Token) := (Lexer.ofText text).tokens

end SqlStore
