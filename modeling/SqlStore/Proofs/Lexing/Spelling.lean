import SqlStore.Proofs.Grammar.Numeral
import SqlStore.Token.Lexer

/-! # How texts spell tokens

A text spells a list of tokens when it is made of their characters, in their order, and of blanks.
Blanks may stand anywhere between tokens and may be left out, except where two tokens would run
together: a word ends before a character that no word has, a number before one that is no digit.
-/

namespace SqlStore

def Text.Blank (text : List Char) : Prop := ∀ c ∈ text, Text.isBlank c = true

namespace Token

theorem toNat_of_isAlpha {c : Char} (letter : c.isAlpha = true) :
    65 ≤ c.toNat ∧ c.toNat ≤ 90 ∨ 97 ≤ c.toNat ∧ c.toNat ≤ 122 := by
  rcases (Bool.or_eq_true _ _).mp letter with upper | lower
  · exact .inl (of_decide_eq_true upper)
  · obtain ⟨least, most⟩ := (Bool.and_eq_true _ _).mp lower
    exact .inr ⟨of_decide_eq_true least, of_decide_eq_true most⟩

theorem toNat_of_continuesWord {c : Char} (word : continuesWord c = true) :
    48 ≤ c.toNat ∧ c.toNat ≤ 57 ∨ 65 ≤ c.toNat ∧ c.toNat ≤ 90 ∨
      97 ≤ c.toNat ∧ c.toNat ≤ 122 ∨ c.toNat = 95 := by
  simp only [continuesWord, Char.isAlphanum, Bool.or_eq_true, beq_iff_eq] at word
  rcases word with (letter | digit) | rfl
  · have := toNat_of_isAlpha letter
    omega
  · exact .inl (Char.isDigit_iff_toNat.mp digit)
  · exact .inr (.inr (.inr rfl))

theorem isBlank_eq_false_of_continuesWord {c : Char} (word : continuesWord c = true) :
    Text.isBlank c = false := by
  apply Bool.eq_false_iff.mpr
  intro blank
  have code := toNat_of_continuesWord word
  simp only [Text.isBlank, Text.inRanges, Text.blankRanges, List.any_cons, List.any_nil,
    Bool.or_false, Bool.or_eq_true, Bool.and_eq_true, decide_eq_true_eq] at blank
  omega

theorem continuesWord_of_isDigit {c : Char} (digit : c.isDigit = true) :
    continuesWord c = true := by
  rw [continuesWord, Char.isAlphanum, digit, Bool.or_true, Bool.true_or]

/-- The characters of a token in a text. -/
def lexeme : Token → List Char
  | string body => quote :: body.toList ++ [quote]
  | token => token.text.toList

theorem lexeme_ident (name : String) : (ident name).lexeme = name.toList := rfl

theorem lexeme_number (digits : String) : (number digits).lexeme = digits.toList := rfl

theorem lexeme_string (body : String) :
    (string body).lexeme = quote :: body.toList ++ [quote] := rfl

/-- A token that a text can spell. The body of a string may be anything that has no quote. -/
def Lexical : Token → Prop
  | ident name => ∃ first rest, name.toList = first :: rest ∧ startsWord first = true ∧
      ∀ c ∈ rest, continuesWord c = true
  | number digits => Text.IsDigits digits.toList
  | string body => quote ∉ body.toList
  | leftParen | rightParen | comma | semicolon | star => True

/-- The character would belong to the token if it came next. -/
def continuedBy : Token → Char → Bool
  | ident _, c => continuesWord c
  | number _, c => c.isDigit
  | string _, _ | leftParen, _ | rightParen, _ | comma, _ | semicolon, _ | star, _ => false

/-- Nothing has to stand between the two. -/
def MayTouch (token next : Token) : Prop :=
  ∀ c ∈ next.lexeme.head?, token.continuedBy c = false

/-- What follows a token does not belong to it. -/
def Apart (token : Token) (rest : List Char) : Prop := ∀ c ∈ rest.head?, token.continuedBy c = false

/-- The text begins with the first token, and every token may have blanks behind it. -/
inductive Spelling : List Token → List Char → Prop where
  | nil : Spelling [] []
  | last {token : Token} {gap : List Char} (lexical : token.Lexical) (blank : Text.Blank gap) :
    Spelling [token] (token.lexeme ++ gap)
  | more {token next : Token} {tokens : List Token} {gap rest : List Char}
    (lexical : token.Lexical) (blank : Text.Blank gap) (apart : gap = [] → token.MayTouch next)
    (later : Spelling (next :: tokens) rest) :
    Spelling (token :: next :: tokens) (token.lexeme ++ gap ++ rest)

/-- Blanks may also stand before the first token. -/
def Spelled (tokens : List Token) (text : List Char) : Prop :=
  ∃ gap body, text = gap ++ body ∧ Text.Blank gap ∧ Spelling tokens body

variable {token next : Token} {tokens : List Token} {text : List Char}

theorem continuesWord_eq_false_of_isBlank {c : Char} (blank : Text.isBlank c = true) :
    continuesWord c = false := by
  apply Bool.eq_false_iff.mpr
  intro word
  rw [isBlank_eq_false_of_continuesWord word] at blank
  contradiction

/-- What no word has continues no token. -/
theorem continuedBy_eq_false_of_continuesWord {c : Char} (outside : continuesWord c = false)
    (token : Token) : token.continuedBy c = false := by
  cases token with
  | ident name => exact outside
  | number digits =>
    apply Bool.eq_false_iff.mpr
    intro digit
    rw [continuesWord_of_isDigit digit] at outside
    contradiction
  | _ => rfl

theorem continuedBy_eq_false_of_isBlank {c : Char} (blank : Text.isBlank c = true)
    (token : Token) : token.continuedBy c = false :=
  continuedBy_eq_false_of_continuesWord (continuesWord_eq_false_of_isBlank blank) token

theorem Lexical.exists_cons (lexical : token.Lexical) :
    ∃ first rest, token.lexeme = first :: rest ∧ Text.isBlank first = false := by
  cases token with
  | ident name =>
    obtain ⟨first, rest, same, start, _⟩ := lexical
    exact ⟨first, rest, same, isBlank_eq_false_of_continuesWord (continuesWord_of_startsWord start)⟩
  | number digits =>
    obtain ⟨some, only⟩ := lexical
    obtain ⟨first, rest, same⟩ := List.exists_cons_of_ne_nil some
    have digit : first.isDigit = true := only first (same ▸ List.mem_cons_self)
    exact ⟨first, rest, same, isBlank_eq_false_of_continuesWord (continuesWord_of_isDigit digit)⟩
  | string body => exact ⟨quote, _, rfl, by decide⟩
  | _ => exact ⟨_, [], rfl, by decide⟩

theorem Spelling.lexical (spelling : Spelling (token :: tokens) text) : token.Lexical := by
  cases spelling with
  | last lexical _ => exact lexical
  | more lexical _ _ _ => exact lexical

theorem Spelling.head?_eq (spelling : Spelling (token :: tokens) text) :
    text.head? = token.lexeme.head? := by
  obtain ⟨first, rest, same, _⟩ := spelling.lexical.exists_cons
  cases spelling with
  | last _ _ => rw [same]; rfl
  | more _ _ _ _ => rw [same]; rfl

/-- A token is set off by a blank as well as by a token that may touch it. -/
theorem apart_append_iff {gap : List Char} (blank : Text.Blank gap)
    (later : Spelling (next :: tokens) text) :
    Apart token (gap ++ text) ↔ (gap = [] → token.MayTouch next) := by
  cases gap with
  | nil =>
    rw [List.nil_append, Apart, later.head?_eq]
    exact ⟨fun apart _ => apart, fun touch => touch rfl⟩
  | cons c gap =>
    refine iff_of_true ?_ (fun none => nomatch none)
    intro first member
    obtain rfl := Option.mem_some_iff.mp member
    exact continuedBy_eq_false_of_isBlank (blank c List.mem_cons_self) token

/-- After its first token a text goes on with what spells the others. -/
theorem spelling_cons_iff : Spelling (token :: tokens) text ↔
    ∃ rest, text = token.lexeme ++ rest ∧ token.Lexical ∧ Apart token rest ∧
      Spelled tokens rest := by
  constructor
  · intro spelling
    cases spelling with
    | @last _ gap lexical blank =>
      refine ⟨gap, rfl, lexical, ?_, gap, [], (List.append_nil gap).symm, blank, .nil⟩
      intro c member
      have inside : c ∈ gap := List.mem_of_mem_head? member
      exact continuedBy_eq_false_of_isBlank (blank c inside) token
    | @more _ next tokens gap rest lexical blank apart later =>
      exact ⟨gap ++ rest, List.append_assoc .., lexical, (apart_append_iff blank later).mpr apart,
        gap, rest, rfl, blank, later⟩
  · rintro ⟨_, rfl, lexical, apart, gap, body, rfl, blank, later⟩
    cases tokens with
    | nil =>
      cases later
      rw [List.append_nil]
      exact .last lexical blank
    | cons next tokens =>
      rw [← List.append_assoc]
      exact .more lexical blank ((apart_append_iff blank later).mp apart) later

theorem spelled_nil_iff : Spelled [] text ↔ Text.Blank text := by
  constructor
  · rintro ⟨gap, body, rfl, blank, spelling⟩
    cases spelling
    rw [List.append_nil]
    exact blank
  · intro blank
    exact ⟨text, [], (List.append_nil text).symm, blank, .nil⟩

theorem spelled_cons_iff : Spelled (token :: tokens) text ↔
    ∃ gap rest, text = gap ++ (token.lexeme ++ rest) ∧ Text.Blank gap ∧ token.Lexical ∧
      Apart token rest ∧ Spelled tokens rest := by
  constructor
  · rintro ⟨gap, _, rfl, blank, spelling⟩
    obtain ⟨rest, rfl, lexical, apart, later⟩ := spelling_cons_iff.mp spelling
    exact ⟨gap, rest, rfl, blank, lexical, apart, later⟩
  · rintro ⟨gap, rest, rfl, blank, lexical, apart, later⟩
    exact ⟨gap, _, rfl, blank, spelling_cons_iff.mpr ⟨rest, rfl, lexical, apart, later⟩⟩

end Token

end SqlStore
