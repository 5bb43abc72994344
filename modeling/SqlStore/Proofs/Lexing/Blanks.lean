import Mathlib.Data.List.Forall2
import SqlStore.Proofs.Lexing.Munch

/-! # Blanks between tokens

No token begins or ends with a blank, and only strings have blanks in them. So a text may be cut at
a blank outside its strings, and the parts spell the tokens on either side; and texts may be put
together with a blank between them. Blanks at the ends do not count: those in front only move
positions, and behind a text that is no list of tokens they leave the error as it is.
-/

namespace SqlStore

namespace Token

variable {token : Token} {tokens front behind : List Token} {text rest gap : List Char} {c : Char}

theorem blank_append (a b : List Char) :
    Text.Blank (a ++ b) ↔ Text.Blank a ∧ Text.Blank b := List.forall_mem_append

theorem blank_singleton (blank : Text.isBlank c = true) : Text.Blank [c] :=
  List.forall_mem_singleton.mpr blank

/-- Blanks in a token are those of a string. -/
theorem exists_string_of_blank_mem (lexical : token.Lexical) (blank : Text.isBlank c = true)
    (member : c ∈ token.lexeme) : ∃ body, token = string body ∧ c ∈ body.toList := by
  have outside := continuesWord_eq_false_of_isBlank blank
  cases token with
  | ident name =>
    obtain ⟨first, others, same, start, words⟩ := lexical
    have inside : continuesWord c = true := by
      rw [lexeme_ident, same] at member
      rcases List.mem_cons.mp member with rfl | later
      · exact continuesWord_of_startsWord start
      · exact words c later
    exact absurd (inside.symm.trans outside) (by decide)
  | number digits =>
    have inside := continuesWord_of_isDigit (lexical.2 c member)
    exact absurd (inside.symm.trans outside) (by decide)
  | string body =>
    refine ⟨body, rfl, ?_⟩
    have quotes : c ≠ quote := by
      rintro rfl
      exact absurd blank (by decide)
    simpa [lexeme_string, quotes] using member
  | _ =>
    obtain rfl := List.mem_singleton.mp member
    exact absurd blank (by decide)

/-- The last character of a token is visible. -/
theorem isBlank_of_getLast?_lexeme (lexical : token.Lexical) (last : c ∈ token.lexeme.getLast?) :
    Text.isBlank c = false := by
  apply Bool.eq_false_iff.mpr
  intro blank
  obtain ⟨body, rfl, _⟩ :=
    exists_string_of_blank_mem lexical blank (List.mem_of_getLast? last)
  rw [lexeme_string, List.getLast?_concat] at last
  obtain rfl := Option.mem_some_iff.mp last
  exact absurd blank (by decide)

theorem Apart.append (apart : token.Apart text) (set : token.Apart rest) :
    token.Apart (text ++ rest) := by
  cases text with
  | nil => exact set
  | cons _ _ => exact apart

theorem Apart.of_append (apart : token.Apart (text ++ rest)) : token.Apart text := by
  cases text with
  | nil => exact nofun
  | cons _ _ => exact apart

theorem apart_cons_of_isBlank (blank : Text.isBlank c = true) (token : Token)
    (rest : List Char) : token.Apart (c :: rest) := by
  rintro _ ⟨⟩
  exact continuedBy_eq_false_of_isBlank blank token

theorem apart_of_blank (blank : Text.Blank gap) (token : Token) : token.Apart gap := by
  cases gap with
  | nil => exact nofun
  | cons c gap => exact apart_cons_of_isBlank (blank c List.mem_cons_self) token gap

section Cutting

theorem Spelled.blank_append (spelled : Spelled tokens text) (blank : Text.Blank gap) :
    Spelled tokens (gap ++ text) := by
  obtain ⟨own, body, rfl, ownBlank, spelling⟩ := spelled
  have front := (Token.blank_append _ _).mpr ⟨blank, ownBlank⟩
  exact ⟨gap ++ own, body, (List.append_assoc ..).symm, front, spelling⟩

/-- What is spelled on both sides of a blank is spelled by the whole. -/
theorem Spelled.append_cons (left : Spelled front text) (blank : Text.isBlank c = true)
    (right : Spelled behind rest) : Spelled (front ++ behind) (text ++ c :: rest) := by
  induction front generalizing text with
  | nil =>
    refine Spelled.blank_append ?_ (spelled_nil_iff.mp left)
    exact right.blank_append (blank_singleton blank)
  | cons token front ih =>
    obtain ⟨gap, own, rfl, blankGap, lexical, apart, later⟩ := spelled_cons_iff.mp left
    refine spelled_cons_iff.mpr ⟨gap, own ++ c :: rest, ?_, blankGap, lexical, ?_, ih later⟩
    · simp only [List.append_assoc]
    · exact apart.append (apart_cons_of_isBlank blank token rest)

/-- The front of a text that lacks a character ends before it. -/
private theorem exists_of_append_cons_eq {start other : List Char} (absent : c ∉ start)
    (same : start ++ other = text ++ c :: rest) :
    ∃ more, text = start ++ more ∧ other = more ++ c :: rest := by
  rcases List.append_eq_append_iff.mp same with ⟨more, rfl, behind⟩ | ⟨more, rfl, behind⟩
  · exact ⟨more, rfl, behind⟩
  · cases more with
    | nil => exact ⟨[], (List.append_nil _).symm ▸ (List.append_nil _).symm, behind.symm⟩
    | cons d more =>
      obtain ⟨rfl, _⟩ := List.cons.inj behind
      exact absurd (List.mem_append_right _ List.mem_cons_self) absent

/-- A text is cut at a blank outside its strings, and so are its tokens. -/
theorem Spelled.exists_cut (spelled : Spelled tokens (text ++ c :: rest))
    (blank : Text.isBlank c = true) (outside : ∀ body, string body ∈ tokens → c ∉ body.toList) :
    ∃ front behind, tokens = front ++ behind ∧ Spelled front text ∧ Spelled behind rest := by
  induction tokens generalizing text with
  | nil =>
    obtain ⟨left, right⟩ := (Token.blank_append _ _).mp (spelled_nil_iff.mp spelled)
    refine ⟨[], [], rfl, spelled_nil_iff.mpr left, spelled_nil_iff.mpr ?_⟩
    exact fun d member => right d (List.mem_cons_of_mem c member)
  | cons token tokens ih =>
    obtain ⟨gap, own, whole, blankGap, lexical, apart, later⟩ := spelled_cons_iff.mp spelled
    obtain ⟨here, others⟩ : (∀ body, token = string body → c ∉ body.toList) ∧
        ∀ body, string body ∈ tokens → c ∉ body.toList :=
      ⟨fun body same => outside body (same ▸ List.mem_cons_self),
        fun body member => outside body (List.mem_cons_of_mem _ member)⟩
    have notInside : c ∉ token.lexeme := by
      intro member
      obtain ⟨body, same, inside⟩ := exists_string_of_blank_mem lexical blank member
      exact here body same inside
    rcases List.append_eq_append_iff.mp whole with ⟨more, rfl, ahead⟩ | ⟨more, rfl, ahead⟩
    · -- The blank stands before the token.
      obtain ⟨blankText, blankMore⟩ := (Token.blank_append _ _).mp blankGap
      cases more with
      | nil =>
        obtain ⟨first, others, start, _⟩ := lexical.exists_cons
        rw [start] at ahead notInside
        obtain ⟨rfl, _⟩ := List.cons.inj ahead
        exact absurd List.mem_cons_self notInside
      | cons d more =>
        obtain ⟨rfl, rfl⟩ := List.cons.inj ahead
        have blankAfter : Text.Blank more := fun e member =>
          blankMore e (List.mem_cons_of_mem _ member)
        exact ⟨[], token :: tokens, rfl, spelled_nil_iff.mpr blankText,
          spelled_cons_iff.mpr ⟨more, own, rfl, blankAfter, lexical, apart, later⟩⟩
    · -- The token stands before the blank.
      obtain ⟨between, rfl, rfl⟩ := exists_of_append_cons_eq notInside ahead
      obtain ⟨front, behind, rfl, left, right⟩ := ih later others
      exact ⟨token :: front, behind, rfl,
        spelled_cons_iff.mpr ⟨gap, between, rfl, blankGap, lexical, apart.of_append, left⟩, right⟩

theorem Spelled.eq_nil (spelled : Spelled tokens []) : tokens = [] := by
  cases tokens with
  | nil => rfl
  | cons token tokens =>
    obtain ⟨gap, rest, whole, -, lexical, -⟩ := spelled_cons_iff.mp spelled
    obtain ⟨first, others, start, -⟩ := lexical.exists_cons
    simp [start] at whole

/-- A text that is made of pieces, each with a blank behind it, is cut into those pieces. -/
theorem Spelled.exists_groups {pieces : List (List Char)} (blank : Text.isBlank c = true)
    (spelled : Spelled tokens (pieces.flatMap (· ++ [c])))
    (outside : ∀ body, string body ∈ tokens → c ∉ body.toList) :
    ∃ groups, tokens = groups.flatten ∧ List.Forall₂ Spelled groups pieces := by
  induction pieces generalizing tokens with
  | nil => exact ⟨[], spelled.eq_nil, .nil⟩
  | cons piece pieces ih =>
    rw [List.flatMap_cons, List.append_assoc, List.singleton_append] at spelled
    obtain ⟨front, behind, rfl, here, later⟩ := spelled.exists_cut blank outside
    obtain ⟨groups, rfl, alike⟩ := ih later fun body member =>
      outside body (List.mem_append_right front member)
    exact ⟨front :: groups, rfl, .cons here alike⟩

theorem spelled_flatMap {groups : List (List Token)} {pieces : List (List Char)}
    (blank : Text.isBlank c = true) (alike : List.Forall₂ Spelled groups pieces) :
    Spelled groups.flatten (pieces.flatMap (· ++ [c])) := by
  induction alike with
  | nil => exact spelled_nil_iff.mpr nofun
  | cons here _ later =>
    rw [List.flatten_cons, List.flatMap_cons, List.append_assoc, List.singleton_append]
    exact here.append_cons blank later

theorem spelled_blank_append_iff (blank : Text.Blank gap) :
    Spelled tokens (gap ++ text) ↔ Spelled tokens text := by
  refine ⟨?_, fun spelled => spelled.blank_append blank⟩
  rintro ⟨own, body, whole, ownBlank, spelling⟩
  rcases List.append_eq_append_iff.mp whole with ⟨more, rfl, rfl⟩ | ⟨more, rfl, rfl⟩
  · exact ⟨more, body, rfl, ((Token.blank_append _ _).mp ownBlank).2, spelling⟩
  · cases more with
    | nil => exact ⟨[], text, rfl, nofun, spelling⟩
    | cons c more =>
      cases tokens with
      | nil => cases spelling
      | cons token tokens =>
        obtain ⟨first, others, start, visible⟩ := spelling.lexical.exists_cons
        have same := spelling.head?_eq
        rw [start, List.cons_append] at same
        obtain rfl := Option.some.inj same
        rw [blank c (by simp)] at visible
        contradiction

end Cutting

theorem Lexical.head?_ne_dot (lexical : token.Lexical) : token.lexeme.head? ≠ some '.' := by
  intro dotted
  cases token with
  | ident name =>
    obtain ⟨first, rest, same, start, _⟩ := lexical
    rw [lexeme_ident, same] at dotted
    obtain rfl := Option.some.inj dotted
    exact absurd start (by decide)
  | number digits =>
    have digit := lexical.2 '.' (List.mem_of_head? dotted)
    exact absurd digit (by decide)
  | string body => exact absurd (Option.some.inj dotted) (by decide)
  | _ => exact absurd dotted (by decide)

/-- A text with a dot in front is no list of tokens. -/
theorem Spelled.head?_ne_dot (spelled : Spelled tokens text) : text.head? ≠ some '.' := by
  intro dotted
  obtain ⟨gap, body, rfl, blank, spelling⟩ := spelled
  cases gap with
  | cons c gap =>
    obtain rfl := Option.some.inj dotted
    exact absurd (blank '.' List.mem_cons_self) (by decide)
  | nil =>
    cases tokens with
    | nil =>
      cases spelling
      cases dotted
    | cons token tokens =>
      exact spelling.lexical.head?_ne_dot (spelling.head?_eq.symm.trans dotted)

/-- A token is found as if the blanks behind the text were not there. -/
theorem scan?_append_blank (blank : Text.Blank gap) (text : List Char) :
    scan? (text ++ gap) = scan? text := by
  apply Option.ext
  rintro ⟨token, length⟩
  rw [scan?_eq_some_iff, scan?_eq_some_iff]
  refine and_congr_right fun lexical => and_congr_right fun _ => ?_
  constructor
  · rintro ⟨rest, whole, apart⟩
    rcases List.append_eq_append_iff.mp whole with ⟨more, same, rfl⟩ | ⟨more, rfl, rfl⟩
    · have none : more = [] := by
        by_contra some
        have last := List.getLast?_eq_some_getLast some
        have visible : Text.isBlank (more.getLast some) = false := by
          apply isBlank_of_getLast?_lexeme lexical
          rw [same, List.getLast?_append, last, Option.some_or]
          rfl
        rw [blank _ (List.mem_append_left _ (List.getLast_mem some))] at visible
        contradiction
      subst none
      rw [List.append_nil] at same
      exact ⟨[], by rw [same, List.append_nil], nofun⟩
    · exact ⟨more, rfl, apart.of_append⟩
  · rintro ⟨rest, rfl, apart⟩
    exact ⟨rest ++ gap, List.append_assoc .., apart.append (apart_of_blank blank token)⟩

end Token

namespace Lexer

variable {lexer after : Lexer} {token : Token} {cause : SyntaxError} {gap : List Char}

theorem tokens_of_next_none (read : lexer.next = (none, after)) : lexer.tokens = .ok [] := by
  rw [tokens]
  split <;> simp_all

theorem tokens_of_next_error (read : lexer.next = (some (.error cause), after)) :
    lexer.tokens = .error cause := by
  rw [tokens]
  split <;> simp_all

theorem tokens_of_next_token (read : lexer.next = (some (.ok token), after)) :
    lexer.tokens = (token :: ·) <$> after.tokens := by
  rw [tokens]
  split <;> simp_all

/-- More text behind what is still to be read. -/
def extend (lexer : Lexer) (more : List Char) : Lexer := ⟨lexer.rest ++ more, lexer.position⟩

theorem skip_extend {length : Nat} (inside : length ≤ lexer.rest.length) (more : List Char) :
    (lexer.extend more).skip length = (lexer.skip length).extend more := by
  rw [skip, extend, skip, extend, List.drop_append_of_le_length inside,
    List.take_append_of_le_length inside]

theorem skipBlanks_extend (visible : lexer.skipBlanks.rest ≠ []) (more : List Char) :
    (lexer.extend more).skipBlanks = lexer.skipBlanks.extend more := by
  have short : (lexer.rest.takeWhile Text.isBlank).length ≠ lexer.rest.length := by
    intro whole
    apply visible
    rw [skipBlanks, skip, whole, List.drop_length]
  have taken : (lexer.extend more).rest.takeWhile Text.isBlank =
      lexer.rest.takeWhile Text.isBlank := by
    rw [extend, List.takeWhile_append, if_neg short]
  rw [skipBlanks, taken, skip_extend (List.takeWhile_prefix _).length_le, skipBlanks]

theorem next_of_scan?_eq_none {more : List Char} {c : Char}
    (ahead : lexer.skipBlanks.rest = c :: more) (none : Token.scan? (c :: more) = none) :
    lexer.next = (some (.error (.unexpectedCharacter lexer.skipBlanks.position c)),
      lexer.skipBlanks) := by
  simp only [next]
  rw [ahead, none]

theorem next_of_scan?_eq_some {more : List Char} {c : Char} {length : Nat}
    (ahead : lexer.skipBlanks.rest = c :: more)
    (found : Token.scan? (c :: more) = some (token, length)) :
    lexer.next = (some (.ok token), lexer.skipBlanks.skip length) := by
  simp only [next]
  rw [ahead, found]

/-- Blanks at the end of a text matter neither for its tokens nor for the error if there is one. -/
theorem tokens_extend_of_blank (blank : Text.Blank gap) (lexer : Lexer) :
    (lexer.extend gap).tokens = lexer.tokens := by
  induction size : lexer.rest.length using Nat.strongRecOn generalizing lexer with
  | _ size ih =>
    subst size
    cases ahead : lexer.skipBlanks.rest with
    | nil =>
      have all : (lexer.extend gap).skipBlanks.rest = [] := by
        rw [rest_skipBlanks, List.dropWhile_eq_nil_iff] at ahead ⊢
        exact List.forall_mem_append.mpr ⟨ahead, blank⟩
      rw [tokens_of_next_none (next_eq_none_iff.mpr ⟨rfl, ahead⟩),
        tokens_of_next_none (next_eq_none_iff.mpr ⟨rfl, all⟩)]
    | cons c more =>
      have skipped : (lexer.extend gap).skipBlanks = lexer.skipBlanks.extend gap :=
        skipBlanks_extend (ahead ▸ List.cons_ne_nil c more) gap
      have aheadExtended : (lexer.extend gap).skipBlanks.rest = c :: (more ++ gap) := by
        rw [skipped, extend, ahead, List.cons_append]
      have same := Token.scan?_append_blank blank (c :: more)
      cases found : Token.scan? (c :: more) with
      | none =>
        rw [found] at same
        rw [tokens_of_next_error (next_of_scan?_eq_none ahead found),
          tokens_of_next_error (next_of_scan?_eq_none aheadExtended same), skipped]
        rfl
      | some scanned =>
        obtain ⟨token, length⟩ := scanned
        rw [found] at same
        have read := next_of_scan?_eq_some ahead found
        have inside : length ≤ lexer.skipBlanks.rest.length := by
          rw [ahead]
          exact (Token.length_of_scan? found).2
        rw [tokens_of_next_token read,
          tokens_of_next_token (next_of_scan?_eq_some aheadExtended same), skipped,
          skip_extend inside, ih _ (length_lt_of_next read) _ rfl]

end Lexer

namespace Token

variable {tokens : List Token} {text gap : List Char}

theorem spelled_append_blank_iff (blank : Text.Blank gap) :
    Spelled tokens (text ++ gap) ↔ Spelled tokens text := by
  have same := Lexer.tokens_extend_of_blank blank ⟨text, 0⟩
  have whole : (Lexer.extend ⟨text, 0⟩ gap).rest = text ++ gap := rfl
  rw [← whole, ← Lexer.tokens_eq_ok_iff, same, Lexer.tokens_eq_ok_iff]

end Token

end SqlStore
