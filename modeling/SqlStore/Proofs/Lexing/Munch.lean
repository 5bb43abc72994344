import Mathlib.Data.List.TakeWhile
import SqlStore.Proofs.Lexing.Spelling
import SqlStore.Proofs.Result

/-! # The lexer cuts texts as they are spelled

A token takes every character that continues it and no other, and a string ends at the next quote,
so what is scanned at the front of a text is the one token that can stand there. With blanks skipped
before each token the lexer finds tokens exactly where the text spells some, and it finds those.
-/

namespace SqlStore

section Stretch

variable {p : Char → Bool} {run rest : List Char}

private theorem takeWhile_append_eq (all : ∀ c ∈ run, p c = true)
    (stop : ∀ c ∈ rest.head?, p c = false) : (run ++ rest).takeWhile p = run := by
  rw [List.takeWhile_append_of_pos all]
  cases rest with
  | nil => rw [List.takeWhile_nil, List.append_nil]
  | cons c rest => rw [List.takeWhile_cons, stop c rfl, if_neg Bool.false_ne_true, List.append_nil]

/-- A text is cut where a property is lost. -/
private theorem cut (p : Char → Bool) (text : List Char) :
    (∀ c ∈ text.takeWhile p, p c = true) ∧ text = text.takeWhile p ++ text.dropWhile p ∧
      ∀ c ∈ (text.dropWhile p).head?, p c = false := by
  refine ⟨List.all_eq_true.mp List.all_takeWhile, List.takeWhile_append_dropWhile.symm, ?_⟩
  intro c member
  have stopped := List.head?_dropWhile_not p text
  rw [Option.mem_def.mp member] at stopped
  exact stopped

end Stretch

namespace Token

variable {token : Token} {text : List Char} {length : Nat}

private theorem isDigit_eq_false_of_startsWord {c : Char} (start : startsWord c = true) :
    c.isDigit = false := by
  apply Bool.eq_false_iff.mpr
  intro digit
  obtain ⟨least, most⟩ := Char.isDigit_iff_toNat.mp digit
  change 48 ≤ c.toNat at least
  change c.toNat ≤ 57 at most
  rcases (Bool.or_eq_true _ _).mp start with letter | underscore
  · have := toNat_of_isAlpha letter
    omega
  · obtain rfl := eq_of_beq underscore
    exact absurd most (by decide)

/-- The body of a string ends at the first quote. -/
private theorem takeWhile_body {body : List Char} (fresh : quote ∉ body) (after : List Char) :
    (body ++ quote :: after).takeWhile (· ≠ quote) = body := by
  refine takeWhile_append_eq (fun c member => ?_) (fun c member => ?_)
  · exact decide_eq_true fun same => fresh (same ▸ member)
  · rw [← Option.mem_some_iff.mp member]
    exact decide_eq_false (fun differs => differs rfl)

theorem lexical_punctuation {c : Char} (found : ofPunctuation? c = some token) :
    token.Lexical ∧ token.lexeme = [c] ∧ ∀ rest, Apart token rest := by
  rw [ofPunctuation?.eq_def] at found
  split at found <;> cases found <;> exact ⟨trivial, rfl, fun _ _ _ => rfl⟩

private theorem split_of_scan? (scanned : scan? text = some (token, length)) :
    token.Lexical ∧ length = token.lexeme.length ∧
      ∃ rest, text = token.lexeme ++ rest ∧ Apart token rest := by
  cases text with
  | nil => contradiction
  | cons c rest =>
    simp only [scan?] at scanned
    split at scanned
    · next opened =>
      subst opened
      obtain ⟨closed, same⟩ := Option.ite_none_right_eq_some.mp scanned
      obtain ⟨body, after, rfl, fresh⟩ := List.eq_append_cons_of_mem closed
      rw [takeWhile_body fresh] at same
      obtain ⟨rfl, rfl⟩ := Prod.mk.inj (Option.some.inj same)
      rw [Lexical, lexeme_string, String.toList_ofList]
      exact ⟨fresh, by simp, after, by simp, fun _ _ => rfl⟩
    · split at scanned
      · next digit =>
        obtain ⟨rfl, rfl⟩ := Prod.mk.inj (Option.some.inj scanned)
        obtain ⟨only, whole, stop⟩ := cut Char.isDigit (c :: rest)
        rw [Lexical, lexeme_number, String.toList_ofList]
        refine ⟨⟨?_, only⟩, rfl, _, whole, stop⟩
        rw [List.takeWhile_cons, digit]
        exact List.cons_ne_nil _ _
      · split at scanned
        · next start =>
          obtain ⟨rfl, rfl⟩ := Prod.mk.inj (Option.some.inj scanned)
          obtain ⟨_, whole, stop⟩ := cut continuesWord (c :: rest)
          obtain ⟨words, _, _⟩ := cut continuesWord rest
          rw [Lexical, lexeme_ident, String.toList_ofList]
          refine ⟨⟨c, rest.takeWhile continuesWord, ?_, start, words⟩, rfl, _, whole, stop⟩
          rw [List.takeWhile_cons, continuesWord_of_startsWord start, if_pos rfl]
        · obtain ⟨_, found, same⟩ := Option.map_eq_some_iff.mp scanned
          obtain ⟨rfl, rfl⟩ := Prod.mk.inj same
          obtain ⟨lexical, single, apart⟩ := lexical_punctuation found
          rw [single]
          exact ⟨lexical, rfl, rest, rfl, apart rest⟩

private theorem scan?_lexeme_append {rest : List Char} (lexical : token.Lexical)
    (apart : Apart token rest) :
    scan? (token.lexeme ++ rest) = some (token, token.lexeme.length) := by
  cases token with
  | ident name =>
    obtain ⟨first, more, same, start, words⟩ := lexical
    have other : first ≠ quote := by
      rintro rfl
      exact absurd start (by decide)
    have all : ∀ c ∈ name.toList, continuesWord c = true :=
      same ▸ List.forall_mem_cons.mpr ⟨continuesWord_of_startsWord start, words⟩
    have taken := takeWhile_append_eq all apart
    rw [lexeme_ident]
    rw [same, List.cons_append] at taken ⊢
    simp only [scan?]
    rw [if_neg other, isDigit_eq_false_of_startsWord start, if_neg Bool.false_ne_true, start,
      if_pos rfl, taken, ← same, String.ofList_toList]
  | string body =>
    rw [lexeme_string, List.append_assoc, List.cons_append]
    simp only [scan?]
    rw [List.singleton_append, takeWhile_body lexical, String.ofList_toList]
    simp
  | number digits =>
    obtain ⟨some, only⟩ := lexical
    obtain ⟨first, more, same⟩ := List.exists_cons_of_ne_nil some
    have digit : first.isDigit = true := only first (same ▸ List.mem_cons_self)
    have other : first ≠ quote := by
      rintro rfl
      exact absurd digit (by decide)
    have taken := takeWhile_append_eq only apart
    rw [lexeme_number]
    rw [same, List.cons_append] at taken ⊢
    simp only [scan?]
    rw [if_neg other, digit, if_pos rfl, taken, ← same, String.ofList_toList]
  | _ => rfl

/-- A scan finds a token with nothing behind it that would continue it. -/
theorem scan?_eq_some_iff : scan? text = some (token, length) ↔
    token.Lexical ∧ length = token.lexeme.length ∧
      ∃ rest, text = token.lexeme ++ rest ∧ Apart token rest := by
  constructor
  · exact split_of_scan?
  · rintro ⟨lexical, rfl, rest, rfl, apart⟩
    exact scan?_lexeme_append lexical apart

end Token

namespace Lexer

variable {lexer after : Lexer} {token : Token} {tokens : List Token}

theorem rest_skipBlanks (lexer : Lexer) :
    lexer.skipBlanks.rest = lexer.rest.dropWhile Text.isBlank := by
  obtain ⟨_, whole, _⟩ := cut Text.isBlank lexer.rest
  have dropped := congrArg (List.drop (lexer.rest.takeWhile Text.isBlank).length) whole
  rw [List.drop_left] at dropped
  exact dropped

theorem rest_skip_of_eq_append {lexeme rest : List Char} (whole : lexer.rest = lexeme ++ rest) :
    (lexer.skip lexeme.length).rest = rest := by
  rw [skip, whole, List.drop_left]

/-- A call delivers the token behind the blanks. -/
theorem next_eq_token_iff : lexer.next = (some (.ok token), after) ↔
    after = lexer.skipBlanks.skip token.lexeme.length ∧ token.Lexical ∧
      lexer.skipBlanks.rest = token.lexeme ++ after.rest ∧ token.Apart after.rest := by
  constructor
  · intro read
    simp only [next] at read
    split at read
    · cases read
    · split at read
      · next found =>
        cases read
        obtain ⟨lexical, rfl, rest, whole, apart⟩ := Token.scan?_eq_some_iff.mp found
        rw [rest_skip_of_eq_append whole]
        exact ⟨rfl, lexical, whole, apart⟩
      · cases read
  · rintro ⟨same, lexical, whole, apart⟩
    have found := Token.scan?_eq_some_iff.mpr ⟨lexical, rfl, after.rest, whole, apart⟩
    obtain ⟨first, more, start, _⟩ := lexical.exists_cons
    have begun : lexer.skipBlanks.rest = first :: (more ++ after.rest) := by
      rw [whole, start, List.cons_append]
    rw [same]
    simp only [next]
    split
    · next done =>
      rw [begun] at done
      contradiction
    · rw [found]

theorem next_eq_none_iff : lexer.next = (none, after) ↔
    after = lexer.skipBlanks ∧ lexer.skipBlanks.rest = [] := by
  constructor
  · intro read
    simp only [next] at read
    split at read
    · next done =>
      cases read
      exact ⟨rfl, done⟩
    · split at read <;> cases read
  · rintro ⟨rfl, done⟩
    simp only [next]
    rw [done]

theorem tokens_eq_ok_nil_iff : lexer.tokens = .ok [] ↔ lexer.skipBlanks.rest = [] := by
  rw [tokens]
  split
  · next read => exact iff_of_true rfl (next_eq_none_iff.mp read).2
  · next read =>
    apply iff_of_false (by rintro ⟨⟩)
    intro done
    rw [next_eq_none_iff.mpr ⟨rfl, done⟩] at read
    cases read
  · next read =>
    refine iff_of_false (fun same => ?_) fun done => ?_
    · obtain ⟨_, _, same⟩ := Result.map_eq_ok_iff.mp same
      cases same
    · rw [next_eq_none_iff.mpr ⟨rfl, done⟩] at read
      cases read

theorem tokens_eq_ok_cons_iff : lexer.tokens = .ok (token :: tokens) ↔
    ∃ after, lexer.next = (some (.ok token), after) ∧ after.tokens = .ok tokens := by
  rw [Lexer.tokens]
  split
  · next read =>
    apply iff_of_false (by rintro ⟨⟩)
    rintro ⟨_, other, _⟩
    rw [read] at other
    cases other
  · next read =>
    apply iff_of_false (by rintro ⟨⟩)
    rintro ⟨_, other, _⟩
    rw [read] at other
    cases other
  · next first behind read =>
    rw [Result.map_eq_ok_iff, read]
    constructor
    · rintro ⟨_, later, same⟩
      obtain ⟨rfl, rfl⟩ := List.cons.inj same
      exact ⟨behind, rfl, later⟩
    · rintro ⟨_, same, later⟩
      cases same
      exact ⟨tokens, later, rfl⟩

theorem tokens_eq_ok_iff : lexer.tokens = .ok tokens ↔ Token.Spelled tokens lexer.rest := by
  induction tokens generalizing lexer with
  | nil =>
    rw [tokens_eq_ok_nil_iff, rest_skipBlanks, List.dropWhile_eq_nil_iff, Token.spelled_nil_iff]
    rfl
  | cons token tokens ih =>
    rw [tokens_eq_ok_cons_iff, Token.spelled_cons_iff]
    simp only [ih]
    constructor
    · rintro ⟨after, read, later⟩
      obtain ⟨_, lexical, whole, apart⟩ := next_eq_token_iff.mp read
      obtain ⟨blank, split, _⟩ := cut Text.isBlank lexer.rest
      rw [← rest_skipBlanks, whole] at split
      exact ⟨_, after.rest, split, blank, lexical, apart, later⟩
    · rintro ⟨gap, rest, whole, blank, lexical, apart, later⟩
      have behind : lexer.skipBlanks.rest = token.lexeme ++ rest := by
        obtain ⟨first, more, start, visible⟩ := lexical.exists_cons
        rw [rest_skipBlanks, whole, List.dropWhile_append_of_pos blank, start, List.cons_append,
          List.dropWhile_cons, visible, if_neg Bool.false_ne_true]
      have left := rest_skip_of_eq_append behind
      refine ⟨_, next_eq_token_iff.mpr ⟨rfl, lexical, ?_, ?_⟩, ?_⟩ <;> rw [left] <;> assumption

end Lexer

namespace Token

/-- What is left of a text without blanks and quotes. -/
def visible (text : List Char) : List Char := text.filter fun c => !Text.isBlank c && c != quote

theorem visible_append (a b : List Char) : visible (a ++ b) = visible a ++ visible b :=
  List.filter_append a b

theorem visible_of_blank {gap : List Char} (blank : Text.Blank gap) : visible gap = [] := by
  apply List.filter_eq_nil_iff.mpr
  intro c member
  rw [blank c member]
  exact Bool.false_ne_true

theorem visible_lexeme (token : Token) : visible token.lexeme = visible token.text.toList := by
  cases token with
  | string body =>
    have around : visible [quote] = [] := by decide
    change visible ([quote] ++ body.toList ++ [quote]) = visible body.toList
    rw [visible_append, visible_append, around, List.append_nil, List.nil_append]
  | _ => rfl

theorem visible_of_spelled {tokens : List Token} {text : List Char}
    (spelled : Spelled tokens text) :
    visible text = visible (tokens.flatMap fun token => token.text.toList) := by
  induction tokens generalizing text with
  | nil => exact visible_of_blank (spelled_nil_iff.mp spelled)
  | cons token tokens ih =>
    obtain ⟨gap, rest, rfl, blank, _, _, later⟩ := spelled_cons_iff.mp spelled
    rw [visible_append, visible_append, visible_of_blank blank, visible_lexeme, ih later,
      List.flatMap_cons, visible_append, List.nil_append]

/-- Tokens are found exactly where the text spells them. No text spells two lists of tokens, and
apart from blanks and quotes a text has no character that its tokens lack. -/
theorem ofText_eq_ok_iff_spelled (text : String) :
    (∀ tokens, ofText text = .ok tokens ↔ Spelled tokens text.toList) ∧
    (∀ tokens others, Spelled tokens text.toList → Spelled others text.toList → tokens = others) ∧
    ∀ tokens, Spelled tokens text.toList →
      visible text.toList = visible (tokens.flatMap fun token => token.text.toList) := by
  have found (tokens : List Token) : ofText text = .ok tokens ↔ Spelled tokens text.toList :=
    Lexer.tokens_eq_ok_iff
  refine ⟨found, fun tokens others spelled also => ?_, fun tokens => visible_of_spelled⟩
  have same := ((found tokens).mpr spelled).symm.trans ((found others).mpr also)
  exact Except.ok.inj same

end Token

end SqlStore
