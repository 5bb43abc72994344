import Mathlib.Logic.Basic
import SqlStore.Proofs.Grammar.Recognition

/-! # Where a statement is refused

Every draft can still become a statement, so tokens that were read are the beginning of one. A
refusal is therefore due to one of two things: the tokens end too early, and more of them might
have helped; or one token cannot stand behind those before it, and then nothing that follows helps
and nothing that follows is looked at. The message names that token.
-/

namespace SqlStore

open Result

namespace SyntaxError

variable {cause : SyntaxError} {token : Token}

/-- It is the end of the tokens that is wrong. -/
inductive BlamesEnd : SyntaxError → Prop where
  | empty : BlamesEnd .emptyInput
  | missing (expected : Expectation) : BlamesEnd (.unexpectedEnd expected)

/-- It is this token that is wrong. -/
inductive Blames : SyntaxError → Token → Prop where
  | beginning (token : Token) : Blames (.unknownStatement token) token
  | kind (expected : Expectation) (token : Token) : Blames (.unexpectedToken expected token) token
  | type (name : String) : Blames (.unsupportedType name) (.ident name)
  | range (digits : String) : Blames (.integerOutOfRange digits) (.number digits)
  | trailing (token : Token) : Blames (.trailingToken token) token

/-- The message says that the tokens end too early. -/
def SaysEnd (cause : SyntaxError) : Prop :=
  cause.message = "[Parser] Unexpected end of input" ∨
    ∃ expected : String, cause.message = "[Parser] Expected " ++ expected ++ ", got end of input"

/-- The message has the text between quotes. -/
def Quotes (cause : SyntaxError) (text : String) : Prop :=
  ∃ before after, cause.message = before ++ "'" ++ text ++ "'" ++ after

theorem BlamesEnd.saysEnd (blamed : cause.BlamesEnd) : cause.SaysEnd := by
  cases blamed with
  | empty => exact .inl rfl
  | missing expected => exact .inr ⟨expected.label, rfl⟩

/-- What stands before a text may end with a quote, and what stands behind it begin with one. -/
private theorem quotes_of_message_eq {text front opening closing before after : String}
    (same : cause.message = front ++ opening ++ text ++ closing) (opens : opening = before ++ "'")
    (closes : closing = "'" ++ after) : cause.Quotes text := by
  refine ⟨front ++ before, after, ?_⟩
  rw [same, opens, closes]
  simp only [String.append_assoc]

theorem Blames.quotes (blamed : cause.Blames token) : cause.Quotes token.text := by
  have closes : "'" = "'" ++ "" := rfl
  cases blamed with
  | beginning _ =>
    have opens : "[Parser] Unknown statement starting with '" =
        "[Parser] Unknown statement starting with " ++ "'" := rfl
    exact quotes_of_message_eq (by rw [String.empty_append]; rfl) opens closes
  | kind expected _ =>
    cases expected with
    | keyword word =>
      have opens : ", got '" = ", got " ++ "'" := rfl
      exact quotes_of_message_eq rfl opens closes
    | token _ | literal =>
      have opens : " ('" = " (" ++ "'" := rfl
      have closes : "')" = "'" ++ ")" := rfl
      exact quotes_of_message_eq rfl opens closes
  | type name =>
    have opens : "[Parser] Unsupported column type: '" =
        "[Parser] Unsupported column type: " ++ "'" := rfl
    exact quotes_of_message_eq (by rw [String.empty_append]; rfl) opens closes
  | range digits =>
    have opens : "[Parser] Integer literal out of range: '" =
        "[Parser] Integer literal out of range: " ++ "'" := rfl
    exact quotes_of_message_eq (by rw [String.empty_append]; rfl) opens closes
  | trailing _ =>
    have opens : "[Parser] Unexpected token after statement: '" =
        "[Parser] Unexpected token after statement: " ++ "'" := rfl
    exact quotes_of_message_eq (by rw [String.empty_append]; rfl) opens closes

end SyntaxError

namespace Token

variable {token : Token} {cause : SyntaxError}

theorem blames_of_expect {kind : TokenKind} (refused : token.expect kind = .error cause) :
    cause.Blames token := by
  rw [expect] at refused
  split at refused
  · cases refused
  · cases refused
    exact .kind _ token

theorem blames_of_expectKeyword {keyword : Keyword}
    (refused : token.expectKeyword keyword = .error cause) : cause.Blames token := by
  rw [expectKeyword] at refused
  split at refused
  · cases refused
  · cases refused
    exact .kind _ token

theorem blames_of_expectName (refused : token.expectName = .error cause) : cause.Blames token := by
  cases token with
  | ident name => cases refused
  | _ =>
    cases refused
    exact .kind _ _

theorem blames_of_expectLiteral (refused : token.expectLiteral = .error cause) :
    cause.Blames token := by
  cases token with
  | number digits =>
    rw [expectLiteral] at refused
    split at refused
    · cases refused
    · cases refused
      exact .range digits
  | string body => cases refused
  | _ =>
    cases refused
    exact .kind _ _

end Token

namespace Draft

variable {draft : Draft} {token : Token} {cause : SyntaxError}

/-- A draft that checks the token and goes on refuses it only where the check does. -/
private theorem blames_of_check {α : Type} {check : Except SyntaxError α} {next : α → Draft}
    (blames : ∀ {cause}, check = .error cause → cause.Blames token)
    (refused : (do return next (← check)) = .error cause) : cause.Blames token := by
  rcases bind_eq_error_iff.mp refused with here | ⟨value, _, later⟩
  · exact blames here
  · cases later

/-- Whatever a draft waits for, it is the token that is wrong. -/
theorem blames_of_step (refused : draft.step token = .error cause) : cause.Blames token := by
  cases draft with
  | start =>
    rw [step] at refused
    split at refused
    · cases refused
    · cases refused
    · cases refused
    · cases refused
      exact .beginning token
  | tableKeyword | intoKeyword | valuesKeyword _ | fromKeyword =>
    exact blames_of_check Token.blames_of_expectKeyword refused
  | newTable | columnName _ _ | target | selectedName _ | source _ =>
    exact blames_of_check Token.blames_of_expectName refused
  | columnsOpen _ | valuesOpen _ => exact blames_of_check Token.blames_of_expect refused
  | literal _ _ => exact blames_of_check Token.blames_of_expectLiteral refused
  | columnType table columns name =>
    rw [step] at refused
    rcases bind_eq_error_iff.mp refused with here | ⟨spelling, given, later⟩
    · exact Token.blames_of_expectName here
    · obtain rfl := Token.expectName_eq_ok_iff.mp given
      refine blames_of_check (fun unknown => ?_) later
      rw [ColumnType.ofText] at unknown
      split at unknown
      · cases unknown
      · cases unknown
        exact .type spelling
  | columnEnd _ _ | literalEnd _ _ =>
    rw [step] at refused
    split at refused
    · cases refused
    · exact blames_of_check Token.blames_of_expect refused
  | selectionStart =>
    rw [step] at refused
    split at refused
    · cases refused
    · exact blames_of_check Token.blames_of_expectName refused
  | selectedEnd _ =>
    rw [step] at refused
    split at refused
    · cases refused
    · exact blames_of_check Token.blames_of_expectKeyword refused
  | complete _ =>
    rw [step] at refused
    split at refused
    · cases refused
    · cases refused
      exact .trailing token
  | closed _ =>
    cases refused
    exact .trailing token

theorem blamesEnd_of_finish (refused : draft.finish = .error cause) : cause.BlamesEnd := by
  cases draft with
  | start =>
    cases refused
    exact .empty
  | complete _ | closed _ => cases refused
  | _ =>
    cases refused
    exact .missing _

/-- With this many more tokens there can be a statement. -/
def missing : Draft → Nat
  | complete _ | closed _ => 0
  | columnEnd _ _ | literalEnd _ _ | source _ => 1
  | columnType _ _ _ | literal _ _ | selectedEnd _ | fromKeyword => 2
  | columnName _ _ | valuesOpen _ | selectedName _ | selectionStart => 3
  | columnsOpen _ | valuesKeyword _ | start => 4
  | newTable | target => 5
  | tableKeyword | intoKeyword => 6

theorem step_label {keyword : Keyword} {next : Draft}
    (steps : ∀ token, draft.step token = do token.expectKeyword keyword; return next) :
    draft.step (.ident keyword.label) = .ok next := by
  rw [steps, Token.expectKeyword_eq_ok_iff.mpr (Token.spells_label keyword)]
  rfl

/-- A draft that is no statement yet can come nearer to one. -/
theorem exists_step (draft : Draft) : (∃ statement, draft.finish = .ok statement) ∨
    ∃ token next, draft.step token = .ok next ∧ next.missing < draft.missing := by
  cases draft with
  | complete statement | closed statement => exact .inl ⟨statement, rfl⟩
  | start =>
    have spelled := Token.keyword?_eq_some_iff.mpr (Token.spells_label .select)
    refine .inr ⟨.ident Keyword.select.label, selectionStart, ?_, Nat.lt_succ_self _⟩
    rw [step, spelled]
  | tableKeyword => exact .inr ⟨_, newTable, step_label fun _ => rfl, Nat.lt_succ_self _⟩
  | intoKeyword => exact .inr ⟨_, target, step_label fun _ => rfl, Nat.lt_succ_self _⟩
  | valuesKeyword table =>
    exact .inr ⟨_, valuesOpen table, step_label fun _ => rfl, Nat.lt_succ_self _⟩
  | fromKeyword => exact .inr ⟨_, source .all, step_label fun _ => rfl, Nat.lt_succ_self _⟩
  | newTable | target | columnName _ _ | selectedName _ | source _ =>
    exact .inr ⟨.ident "t", _, rfl, Nat.lt_succ_self _⟩
  | columnsOpen _ | valuesOpen _ => exact .inr ⟨.leftParen, _, rfl, Nat.lt_succ_self _⟩
  | literal _ _ => exact .inr ⟨.string "", _, rfl, Nat.lt_succ_self _⟩
  | columnEnd _ _ | literalEnd _ _ => exact .inr ⟨.rightParen, _, rfl, Nat.lt_succ_self _⟩
  | selectionStart => exact .inr ⟨.star, fromKeyword, rfl, Nat.lt_succ_self _⟩
  | columnType table columns name =>
    have known := ColumnType.ofText_eq_ok_iff.mpr (ColumnType.uppercase_label .int)
    refine .inr ⟨.ident "INT", columnEnd table (columns ++ [⟨name, .int, true, false⟩]), ?_,
      Nat.lt_succ_self _⟩
    rw [step, Token.expectName, ok_bind]
    exact bind_eq_ok_iff.mpr ⟨.int, known, rfl⟩
  | selectedEnd names =>
    have other : Token.ident "FROM" ≠ .comma := Token.noConfusion
    refine .inr ⟨.ident "FROM", source (.named names), ?_, Nat.lt_succ_self _⟩
    rw [step, if_neg other]
    exact bind_eq_ok_iff.mpr
      ⟨(), Token.expectKeyword_eq_ok_iff.mpr (Token.spells_label .from), rfl⟩

/-- Whatever has been read, some tokens behind it make it a statement. -/
theorem exists_read_eq_ok (draft : Draft) :
    ∃ tokens statement, draft.read tokens = .ok statement := by
  induction size : draft.missing using Nat.strongRecOn generalizing draft with
  | _ size ih =>
    subst size
    rcases draft.exists_step with ⟨statement, finished⟩ | ⟨token, next, stepped, nearer⟩
    · exact ⟨[], statement, finished⟩
    · obtain ⟨tokens, statement, accepted⟩ := ih _ nearer next rfl
      exact ⟨token :: tokens, statement, read_cons_eq_ok_iff.mpr ⟨next, stepped, accepted⟩⟩

theorem read_append {next : Draft} {front : List Token}
    (reached : front.foldlM step draft = .ok next) (more : List Token) :
    draft.read (front ++ more) = next.read more := by
  rw [read, List.foldlM_append, reached]
  rfl

/-- Behind a token that is refused nothing is looked at. -/
theorem read_append_of_step_eq_error {next : Draft} {front : List Token}
    (reached : front.foldlM step draft = .ok next) (refused : next.step token = .error cause)
    (more : List Token) : draft.read (front ++ token :: more) = .error cause := by
  rw [read_append reached, read, List.foldlM_cons, refused]
  rfl

/-- A refusal is due to the end of the tokens or to one of them. -/
theorem read_eq_error_cases {tokens : List Token} (refused : draft.read tokens = .error cause) :
    (∃ last, tokens.foldlM step draft = .ok last ∧ last.finish = .error cause) ∨
      ∃ front token rest reached, tokens = front ++ token :: rest ∧
        front.foldlM step draft = .ok reached ∧ reached.step token = .error cause := by
  rcases bind_eq_error_iff.mp refused with within | atEnd
  · exact .inr (exists_of_foldlM_eq_error within)
  · exact .inl atEnd

end Draft

namespace Statement

variable {tokens front rest : List Token} {token : Token} {cause : SyntaxError}

/-- Tokens that some others make a statement. -/
def Viable (tokens : List Token) : Prop :=
  ∃ more statement, ofTokens (tokens ++ more) = .ok statement

theorem Viable.of_append (viable : Viable (front ++ rest)) : Viable front := by
  obtain ⟨more, statement, accepted⟩ := viable
  rw [List.append_assoc] at accepted
  exact ⟨rest ++ more, statement, accepted⟩

theorem viable_of_foldlM {reached : Draft}
    (read : tokens.foldlM Draft.step .start = .ok reached) : Viable tokens := by
  obtain ⟨more, statement, accepted⟩ := reached.exists_read_eq_ok
  refine ⟨more, statement, ?_⟩
  rw [← accepted, ← Draft.read_append read]
  rfl

/-- The token at the position cannot stand behind those before it. They may still become a
statement, it is the one that the message names, and those behind it do not matter. -/
structure RefusedAt (tokens : List Token) (cause : SyntaxError) (position : Nat) : Prop where
  inside : position < tokens.length
  viable : Viable (tokens.take position)
  hopeless : ∀ more, ofTokens (tokens.take (position + 1) ++ more) = .error cause
  named : cause.Quotes tokens[position].text

theorem refusedAt_of_step {reached : Draft} (read : front.foldlM Draft.step .start = .ok reached)
    (refused : reached.step token = .error cause) (rest : List Token) :
    RefusedAt (front ++ token :: rest) cause front.length where
  inside := by
    rw [List.length_append, List.length_cons]
    exact Nat.lt_add_of_pos_right (Nat.succ_pos _)
  viable := by
    rw [List.take_left]
    exact viable_of_foldlM read
  hopeless more := by
    rw [List.take_length_add_append, List.take_succ_cons, List.take_zero, List.append_assoc]
    exact Draft.read_append_of_step_eq_error read refused more
  named := by
    rw [List.getElem_append_right (Nat.le_refl _)]
    simp only [Nat.sub_self, List.getElem_cons_zero]
    exact (Draft.blames_of_step refused).quotes

/-- No more than the tokens before it may become a statement. -/
theorem RefusedAt.le_of_viable_take {position count : Nat}
    (refused : RefusedAt tokens cause position) (viable : Viable (tokens.take count)) :
    count ≤ position := by
  refine Nat.le_of_not_lt fun beyond => ?_
  obtain ⟨more, statement, accepted⟩ := viable
  have whole := List.take_append_drop (position + 1) (tokens.take count)
  rw [List.take_take, Nat.min_eq_left beyond] at whole
  rw [← whole, List.append_assoc, refused.hopeless] at accepted
  cases accepted

/-- Tokens that are no statement either end too early or have a first one that cannot stand where it
stands. The error says which, and for a token it is the same whatever follows. -/
theorem error_blames_end_or_first_hopeless (tokens : List Token) (cause : SyntaxError)
    (refused : ofTokens tokens = .error cause) :
    Xor (cause.SaysEnd ∧ Viable tokens) (∃ position, RefusedAt tokens cause position) ∧
    ∀ position, RefusedAt tokens cause position →
      ∀ count, Viable (tokens.take count) → count ≤ position := by
  have whole : tokens.take tokens.length = tokens := List.take_length
  refine ⟨?_, fun position blamed count viable => blamed.le_of_viable_take viable⟩
  have apart (position : Nat) (blamed : RefusedAt tokens cause position) : ¬ Viable tokens := by
    intro viable
    rw [← whole] at viable
    exact Nat.not_lt_of_le (blamed.le_of_viable_take viable) blamed.inside
  rcases Draft.read_eq_error_cases refused with ⟨last, read, ended⟩ |
    ⟨front, token, rest, reached, rfl, read, stopped⟩
  · have viable := viable_of_foldlM read
    exact .inl ⟨⟨(Draft.blamesEnd_of_finish ended).saysEnd, viable⟩,
      fun ⟨position, blamed⟩ => apart position blamed viable⟩
  · have blamed := refusedAt_of_step read stopped rest
    exact .inr ⟨⟨front.length, blamed⟩, fun ⟨_, viable⟩ => apart front.length blamed viable⟩

/-- The word behind a comma is a column, keyword or not, and the next one should be the keyword. -/
theorem error_blames_word_behind_column :
    let tokens : List Token := [.ident "SELECT", .ident "a", .comma, .ident "FROM", .ident "t"]
    let cause : SyntaxError := .unexpectedToken (.keyword .from) (.ident "t")
    ofTokens tokens = .error cause ∧ RefusedAt tokens cause 4 := by
  intro tokens cause
  have refused : ofTokens tokens = .error cause := rfl
  obtain ⟨one, first⟩ := error_blames_end_or_first_hopeless tokens cause refused
  refine ⟨refused, ?_⟩
  rcases one with ⟨⟨saysEnd, _⟩, _⟩ | ⟨⟨position, blamed⟩, _⟩
  · rcases saysEnd with same | ⟨expected, same⟩
    · exact absurd same (by decide +kernel)
    · have ends := congrArg (fun message => message.toList.getLast?) same
      have closing : ", got end of input".toList.getLast? = some 't' := by decide
      rw [String.toList_append, List.getLast?_append, closing, Option.some_or] at ends
      exact absurd ends (by decide +kernel)
  · have viable : Viable (tokens.take 4) :=
      ⟨[.ident "FROM", .ident "t"], .select "t" (.named ["a", "FROM"]), rfl⟩
    have last := first position blamed 4 viable
    obtain rfl : position = 4 := Nat.le_antisymm (Nat.le_of_lt_succ blamed.inside) last
    exact blamed

end Statement

end SqlStore
