import SqlStore.Proofs.Grammar.Recognition
import SqlStore.Proofs.Lexing.Munch

/-! # What texts can say

No text says everything that a statement may hold: names are words, lists have items, columns have no
marks but a type, and values are counts or texts without a quote. Whatever is read off a text is such
a statement, since no token of a text holds more.
-/

namespace SqlStore

/-- A letter or an underscore, and then letters, digits and underscores. -/
def Text.IsWord (text : String) : Prop :=
  ∃ first rest, text.toList = first :: rest ∧ (first.isAlpha = true ∨ first = '_') ∧
    ∀ c ∈ rest, c.isAlphanum = true ∨ c = '_'

def Value.Expressible : Value → Prop
  | integer n => 0 ≤ n.toInt
  | text body => Token.quote ∉ body.toList
  | null | boolean _ => False

def Column.Expressible (column : Column) : Prop :=
  Text.IsWord column.name ∧ column.nullable = true ∧ column.primaryKey = false

def Selection.Expressible : Selection → Prop
  | all => True
  | named names => names ≠ [] ∧ ∀ name ∈ names, Text.IsWord name

/-- Some text says this. -/
def Statement.Expressible : Statement → Prop
  | createTable schema => Text.IsWord schema.name ∧ schema.columns ≠ [] ∧
      ∀ column ∈ schema.columns, column.Expressible
  | insert table values => Text.IsWord table ∧ values ≠ [] ∧ ∀ value ∈ values, value.Expressible
  | select table selection => Text.IsWord table ∧ selection.Expressible

namespace Token

theorem lexical_ident_iff {name : String} : (ident name).Lexical ↔ Text.IsWord name := by
  simp only [Lexical, Text.IsWord, startsWord, continuesWord, Bool.or_eq_true, beq_iff_eq]

theorem Spelled.lexical {tokens : List Token} {text : List Char} (spelled : Spelled tokens text) :
    ∀ token ∈ tokens, token.Lexical := by
  induction tokens generalizing text with
  | nil => exact fun _ member => absurd member List.not_mem_nil
  | cons token tokens ih =>
    obtain ⟨_, rest, _, _, lexical, _, later⟩ := spelled_cons_iff.mp spelled
    exact List.forall_mem_cons.mpr ⟨lexical, ih later⟩

end Token

namespace Grammar

variable {tokens : List Token}

/-- A list has an item, and what holds of every token holds for every item. -/
theorem Separated.items {α : Type} {item : List Token → α → Prop} {good : Token → Prop}
    {holds : α → Prop} {values : List α} (listed : Separated item tokens values)
    (each : ∀ here value, item here value → (∀ token ∈ here, good token) → holds value)
    (all : ∀ token ∈ tokens, good token) : values ≠ [] ∧ ∀ value ∈ values, holds value := by
  induction listed with
  | last here =>
    refine ⟨List.cons_ne_nil _ _, fun value member => ?_⟩
    obtain rfl := List.mem_singleton.mp member
    exact each _ value here all
  | more here later ih =>
    obtain ⟨first, others⟩ := List.forall_mem_append.mp all
    obtain ⟨_, rest⟩ := ih fun token member => others token (List.mem_cons_of_mem _ member)
    exact ⟨List.cons_ne_nil _ _, List.forall_mem_cons.mpr ⟨each _ _ here first, rest⟩⟩

theorem IsName.isWord {name : String} (named : IsName tokens name)
    (lexical : ∀ token ∈ tokens, token.Lexical) : Text.IsWord name := by
  cases named with
  | ident => exact Token.lexical_ident_iff.mp (lexical _ List.mem_cons_self)

theorem IsColumn.expressible {column : Column} (typed : IsColumn tokens column)
    (lexical : ∀ token ∈ tokens, token.Lexical) : column.Expressible := by
  cases typed with
  | typed spelled => exact ⟨Token.lexical_ident_iff.mp (lexical _ List.mem_cons_self), rfl, rfl⟩

/-- A number of a text has no sign. -/
theorem IsLiteral.expressible {value : Value} (literal : IsLiteral tokens value)
    (lexical : ∀ token ∈ tokens, token.Lexical) : value.Expressible := by
  cases literal with
  | string body => exact lexical _ List.mem_cons_self
  | @number digits n denoted =>
    have only : Text.IsDigits digits.toList := lexical _ List.mem_cons_self
    rw [Value.Expressible]
    generalize digits.toList = text at denoted only
    generalize n.toInt = number at denoted ⊢
    cases denoted with
    | unsigned _ | positive _ => exact Int.natCast_nonneg _
    | negative _ =>
      have sign : Char.isDigit '-' = true := only.2 _ List.mem_cons_self
      exact absurd sign (by decide)

theorem IsSelection.expressible {selection : Selection} (selected : IsSelection tokens selection)
    (lexical : ∀ token ∈ tokens, token.Lexical) : selection.Expressible := by
  cases selected with
  | all => trivial
  | named listed => exact listed.items (fun _ _ => IsName.isWord) lexical

theorem Derives.expressible {statement : Statement} (derived : Derives tokens statement)
    (lexical : ∀ token ∈ tokens, token.Lexical) : statement.Expressible := by
  cases derived with
  | createTable _ _ listed _ =>
    simp only [List.cons_append, List.forall_mem_cons, List.forall_mem_append] at lexical
    obtain ⟨_, _, named, _, inner, _⟩ := lexical
    exact ⟨Token.lexical_ident_iff.mp named, listed.items (fun _ _ => IsColumn.expressible) inner⟩
  | insert _ _ _ listed _ =>
    simp only [List.cons_append, List.forall_mem_cons, List.forall_mem_append] at lexical
    obtain ⟨_, _, named, _, _, inner, _⟩ := lexical
    exact ⟨Token.lexical_ident_iff.mp named, listed.items (fun _ _ => IsLiteral.expressible) inner⟩
  | select _ selected _ _ =>
    simp only [List.cons_append, List.forall_mem_cons, List.forall_mem_append] at lexical
    obtain ⟨_, inner, _, named, _⟩ := lexical
    exact ⟨Token.lexical_ident_iff.mp named, selected.expressible inner⟩

end Grammar

namespace Statement

variable {text : String} {statement : Statement}

/-- A text is read by way of the tokens that it spells. -/
theorem ofText_eq_ok_iff : ofText text = .ok statement ↔
    ∃ tokens, Token.Spelled tokens text.toList ∧ Grammar.Derives tokens statement := by
  rw [ofText, Result.bind_eq_ok_iff]
  simp only [ofTokens_eq_ok_iff_derives]
  exact exists_congr fun tokens => and_congr_left' Lexer.tokens_eq_ok_iff

/-- What a text says is expressible. -/
theorem expressible_of_ofText (read : ofText text = .ok statement) : statement.Expressible := by
  obtain ⟨tokens, spelled, derived⟩ := ofText_eq_ok_iff.mp read
  exact derived.expressible spelled.lexical

end Statement

end SqlStore
