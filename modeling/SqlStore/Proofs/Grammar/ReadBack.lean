import Mathlib.Data.List.Forall2
import SqlStore.Proofs.Grammar.Printing

/-! # Reading back what is written

Every spelling of a piece is that of one token, and a layout keeps tokens from running together, so a
layout spells the tokens that the pieces denote. These derive the statement that was written. The
other way round, a text can say nothing but an expressible statement.
-/

namespace SqlStore

/-- The token says what the piece does. -/
inductive Token.Denotes : Token → Piece → Prop where
  | keyword {word : Keyword} {token : Token} (spelled : token.Spells word) :
    Denotes token (.keyword word)
  | type {type : ColumnType} {spelling : String}
    (spelled : Text.uppercase spelling = type.label) : Denotes (.ident spelling) (.type type)
  | name (name : String) : Denotes (.ident name) (.name name)
  | value {value : Value} {token : Token} (literal : Grammar.IsLiteral [token] value) :
    Denotes token (.value value)
  | mark {character : Char} {token : Token}
    (found : Token.ofPunctuation? character = some token) : Denotes token (.mark character)

namespace Piece

variable {piece : Piece} {pieces : List Piece} {text rest : List Char}

section Spellings

private theorem isAlpha_of_isAlpha_toUpper {c : Char} (letter : c.toUpper.isAlpha = true) :
    c.isAlpha = true := by
  by_cases small : c.isLower = true
  · exact (Bool.or_eq_true _ _).mpr (.inr small)
  · have same : c.toUpper = c := dif_neg fun range =>
      small ((Bool.and_eq_true _ _).mpr ⟨decide_eq_true range.1, decide_eq_true range.2⟩)
    rwa [same] at letter

/-- A word of letters in any case is a word, and its capital form is as expected. -/
private theorem uppercase_of_map_toUpper {label : String}
    (letters : label.toList.all Char.isAlpha = true) (some : label.toList ≠ [])
    (cased : text.map Char.toUpper = label.toList) :
    Text.uppercase (String.ofList text) = label ∧ Text.IsWord (String.ofList text) := by
  have alpha : ∀ c ∈ text, c.isAlpha = true := by
    intro c member
    exact isAlpha_of_isAlpha_toUpper
      (List.all_eq_true.mp letters _ (cased ▸ List.mem_map_of_mem member))
  have single : text.flatMap Text.upperChar = text.map Char.toUpper := by
    rw [List.map_eq_flatMap]
    apply List.flatMap_congr
    intro c member
    have bound := Token.toNat_of_isAlpha (alpha c member)
    rw [Text.upperChar, if_pos (by omega)]
  constructor
  · rw [Text.uppercase, String.toList_ofList, single, cased, String.ofList_toList]
  · rw [Text.IsWord, String.toList_ofList]
    cases text with
    | nil => exact absurd cased.symm some
    | cons first rest =>
      obtain ⟨here, later⟩ := List.forall_mem_cons.mp alpha
      refine ⟨first, rest, rfl, .inl here, fun c member => .inl ?_⟩
      rw [Char.isAlphanum, later c member, Bool.true_or]

private theorem keyword_letters (word : Keyword) :
    word.label.toList.all Char.isAlpha = true ∧ word.label.toList ≠ [] := by
  cases word <;> decide

private theorem type_letters (type : ColumnType) :
    type.label.toList.all Char.isAlpha = true ∧ type.label.toList ≠ [] := by
  cases type <;> decide

/-- Leading zeros do not count. -/
private theorem ofDigitChars_zeros (zeros n : Nat) :
    Nat.ofDigitChars 10 (List.replicate zeros '0' ++ Nat.toDigits 10 n) 0 = n := by
  induction zeros with
  | zero => exact Nat.ofDigitChars_toDigits (by decide) (by decide)
  | succ zeros ih => exact ih

private theorem isDigits_zeros (zeros n : Nat) :
    Text.IsDigits (List.replicate zeros '0' ++ Nat.toDigits 10 n) := by
  refine ⟨fun none => Nat.toDigits_ne_nil (List.append_eq_nil_iff.mp none).2, fun c member => ?_⟩
  rcases List.mem_append.mp member with zero | digit
  · rw [List.eq_of_mem_replicate zero]
    rfl
  · exact Nat.isDigit_of_mem_toDigits (by decide) (by decide) digit

/-- Every spelling of a piece is that of a token, which says what the piece does. -/
theorem Spells.exists_token (spelled : piece.Spells text) (expressible : piece.Expressible) :
    ∃ token : Token, token.Denotes piece ∧ token.Lexical ∧ token.lexeme = text := by
  cases spelled with
  | @keyword word _ cased =>
    obtain ⟨letters, some⟩ := keyword_letters word
    obtain ⟨capital, isWord⟩ := uppercase_of_map_toUpper letters some cased
    exact ⟨.ident (String.ofList text), .keyword ⟨_, rfl, capital⟩,
      Token.lexical_ident_iff.mpr isWord, String.toList_ofList⟩
  | @type type _ cased =>
    obtain ⟨letters, some⟩ := type_letters type
    obtain ⟨capital, isWord⟩ := uppercase_of_map_toUpper letters some cased
    exact ⟨.ident (String.ofList text), .type capital, Token.lexical_ident_iff.mpr isWord,
      String.toList_ofList⟩
  | name name =>
    exact ⟨.ident name, .name name, Token.lexical_ident_iff.mpr expressible, rfl⟩
  | integer zeros n =>
    have positive : 0 ≤ n.toInt := expressible
    have digits := isDigits_zeros zeros n.toInt.toNat
    have numeral := Text.Numeral.unsigned digits
    rw [ofDigitChars_zeros, Int.toNat_of_nonneg positive] at numeral
    refine ⟨.number (String.ofList _), .value (.number ?_), ?_, String.toList_ofList⟩
    · rw [String.toList_ofList]
      exact numeral
    · rw [Token.Lexical, String.toList_ofList]
      exact digits
  | text body => exact ⟨.string body, .value (.string body), expressible, rfl⟩
  | mark character =>
    obtain ⟨token, found⟩ := expressible
    obtain ⟨lexical, single, _⟩ := Token.lexical_punctuation found
    exact ⟨token, .mark found, lexical, single⟩

/-- A piece that is no word begins with a character that no word has. -/
theorem Spells.head?_of_not_isWordLike (spelled : piece.Spells text)
    (expressible : piece.Expressible) (apart : ¬ piece.IsWordLike) :
    ∃ c, text.head? = some c ∧ Token.continuesWord c = false := by
  cases spelled with
  | keyword _ | type _ | name _ | integer _ _ => exact absurd trivial apart
  | text body => exact ⟨Token.quote, rfl, by decide⟩
  | mark character =>
    obtain ⟨token, found⟩ := expressible
    refine ⟨character, rfl, ?_⟩
    rw [Token.ofPunctuation?.eq_def] at found
    split at found
    all_goals first | contradiction | decide

end Spellings

/-- Only a word or a number goes on. -/
theorem continuedBy_eq_false_of_denotes {token : Token} (denoted : token.Denotes piece)
    (apart : ¬ piece.IsWordLike) (c : Char) : token.continuedBy c = false := by
  cases denoted with
  | keyword _ | type _ | name _ => exact absurd trivial apart
  | value literal =>
    cases literal with
    | number _ => exact absurd trivial apart
    | string body => rfl
  | mark found => exact (Token.lexical_punctuation found).2.2 [c] c rfl

/-- Where no word follows without a blank, what follows begins with no character of a word. -/
theorem LaidOut.continuesWord_head? (laid : LaidOut pieces text)
    (expressible : ∀ piece ∈ pieces, piece.Expressible)
    (apart : (∃ next ∈ pieces.head?, next.IsWordLike) → ∃ c ∈ text.head?, Text.isBlank c = true) :
    ∀ c ∈ text.head?, Token.continuesWord c = false := by
  intro c first
  by_cases word : ∃ next ∈ pieces.head?, next.IsWordLike
  · obtain ⟨_, same, blank⟩ := apart word
    obtain rfl := Option.mem_unique same first
    exact Token.continuesWord_eq_false_of_isBlank blank
  · cases laid with
    | nil blank =>
      exact Token.continuesWord_eq_false_of_isBlank (blank c (List.mem_of_mem_head? first))
    | @cons piece pieces gap text rest blank spelled later _ =>
      cases gap with
      | cons space gap =>
        obtain rfl := Option.mem_some_iff.mp first
        exact Token.continuesWord_eq_false_of_isBlank (blank _ List.mem_cons_self)
      | nil =>
        obtain ⟨start, same, outside⟩ := spelled.head?_of_not_isWordLike
          (expressible piece List.mem_cons_self) fun wordLike => word ⟨piece, rfl, wordLike⟩
        rw [List.nil_append, List.head?_append, same] at first
        obtain rfl := Option.mem_some_iff.mp first
        exact outside

/-- A layout spells tokens, one for each piece. -/
theorem LaidOut.exists_tokens (laid : LaidOut pieces text)
    (expressible : ∀ piece ∈ pieces, piece.Expressible) :
    ∃ tokens, List.Forall₂ Token.Denotes tokens pieces ∧ Token.Spelled tokens text := by
  induction laid with
  | nil blank => exact ⟨[], .nil, Token.spelled_nil_iff.mpr blank⟩
  | @cons piece pieces gap text rest blank spelled later apart ih =>
    obtain ⟨here, others⟩ := List.forall_mem_cons.mp expressible
    obtain ⟨token, denoted, lexical, rfl⟩ := spelled.exists_token here
    obtain ⟨tokens, each, spelledLater⟩ := ih others
    refine ⟨token :: tokens, .cons denoted each, Token.spelled_cons_iff.mpr
      ⟨gap, rest, List.append_assoc .., blank, lexical, fun c first => ?_, spelledLater⟩⟩
    by_cases word : piece.IsWordLike
    · exact Token.continuedBy_eq_false_of_continuesWord
        (later.continuesWord_head? others (apart word) c first) token
    · exact continuedBy_eq_false_of_denotes denoted word c

end Piece

namespace Grammar

open List (Forall₂)

variable {tokens : List Token}

private theorem forall₂_append {left right : List Piece}
    (each : Forall₂ Token.Denotes tokens (left ++ right)) :
    ∃ before after, tokens = before ++ after ∧ Forall₂ Token.Denotes before left ∧
      Forall₂ Token.Denotes after right :=
  ⟨_, _, (List.take_append_drop left.length tokens).symm, List.forall₂_take_append _ _ _ each,
    List.forall₂_drop_append _ _ _ each⟩

private theorem eq_of_denotes_mark {token mark : Token} {character : Char}
    (denoted : token.Denotes (.mark character))
    (found : Token.ofPunctuation? character = some mark) : token = mark := by
  cases denoted with
  | mark same => exact Option.some.inj (same.symm.trans found)

private theorem spells_of_denotes {token : Token} {word : Keyword}
    (denoted : token.Denotes (.keyword word)) : token.Spells word := by
  cases denoted with
  | keyword spelled => exact spelled

private theorem eq_ident_of_denotes {token : Token} {name : String}
    (denoted : token.Denotes (.name name)) : token = .ident name := by
  cases denoted with
  | name name => rfl

private theorem isEnd_of_denotes {ending : List Piece}
    (marked : ending = [] ∨ ending = [.mark ';']) (each : Forall₂ Token.Denotes tokens ending) :
    IsEnd tokens := by
  rcases marked with rfl | rfl
  · obtain rfl := List.forall₂_nil_right_iff.mp each
    exact .bare
  · obtain ⟨_, _, mark, none, rfl⟩ := List.forall₂_cons_right_iff.mp each
    obtain rfl := eq_of_denotes_mark mark rfl
    obtain rfl := List.forall₂_nil_right_iff.mp none
    exact .semicolon

private theorem isName_of_denotes {name : String}
    (each : Forall₂ Token.Denotes tokens [.name name]) : IsName tokens name := by
  obtain ⟨_, _, named, none, rfl⟩ := List.forall₂_cons_right_iff.mp each
  obtain rfl := List.forall₂_nil_right_iff.mp none
  obtain rfl := eq_ident_of_denotes named
  exact .ident name

private theorem isLiteral_of_denotes {value : Value}
    (each : Forall₂ Token.Denotes tokens [.value value]) : IsLiteral tokens value := by
  obtain ⟨_, _, denoted, none, rfl⟩ := List.forall₂_cons_right_iff.mp each
  obtain rfl := List.forall₂_nil_right_iff.mp none
  cases denoted with
  | value literal => exact literal

/-- Nothing is written of a column but its name and its type, so it must have no marks. -/
private theorem isColumn_of_denotes {column : Column} (expressible : column.Expressible)
    (each : Forall₂ Token.Denotes tokens column.pieces) : IsColumn tokens column := by
  obtain ⟨_, _, named, more, rfl⟩ := List.forall₂_cons_right_iff.mp each
  obtain ⟨_, _, typed, none, rfl⟩ := List.forall₂_cons_right_iff.mp more
  obtain rfl := List.forall₂_nil_right_iff.mp none
  obtain rfl := eq_ident_of_denotes named
  obtain ⟨name, type, nullable, key⟩ := column
  obtain ⟨_, rfl, rfl⟩ := expressible
  cases typed with
  | type spelled => exact .typed spelled

private theorem separated_of_listed {α : Type} {item : List Token → α → Prop}
    {pieces : α → List Piece} {values : List α} (some : values ≠ [])
    (read : ∀ value ∈ values, ∀ here, Forall₂ Token.Denotes here (pieces value) → item here value)
    (each : Forall₂ Token.Denotes tokens (Piece.listed (values.map pieces))) :
    Separated item tokens values := by
  induction values generalizing tokens with
  | nil => exact absurd rfl some
  | cons value values ih =>
    obtain ⟨one, others⟩ := List.forall_mem_cons.mp read
    cases values with
    | nil =>
      rw [List.map_singleton, Piece.listed, List.intercalate_singleton] at each
      exact .last (one tokens each)
    | cons next values =>
      rw [List.map_cons, List.map_cons, Piece.listed, List.intercalate_cons_cons,
        List.append_assoc] at each
      obtain ⟨here, _, rfl, first, more⟩ := forall₂_append each
      obtain ⟨_, rest, mark, later, rfl⟩ := List.forall₂_cons_right_iff.mp more
      obtain rfl := eq_of_denotes_mark mark rfl
      exact .more (one here first) (ih (List.cons_ne_nil _ _) others later)

private theorem isSelection_of_denotes {selection : Selection}
    (expressible : selection.Expressible)
    (each : Forall₂ Token.Denotes tokens selection.pieces) : IsSelection tokens selection := by
  cases selection with
  | all =>
    obtain ⟨_, _, mark, none, rfl⟩ := List.forall₂_cons_right_iff.mp each
    obtain rfl := eq_of_denotes_mark mark rfl
    obtain rfl := List.forall₂_nil_right_iff.mp none
    exact .all
  | named names =>
    exact .named (separated_of_listed expressible.1 (fun _ _ _ => isName_of_denotes) each)

private theorem enclosed_of_denotes {front inner : List Piece}
    (each : Forall₂ Token.Denotes tokens (front ++ inner ++ [.mark ')'])) :
    ∃ opening within, tokens = opening ++ within ++ [.rightParen] ∧
      Forall₂ Token.Denotes opening front ∧ Forall₂ Token.Denotes within inner := by
  obtain ⟨_, closing, rfl, each, closed⟩ := forall₂_append each
  obtain ⟨opening, within, rfl, opened, listed⟩ := forall₂_append each
  obtain ⟨_, _, mark, none, rfl⟩ := List.forall₂_cons_right_iff.mp closed
  obtain rfl := eq_of_denotes_mark mark rfl
  obtain rfl := List.forall₂_nil_right_iff.mp none
  exact ⟨opening, within, rfl, opened, listed⟩

/-- The tokens of an expressible statement's pieces are that statement. -/
theorem derives_of_denotes {statement : Statement} {ending : List Piece}
    (expressible : statement.Expressible) (marked : ending = [] ∨ ending = [.mark ';'])
    (each : Forall₂ Token.Denotes tokens (statement.pieces ++ ending)) :
    Derives tokens statement := by
  obtain ⟨front, last, rfl, each, back⟩ := forall₂_append each
  have ended := isEnd_of_denotes marked back
  cases statement with
  | createTable schema =>
    obtain ⟨_, some, columns⟩ := expressible
    obtain ⟨opening, inner, rfl, opened, listed⟩ := enclosed_of_denotes each
    simp only [List.forall₂_cons_right_iff, List.forall₂_nil_right_iff] at opened
    obtain ⟨create, _, isCreate, ⟨table, _, isTable, ⟨_, _, named,
      ⟨_, _, left, rfl, rfl⟩, rfl⟩, rfl⟩, rfl⟩ := opened
    obtain rfl := eq_ident_of_denotes named
    obtain rfl := eq_of_denotes_mark left rfl
    have columnsRead : Separated IsColumn inner schema.columns :=
      separated_of_listed some (fun column present _ => isColumn_of_denotes (columns column present))
        listed
    rw [List.append_assoc]
    exact .createTable (spells_of_denotes isCreate) (spells_of_denotes isTable) columnsRead ended
  | insert table values =>
    obtain ⟨_, some, _⟩ := expressible
    obtain ⟨opening, inner, rfl, opened, listed⟩ := enclosed_of_denotes each
    simp only [List.forall₂_cons_right_iff, List.forall₂_nil_right_iff] at opened
    obtain ⟨insert, _, isInsert, ⟨into, _, isInto, ⟨_, _, named, ⟨values, _, isValues,
      ⟨_, _, left, rfl, rfl⟩, rfl⟩, rfl⟩, rfl⟩, rfl⟩ := opened
    obtain rfl := eq_ident_of_denotes named
    obtain rfl := eq_of_denotes_mark left rfl
    have valuesRead := separated_of_listed some (fun _ _ _ => isLiteral_of_denotes) listed
    rw [List.append_assoc]
    exact .insert (spells_of_denotes isInsert) (spells_of_denotes isInto)
      (spells_of_denotes isValues) valuesRead ended
  | select table selection =>
    obtain ⟨_, selected⟩ := expressible
    obtain ⟨_, closing, rfl, each, closed⟩ := forall₂_append each
    obtain ⟨select, inner, isSelect, listed, rfl⟩ := List.forall₂_cons_right_iff.mp each
    simp only [List.forall₂_cons_right_iff, List.forall₂_nil_right_iff] at closed
    obtain ⟨«from», _, isFrom, ⟨_, _, named, rfl, rfl⟩, rfl⟩ := closed
    obtain rfl := eq_ident_of_denotes named
    have selectionRead := isSelection_of_denotes selected listed
    rw [List.append_assoc]
    exact .select (spells_of_denotes isSelect) selectionRead (spells_of_denotes isFrom) ended

end Grammar

namespace Statement

variable {statement : Statement} {text : String}

/-- However an expressible statement is written, it is read back. -/
theorem SpelledBy.ofText (spelled : statement.SpelledBy text)
    (expressible : statement.Expressible) : ofText text = .ok statement := by
  obtain ⟨ending, marked, laid⟩ := spelled
  have closing : ∀ piece ∈ ending, piece.Expressible := by
    rcases marked with rfl | rfl
    · exact fun _ member => absurd member List.not_mem_nil
    · exact List.forall_mem_singleton.mpr ⟨_, rfl⟩
  obtain ⟨tokens, each, spelled⟩ := laid.exists_tokens
    (List.forall_mem_append.mpr ⟨expressible.forall_mem_pieces, closing⟩)
  exact ofText_eq_ok_iff.mpr ⟨tokens, spelled, Grammar.derives_of_denotes expressible marked each⟩

/-- Texts say the expressible statements and no others, and reading undoes every way of writing. -/
theorem ofText_inverts_spelling :
    (∀ statement : Statement, statement.Expressible → (∃ text, statement.SpelledBy text) ∧
      ∀ text, statement.SpelledBy text → Statement.ofText text = .ok statement) ∧
    ∀ text statement, Statement.ofText text = .ok statement → statement.Expressible :=
  ⟨fun _ expressible => ⟨expressible.exists_spelledBy, fun _ spelled => spelled.ofText expressible⟩,
    fun _ _ read => expressible_of_ofText read⟩

/-- Zeros, blanks and letter case as they come, and a keyword for a name. -/
theorem ofText_inverts_spelling_of_mixed_case :
    (insert "table" [.integer 7, .text "a b"]).Expressible ∧
    (insert "table" [.integer 7, .text "a b"]).SpelledBy
      "\tInsert\u3000INTO table values(007 ,'a b');" ∧
    Statement.ofText "\tInsert\u3000INTO table values(007 ,'a b');" =
      .ok (insert "table" [.integer 7, .text "a b"]) := by
  have expressible : (insert "table" [.integer 7, .text "a b"]).Expressible := by
    have word : Text.IsWord "table" :=
      Token.lexical_ident_iff.mp ⟨'t', "able".toList, rfl, rfl, List.all_eq_true.mp rfl⟩
    refine ⟨word, List.cons_ne_nil _ _, fun value member => ?_⟩
    rcases List.mem_pair.mp member with rfl | rfl <;> unfold Value.Expressible <;> decide
  have spelled : (insert "table" [.integer 7, .text "a b"]).SpelledBy
      "\tInsert\u3000INTO table values(007 ,'a b');" := by
    refine ⟨[.mark ';'], .inr rfl, ?_⟩
    change Piece.LaidOut _ ('\t' :: ("Insert".toList ++ '\u3000' :: ("INTO".toList ++
      ' ' :: ("table".toList ++ ' ' :: ("values".toList ++ '(' :: ("007".toList ++
      ' ' :: ',' :: ("'a b'".toList ++ [')', ';'])))))))
    have values : Piece.LaidOut [.value (.integer 7), .mark ',', .value (.text "a b"), .mark ')',
        .mark ';'] ("007".toList ++ ' ' :: ',' :: ("'a b'".toList ++ [')', ';'])) :=
      .spaced (.integer 2 7) rfl (.mark ',' (.beforeMark (.text "a b") (.mark ')' (.mark ';'
        (.nil nofun)))))
    exact .blank rfl (.spaced (.keyword rfl) rfl (.spaced (.keyword rfl) rfl
      (.spaced (.name "table") rfl (.beforeMark (.keyword rfl) (.mark '(' values)))))
  exact ⟨expressible, spelled, (ofText_inverts_spelling.1 _ expressible).2 _ spelled⟩

end Statement

end SqlStore
