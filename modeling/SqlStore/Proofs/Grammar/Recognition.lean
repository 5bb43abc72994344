import SqlStore.Proofs.Grammar.Derives
import SqlStore.Proofs.Result
import SqlStore.Statement.Parser

/-! # The reader accepts the grammar

What a draft accepts is what the grammar still allows after the tokens behind it. Most drafts wait
for one token of one kind and go on to the next draft. The three that collect a list go in a circle
from comma to comma, and they accept what the list may be and then what may follow it.
-/

namespace SqlStore

open Grammar Result

theorem Keyword.ofText?_eq_some_iff {text : String} {keyword : Keyword} :
    Keyword.ofText? text = some keyword ↔ Text.uppercase text = keyword.label := by
  constructor
  · intro found
    have same := List.find?_some found
    exact (eq_of_beq same).symm
  · intro same
    rw [ofText?, same]
    cases keyword <;> decide

theorem ColumnType.ofText_eq_ok_iff {text : String} {type : ColumnType} :
    ColumnType.ofText text = .ok type ↔ Text.uppercase text = type.label := by
  rw [ofText]
  constructor
  · intro accepted
    split at accepted
    · next found =>
      obtain rfl := Except.ok.inj accepted
      have same := List.find?_some found
      exact (eq_of_beq same).symm
    · contradiction
  · intro same
    rw [same]
    cases type <;> rfl

theorem ColumnType.uppercase_label (type : ColumnType) :
    Text.uppercase type.label = type.label := by
  cases type <;> decide +kernel

namespace Token

variable {token : Token}

theorem spells_label (keyword : Keyword) : (ident keyword.label).Spells keyword :=
  ⟨keyword.label, rfl, by cases keyword <;> decide +kernel⟩

theorem keyword?_eq_some_iff {keyword : Keyword} :
    token.keyword? = some keyword ↔ token.Spells keyword := by
  cases token with
  | ident name => simp [keyword?, Spells, Keyword.ofText?_eq_some_iff]
  | _ => simp [keyword?, Spells]

theorem expectKeyword_eq_ok_iff {keyword : Keyword} :
    token.expectKeyword keyword = .ok () ↔ token.Spells keyword := by
  rw [expectKeyword, ← keyword?_eq_some_iff]
  split <;> simp_all

theorem expectName_eq_ok_iff {name : String} :
    token.expectName = .ok name ↔ token = .ident name := by
  cases token <;> simp [expectName]

theorem expectLiteral_eq_ok_iff {value : Value} :
    token.expectLiteral = .ok value ↔ IsLiteral [token] value := by
  constructor
  · intro accepted
    cases token with
    | number digits =>
      rw [expectLiteral] at accepted
      split at accepted
      · next denoted =>
        obtain rfl := Except.ok.inj accepted
        exact .number (Text.Decimal.int64?_eq_some_iff.mp denoted)
      · contradiction
    | string body =>
      obtain rfl := Except.ok.inj accepted
      exact .string body
    | _ => contradiction
  · intro literal
    cases literal with
    | number denoted => rw [expectLiteral, Text.Decimal.int64?_eq_some_iff.mpr denoted]
    | string body => rfl

end Token

namespace Draft

variable {draft : Draft} {tokens : List Token} {statement : Statement}

/-- What comes of a draft when the rest of the tokens is read. -/
def read (draft : Draft) (tokens : List Token) : Except SyntaxError Statement := do
  (← tokens.foldlM step draft).finish

theorem read_nil (draft : Draft) : draft.read [] = draft.finish := rfl

theorem read_cons_eq_ok_iff {token : Token} {rest : List Token} :
    draft.read (token :: rest) = .ok statement ↔
      ∃ next, draft.step token = .ok next ∧ next.read rest = .ok statement := by
  rw [read, List.foldlM_cons, bind_assoc, bind_eq_ok_iff]
  rfl

/-- A draft that is no statement yet needs another token. -/
theorem read_eq_ok_iff (draft : Draft) (unfinished : draft.finish ≠ .ok statement) :
    draft.read tokens = .ok statement ↔ ∃ token rest next, tokens = token :: rest ∧
      draft.step token = .ok next ∧ next.read rest = .ok statement := by
  cases tokens with
  | nil =>
    apply iff_of_false unfinished
    rintro ⟨_, _, _, same, _⟩
    contradiction
  | cons token rest =>
    rw [read_cons_eq_ok_iff]
    constructor
    · rintro ⟨next, stepped, accepted⟩
      exact ⟨token, rest, next, rfl, stepped, accepted⟩
    · rintro ⟨_, _, next, same, stepped, accepted⟩
      obtain ⟨rfl, rfl⟩ := List.cons.inj same
      exact ⟨next, stepped, accepted⟩

theorem read_keyword (draft : Draft) {keyword : Keyword} {next : Draft}
    (steps : ∀ token, draft.step token = do token.expectKeyword keyword; return next)
    (unfinished : draft.finish ≠ .ok statement) :
    draft.read tokens = .ok statement ↔ ∃ token rest, tokens = token :: rest ∧
      token.Spells keyword ∧ next.read rest = .ok statement := by
  rw [read_eq_ok_iff draft unfinished]
  constructor
  · rintro ⟨token, rest, _, rfl, stepped, accepted⟩
    rw [steps, bind_eq_ok_iff] at stepped
    obtain ⟨_, spelled, same⟩ := stepped
    obtain rfl := Except.ok.inj same
    exact ⟨token, rest, rfl, Token.expectKeyword_eq_ok_iff.mp spelled, accepted⟩
  · rintro ⟨token, rest, rfl, spelled, accepted⟩
    refine ⟨token, rest, next, rfl, ?_, accepted⟩
    rw [steps, Token.expectKeyword_eq_ok_iff.mpr spelled]
    rfl

theorem read_name (draft : Draft) {next : String → Draft}
    (steps : ∀ token, draft.step token = do return next (← token.expectName))
    (unfinished : draft.finish ≠ .ok statement) :
    draft.read tokens = .ok statement ↔ ∃ name rest, tokens = .ident name :: rest ∧
      (next name).read rest = .ok statement := by
  rw [read_eq_ok_iff draft unfinished]
  constructor
  · rintro ⟨token, rest, _, rfl, stepped, accepted⟩
    rw [steps, bind_eq_ok_iff] at stepped
    obtain ⟨name, given, same⟩ := stepped
    obtain rfl := Except.ok.inj same
    obtain rfl := Token.expectName_eq_ok_iff.mp given
    exact ⟨name, rest, rfl, accepted⟩
  · rintro ⟨name, rest, rfl, accepted⟩
    refine ⟨.ident name, rest, next name, rfl, ?_, accepted⟩
    rw [steps]
    rfl

theorem read_leftParen (draft : Draft) {next : Draft}
    (steps : ∀ token, draft.step token = do token.expect .leftParen; return next)
    (unfinished : draft.finish ≠ .ok statement) :
    draft.read tokens = .ok statement ↔ ∃ rest, tokens = .leftParen :: rest ∧
      next.read rest = .ok statement := by
  rw [read_eq_ok_iff draft unfinished]
  constructor
  · rintro ⟨token, rest, _, rfl, stepped, accepted⟩
    rw [steps] at stepped
    cases token with
    | leftParen =>
      obtain rfl := Except.ok.inj stepped
      exact ⟨rest, rfl, accepted⟩
    | _ => contradiction
  · rintro ⟨rest, rfl, accepted⟩
    refine ⟨.leftParen, rest, next, rfl, ?_, accepted⟩
    rw [steps]
    rfl

theorem read_closed {done : Statement} :
    (closed done).read tokens = .ok statement ↔ tokens = [] ∧ done = statement := by
  cases tokens with
  | nil => simp [read_nil, finish]
  | cons token rest => simp [read_cons_eq_ok_iff, step]

theorem read_complete {done : Statement} :
    (complete done).read tokens = .ok statement ↔ IsEnd tokens ∧ done = statement := by
  cases tokens with
  | nil => simp [read_nil, finish, IsEnd.bare]
  | cons token rest =>
    rw [read_cons_eq_ok_iff]
    constructor
    · rintro ⟨next, stepped, accepted⟩
      rw [step] at stepped
      split at stepped
      · next semicolon =>
        obtain rfl := Except.ok.inj stepped
        obtain ⟨rfl, same⟩ := read_closed.mp accepted
        exact ⟨semicolon ▸ .semicolon, same⟩
      · contradiction
    · rintro ⟨ended, rfl⟩
      cases ended
      exact ⟨closed done, rfl, rfl⟩

/-- What may stand behind an item of a list in parentheses. -/
theorem read_listEnd (draft : Draft) {again : Draft} {done : Statement}
    (steps : ∀ token, draft.step token = do
      if token = .comma then return again
      token.expect .rightParen
      return complete done)
    (unfinished : draft.finish ≠ .ok statement) :
    draft.read tokens = .ok statement ↔
      (∃ rest, tokens = .comma :: rest ∧ again.read rest = .ok statement) ∨
        ∃ ending, tokens = .rightParen :: ending ∧ IsEnd ending ∧ done = statement := by
  rw [read_eq_ok_iff draft unfinished]
  constructor
  · rintro ⟨token, rest, _, rfl, stepped, accepted⟩
    rw [steps] at stepped
    cases token with
    | comma =>
      obtain rfl := Except.ok.inj stepped
      exact .inl ⟨rest, rfl, accepted⟩
    | rightParen =>
      obtain rfl := Except.ok.inj stepped
      obtain ⟨ended, same⟩ := read_complete.mp accepted
      exact .inr ⟨rest, rfl, ended, same⟩
    | _ => contradiction
  · rintro (⟨rest, rfl, accepted⟩ | ⟨ending, rfl, ended, same⟩)
    · exact ⟨.comma, rest, again, rfl, steps .comma, accepted⟩
    · exact ⟨.rightParen, ending, complete done, rfl, steps .rightParen,
        read_complete.mpr ⟨ended, same⟩⟩

section Lists

variable {α : Type} {item : List Token → α → Prop} {enter leave : List α → Draft}
  {closes : List α → List Token → Prop}

/-- A draft that collects items accepts a list of them and then what may close the list. -/
theorem read_separated
    (reads : ∀ values tokens, (enter values).read tokens = .ok statement ↔
      ∃ here value rest, tokens = here ++ rest ∧ item here value ∧
        (leave (values ++ [value])).read rest = .ok statement)
    (parts : ∀ values tokens, (leave values).read tokens = .ok statement ↔
      (∃ rest, tokens = .comma :: rest ∧ (enter values).read rest = .ok statement) ∨
        closes values tokens)
    (values : List α) (tokens : List Token) :
    (enter values).read tokens = .ok statement ↔ ∃ listed more rest,
      tokens = listed ++ rest ∧ Separated item listed more ∧ closes (values ++ more) rest := by
  constructor
  · -- Each round of the circle takes a comma, so what is left gets shorter.
    induction size : tokens.length using Nat.strongRecOn generalizing values tokens with
    | _ size ih =>
      subst size
      intro accepted
      obtain ⟨here, value, behind, rfl, read, accepted⟩ := (reads values tokens).mp accepted
      rcases (parts _ _).mp accepted with ⟨rest, rfl, further⟩ | closed
      · have shorter : rest.length < (here ++ .comma :: rest).length := by
          rw [List.length_append, List.length_cons]
          omega
        obtain ⟨listed, more, rest, rfl, later, closed⟩ := ih _ shorter _ rest rfl further
        refine ⟨here ++ .comma :: listed, value :: more, rest, ?_, .more read later, ?_⟩
        · rw [List.append_assoc, List.cons_append]
        · rw [List.append_cons]
          exact closed
      · exact ⟨here, [value], behind, rfl, .last read, closed⟩
  · rintro ⟨listed, more, rest, rfl, separated, closed⟩
    induction separated generalizing values with
    | last read =>
      exact (reads _ _).mpr ⟨_, _, rest, rfl, read, (parts _ _).mpr (.inr closed)⟩
    | more read _ ih =>
      rw [List.append_cons] at closed
      rw [List.append_assoc, List.cons_append]
      exact (reads _ _).mpr ⟨_, _, _, rfl, read, (parts _ _).mpr (.inl ⟨_, rfl, ih _ closed⟩)⟩

end Lists

theorem read_columnName (table : String) (columns : List Column) (tokens : List Token) :
    (columnName table columns).read tokens = .ok statement ↔ ∃ listed more rest,
      tokens = listed ++ rest ∧ Separated IsColumn listed more ∧
        ∃ ending, rest = .rightParen :: ending ∧ IsEnd ending ∧
          .createTable ⟨table, columns ++ more⟩ = statement := by
  have parts (columns : List Column) (tokens : List Token) :
      (columnEnd table columns).read tokens = .ok statement ↔
        (∃ rest, tokens = .comma :: rest ∧
          (columnName table columns).read rest = .ok statement) ∨
        ∃ ending, tokens = .rightParen :: ending ∧ IsEnd ending ∧
          .createTable ⟨table, columns⟩ = statement :=
    read_listEnd (columnEnd table columns) (fun _ => rfl) nofun
  refine read_separated (fun columns tokens => ?_) parts columns tokens
  rw [read_name (columnName table columns) (fun _ => rfl) nofun]
  constructor
  · rintro ⟨name, behind, rfl, further⟩
    obtain ⟨token, rest, _, rfl, stepped, accepted⟩ :=
      (read_eq_ok_iff (columnType table columns name) nofun).mp further
    rw [step, bind_eq_ok_iff] at stepped
    obtain ⟨spelling, given, stepped⟩ := stepped
    obtain ⟨type, known, same⟩ := bind_eq_ok_iff.mp stepped
    obtain rfl := Except.ok.inj same
    obtain rfl := Token.expectName_eq_ok_iff.mp given
    exact ⟨_, _, rest, rfl, .typed (ColumnType.ofText_eq_ok_iff.mp known), accepted⟩
  · rintro ⟨_, _, rest, rfl, ⟨spelled⟩, accepted⟩
    refine ⟨_, _, rfl, (read_eq_ok_iff (columnType table columns _) nofun).mpr
      ⟨_, rest, _, rfl, ?_, accepted⟩⟩
    have known := ColumnType.ofText_eq_ok_iff.mpr spelled
    exact bind_eq_ok_iff.mpr ⟨_, rfl, bind_eq_ok_iff.mpr ⟨_, known, rfl⟩⟩

theorem read_literal (table : String) (values : List Value) (tokens : List Token) :
    (literal table values).read tokens = .ok statement ↔ ∃ listed more rest,
      tokens = listed ++ rest ∧ Separated IsLiteral listed more ∧
        ∃ ending, rest = .rightParen :: ending ∧ IsEnd ending ∧
          .insert table (values ++ more) = statement := by
  have parts (values : List Value) (tokens : List Token) :
      (literalEnd table values).read tokens = .ok statement ↔
        (∃ rest, tokens = .comma :: rest ∧ (literal table values).read rest = .ok statement) ∨
        ∃ ending, tokens = .rightParen :: ending ∧ IsEnd ending ∧
          .insert table values = statement :=
    read_listEnd (literalEnd table values) (fun _ => rfl) nofun
  refine read_separated (fun values tokens => ?_) parts values tokens
  rw [read_eq_ok_iff (literal table values) nofun]
  constructor
  · rintro ⟨token, rest, _, rfl, stepped, accepted⟩
    rw [step, bind_eq_ok_iff] at stepped
    obtain ⟨value, given, same⟩ := stepped
    obtain rfl := Except.ok.inj same
    exact ⟨[token], value, rest, rfl, Token.expectLiteral_eq_ok_iff.mp given, accepted⟩
  · rintro ⟨here, value, rest, rfl, read, accepted⟩
    have single : ∃ token, here = [token] := by cases read <;> exact ⟨_, rfl⟩
    obtain ⟨token, rfl⟩ := single
    refine ⟨token, rest, _, rfl, ?_, accepted⟩
    rw [step, Token.expectLiteral_eq_ok_iff.mpr read]
    rfl

theorem read_selectedName (names : List String) (tokens : List Token) :
    (selectedName names).read tokens = .ok statement ↔ ∃ listed more rest,
      tokens = listed ++ rest ∧ Separated IsName listed more ∧
        ∃ word behind, rest = word :: behind ∧ word.Spells .from ∧
          (source (.named (names ++ more))).read behind = .ok statement := by
  have parts (names : List String) (tokens : List Token) :
      (selectedEnd names).read tokens = .ok statement ↔
        (∃ rest, tokens = .comma :: rest ∧ (selectedName names).read rest = .ok statement) ∨
        ∃ word behind, tokens = word :: behind ∧ word.Spells .from ∧
          (source (.named names)).read behind = .ok statement := by
    rw [read_eq_ok_iff (selectedEnd names) nofun]
    constructor
    · rintro ⟨token, rest, _, rfl, stepped, accepted⟩
      rw [step] at stepped
      split at stepped
      · next comma =>
        obtain rfl := Except.ok.inj stepped
        exact .inl ⟨rest, by rw [comma], accepted⟩
      · obtain ⟨_, spelled, same⟩ := bind_eq_ok_iff.mp stepped
        obtain rfl := Except.ok.inj same
        exact .inr ⟨token, rest, rfl, Token.expectKeyword_eq_ok_iff.mp spelled, accepted⟩
    · rintro (⟨rest, rfl, accepted⟩ | ⟨word, behind, rfl, spelled, accepted⟩)
      · exact ⟨.comma, rest, _, rfl, rfl, accepted⟩
      · refine ⟨word, behind, _, rfl, ?_, accepted⟩
        have other : word ≠ .comma := by
          rintro rfl
          obtain ⟨_, same, _⟩ := spelled
          contradiction
        rw [step, if_neg other]
        exact bind_eq_ok_iff.mpr ⟨(), Token.expectKeyword_eq_ok_iff.mpr spelled, rfl⟩
  refine read_separated (fun names tokens => ?_) parts names tokens
  rw [read_name (selectedName names) (fun _ => rfl) nofun]
  constructor
  · rintro ⟨name, rest, rfl, accepted⟩
    exact ⟨_, name, rest, rfl, .ident name, accepted⟩
  · rintro ⟨_, _, rest, rfl, ⟨⟩, accepted⟩
    exact ⟨_, rest, rfl, accepted⟩

theorem read_source (selection : Selection) (tokens : List Token) :
    (source selection).read tokens = .ok statement ↔ ∃ name ending, tokens = .ident name :: ending ∧
      IsEnd ending ∧ .select name selection = statement := by
  rw [read_name (source selection) (fun _ => rfl) nofun]
  simp only [read_complete]

theorem read_selectionStart (tokens : List Token) :
    selectionStart.read tokens = .ok statement ↔ ∃ listed selection word name ending,
      tokens = listed ++ word :: .ident name :: ending ∧ IsSelection listed selection ∧
        word.Spells .from ∧ IsEnd ending ∧ .select name selection = statement := by
  have parts : selectionStart.read tokens = .ok statement ↔
      (∃ rest, tokens = .star :: rest ∧ fromKeyword.read rest = .ok statement) ∨
        (selectedName []).read tokens = .ok statement := by
    rw [read_eq_ok_iff selectionStart nofun,
      read_name (selectedName []) (fun _ => rfl) nofun]
    constructor
    · rintro ⟨token, rest, next, rfl, stepped, accepted⟩
      rw [step] at stepped
      split at stepped
      · next star =>
        obtain rfl := Except.ok.inj stepped
        exact .inl ⟨rest, by rw [star], accepted⟩
      · obtain ⟨name, given, same⟩ := bind_eq_ok_iff.mp stepped
        obtain rfl := Except.ok.inj same
        obtain rfl := Token.expectName_eq_ok_iff.mp given
        exact .inr ⟨name, rest, rfl, accepted⟩
    · rintro (⟨rest, rfl, accepted⟩ | ⟨name, rest, rfl, accepted⟩)
      · exact ⟨.star, rest, _, rfl, rfl, accepted⟩
      · exact ⟨.ident name, rest, _, rfl, rfl, accepted⟩
  have all (tokens : List Token) : fromKeyword.read tokens = .ok statement ↔
      ∃ word behind, tokens = word :: behind ∧ word.Spells .from ∧
        (source .all).read behind = .ok statement :=
    read_keyword fromKeyword (fun _ => rfl) nofun
  rw [parts, read_selectedName]
  simp only [all, read_source]
  constructor
  · rintro (⟨_, rfl, word, _, rfl, spelled, name, ending, rfl, ended, same⟩ |
      ⟨listed, names, _, rfl, separated, word, _, rfl, spelled, name, ending, rfl, ended, same⟩)
    · exact ⟨[.star], .all, word, name, ending, rfl, .all, spelled, ended, same⟩
    · exact ⟨listed, .named names, word, name, ending, rfl, .named separated, spelled, ended, same⟩
  · rintro ⟨listed, _, word, name, ending, rfl, selected, spelled, ended, same⟩
    cases selected with
    | all => exact .inl ⟨_, rfl, word, _, rfl, spelled, name, ending, rfl, ended, same⟩
    | named separated =>
      exact .inr ⟨listed, _, _, rfl, separated, word, _, rfl, spelled, name, ending, rfl, ended,
        same⟩

/-- The first token decides which form is read. -/
theorem read_start (tokens : List Token) : start.read tokens = .ok statement ↔
    ∃ token rest, tokens = token :: rest ∧
      (token.Spells .create ∧ tableKeyword.read rest = .ok statement ∨
        token.Spells .insert ∧ intoKeyword.read rest = .ok statement ∨
        token.Spells .select ∧ selectionStart.read rest = .ok statement) := by
  rw [read_eq_ok_iff start nofun]
  constructor
  · rintro ⟨token, rest, next, rfl, stepped, accepted⟩
    refine ⟨token, rest, rfl, ?_⟩
    rw [step] at stepped
    split at stepped
    · next spelled =>
      obtain rfl := Except.ok.inj stepped
      exact .inl ⟨Token.keyword?_eq_some_iff.mp spelled, accepted⟩
    · next spelled =>
      obtain rfl := Except.ok.inj stepped
      exact .inr (.inl ⟨Token.keyword?_eq_some_iff.mp spelled, accepted⟩)
    · next spelled =>
      obtain rfl := Except.ok.inj stepped
      exact .inr (.inr ⟨Token.keyword?_eq_some_iff.mp spelled, accepted⟩)
    · contradiction
  · rintro ⟨token, rest, rfl, ⟨spelled, accepted⟩ | ⟨spelled, accepted⟩ | ⟨spelled, accepted⟩⟩
    · refine ⟨token, rest, _, rfl, ?_, accepted⟩
      rw [step, Token.keyword?_eq_some_iff.mpr spelled]
    · refine ⟨token, rest, _, rfl, ?_, accepted⟩
      rw [step, Token.keyword?_eq_some_iff.mpr spelled]
    · refine ⟨token, rest, _, rfl, ?_, accepted⟩
      rw [step, Token.keyword?_eq_some_iff.mpr spelled]

theorem read_tableKeyword (tokens : List Token) :
    tableKeyword.read tokens = .ok statement ↔ ∃ table name listed columns ending,
      tokens = table :: .ident name :: .leftParen :: listed ++ .rightParen :: ending ∧
        table.Spells .table ∧ Separated IsColumn listed columns ∧ IsEnd ending ∧
          .createTable ⟨name, columns⟩ = statement := by
  have new (tokens : List Token) : newTable.read tokens = .ok statement ↔
      ∃ name rest, tokens = .ident name :: rest ∧ (columnsOpen name).read rest = .ok statement :=
    read_name newTable (fun _ => rfl) nofun
  have opened (name : String) (tokens : List Token) :
      (columnsOpen name).read tokens = .ok statement ↔
        ∃ rest, tokens = .leftParen :: rest ∧ (columnName name []).read rest = .ok statement :=
    read_leftParen (columnsOpen name) (fun _ => rfl) nofun
  rw [read_keyword tableKeyword (fun _ => rfl) nofun]
  simp only [new, opened, read_columnName, List.nil_append]
  constructor
  · rintro ⟨table, _, rfl, spelled, name, _, rfl, _, rfl, listed, columns, _, rfl, separated,
      ending, rfl, ended, same⟩
    exact ⟨table, name, listed, columns, ending, rfl, spelled, separated, ended, same⟩
  · rintro ⟨table, name, listed, columns, ending, rfl, spelled, separated, ended, same⟩
    exact ⟨table, _, rfl, spelled, name, _, rfl, _, rfl, listed, columns, _, rfl, separated,
      ending, rfl, ended, same⟩

theorem read_intoKeyword (tokens : List Token) :
    intoKeyword.read tokens = .ok statement ↔ ∃ into name values listed row ending,
      tokens = into :: .ident name :: values :: .leftParen :: listed ++ .rightParen :: ending ∧
        into.Spells .into ∧ values.Spells .values ∧ Separated IsLiteral listed row ∧
          IsEnd ending ∧ .insert name row = statement := by
  have targeted (tokens : List Token) : target.read tokens = .ok statement ↔
      ∃ name rest, tokens = .ident name :: rest ∧ (valuesKeyword name).read rest = .ok statement :=
    read_name target (fun _ => rfl) nofun
  have given (name : String) (tokens : List Token) :
      (valuesKeyword name).read tokens = .ok statement ↔ ∃ values rest, tokens = values :: rest ∧
        values.Spells .values ∧ (valuesOpen name).read rest = .ok statement :=
    read_keyword (valuesKeyword name) (fun _ => rfl) nofun
  have opened (name : String) (tokens : List Token) :
      (valuesOpen name).read tokens = .ok statement ↔
        ∃ rest, tokens = .leftParen :: rest ∧ (literal name []).read rest = .ok statement :=
    read_leftParen (valuesOpen name) (fun _ => rfl) nofun
  rw [read_keyword intoKeyword (fun _ => rfl) nofun]
  simp only [targeted, given, opened, read_literal, List.nil_append]
  constructor
  · rintro ⟨into, _, rfl, spelled, name, _, rfl, values, _, rfl, also, _, rfl, listed, row, _, rfl,
      separated, ending, rfl, ended, same⟩
    exact ⟨into, name, values, listed, row, ending, rfl, spelled, also, separated, ended, same⟩
  · rintro ⟨into, name, values, listed, row, ending, rfl, spelled, also, separated, ended, same⟩
    exact ⟨into, _, rfl, spelled, name, _, rfl, values, _, rfl, also, _, rfl, listed, row, _, rfl,
      separated, ending, rfl, ended, same⟩

end Draft

namespace Statement

theorem ofTokens_eq_ok_iff_derives {tokens : List Token} {statement : Statement} :
    ofTokens tokens = .ok statement ↔ Derives tokens statement := by
  change Draft.start.read tokens = .ok statement ↔ _
  rw [Draft.read_start]
  simp only [Draft.read_tableKeyword, Draft.read_intoKeyword, Draft.read_selectionStart]
  constructor
  · rintro ⟨first, _, rfl, ⟨spelled, table, name, listed, columns, ending, rfl, spelledTable,
      separated, ended, rfl⟩ | ⟨spelled, into, name, values, listed, row, ending, rfl, spelledInto,
      spelledValues, separated, ended, rfl⟩ | ⟨spelled, listed, selection, word, name, ending, rfl,
      selected, spelledFrom, ended, rfl⟩⟩
    · exact .createTable spelled spelledTable separated ended
    · exact .insert spelled spelledInto spelledValues separated ended
    · exact .select spelled selected spelledFrom ended
  · intro derived
    cases derived with
    | createTable spelled spelledTable separated ended =>
      exact ⟨_, _, rfl, .inl ⟨spelled, _, _, _, _, _, rfl, spelledTable, separated, ended, rfl⟩⟩
    | insert spelled spelledInto spelledValues separated ended =>
      exact ⟨_, _, rfl, .inr (.inl ⟨spelled, _, _, _, _, _, _, rfl, spelledInto, spelledValues,
        separated, ended, rfl⟩)⟩
    | select spelled selected spelledFrom ended =>
      exact ⟨_, _, rfl, .inr (.inr ⟨spelled, _, _, _, _, _, rfl, selected, spelledFrom, ended,
        rfl⟩)⟩

/-- What is read is what the grammar derives, and every other list of tokens is refused. -/
theorem ofTokens_decides_derives (tokens : List Token) :
    (∀ statement, (liftM (ofTokens tokens) : Except Error Statement) = .ok statement ↔
      Derives tokens statement) ∧
    ((∃ statement, Derives tokens statement) ∨
      ∃ cause, (liftM (ofTokens tokens) : Except Error Statement) = .error (.parse cause)) := by
  have lifted : (liftM (ofTokens tokens) : Except Error Statement) =
      (ofTokens tokens).mapError .parse := rfl
  simp only [lifted, ← ofTokens_eq_ok_iff_derives]
  cases ofTokens tokens with
  | ok statement =>
    refine ⟨fun other => ?_, .inl ⟨statement, rfl⟩⟩
    change Except.ok statement = Except.ok other ↔ _
    rw [Except.ok.injEq, Except.ok.injEq]
  | error cause => exact ⟨fun other => iff_of_false nofun nofun, .inr ⟨cause, rfl⟩⟩

end Statement

end SqlStore
