import SqlStore.Proofs.Grammar.Numeral
import SqlStore.Statement

/-! # The grammar of statements

Which token lists are which statements, without a word on how they are read:

    CREATE TABLE name ( column type {, column type} ) [;]
    INSERT INTO name VALUES ( literal {, literal} ) [;]
    SELECT ( * | column {, column} ) FROM name [;]

A keyword is an identifier whose capital form spells it, and any identifier, keywords included, may
stand for a name. Names and texts are taken over as they are.
-/

namespace SqlStore

def Token.Spells (keyword : Keyword) (token : Token) : Prop :=
  ∃ name, token = .ident name ∧ Text.uppercase name = keyword.label

namespace Grammar

/-- One item or more, with a comma between each two. -/
inductive Separated {α : Type} (item : List Token → α → Prop) : List Token → List α → Prop where
  | last {tokens : List Token} {value : α} (here : item tokens value) :
    Separated item tokens [value]
  | more {tokens rest : List Token} {value : α} {values : List α} (here : item tokens value)
    (later : Separated item rest values) :
    Separated item (tokens ++ .comma :: rest) (value :: values)

inductive IsName : List Token → String → Prop where
  | ident (name : String) : IsName [.ident name] name

/-- A column may hold nulls and is no key; there is no way to say otherwise. -/
inductive IsColumn : List Token → Column → Prop where
  | typed {name spelling : String} {type : ColumnType}
    (spelled : Text.uppercase spelling = type.label) :
    IsColumn [.ident name, .ident spelling] ⟨name, type, true, false⟩

inductive IsLiteral : List Token → Value → Prop where
  | number {digits : String} {value : Int64}
    (denoted : Text.Numeral digits.toList value.toInt) :
    IsLiteral [.number digits] (.integer value)
  | string (body : String) : IsLiteral [.string body] (.text body)

inductive IsSelection : List Token → Selection → Prop where
  | all : IsSelection [.star] .all
  | named {tokens : List Token} {names : List String} (listed : Separated IsName tokens names) :
    IsSelection tokens (.named names)

inductive IsEnd : List Token → Prop where
  | bare : IsEnd []
  | semicolon : IsEnd [.semicolon]

/-- The tokens are a statement, from the first to the last. -/
inductive Derives : List Token → Statement → Prop where
  | createTable {create table : Token} {name : String} {tokens ending : List Token}
    {columns : List Column} (spelledCreate : create.Spells .create)
    (spelledTable : table.Spells .table) (listed : Separated IsColumn tokens columns)
    (ended : IsEnd ending) :
    Derives (create :: table :: .ident name :: .leftParen :: tokens ++ .rightParen :: ending)
      (.createTable ⟨name, columns⟩)
  | insert {insert into values : Token} {name : String} {tokens ending : List Token}
    {row : List Value} (spelledInsert : insert.Spells .insert) (spelledInto : into.Spells .into)
    (spelledValues : values.Spells .values) (listed : Separated IsLiteral tokens row)
    (ended : IsEnd ending) :
    Derives (insert :: into :: .ident name :: values :: .leftParen :: tokens ++
      .rightParen :: ending) (.insert name row)
  | select {select «from» : Token} {name : String} {tokens ending : List Token}
    {selection : Selection} (spelledSelect : select.Spells .select)
    (selected : IsSelection tokens selection) (spelledFrom : «from».Spells .from)
    (ended : IsEnd ending) :
    Derives (select :: tokens ++ «from» :: .ident name :: ending) (.select name selection)

end Grammar

end SqlStore
