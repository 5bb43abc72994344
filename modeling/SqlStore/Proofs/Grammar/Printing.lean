import SqlStore.Proofs.Grammar.Expressible

/-! # How statements are written

A statement is written as pieces, and every piece has a choice of spellings: keywords and types in any
mix of letter case, integers with leading zeros. Blanks may stand anywhere around the pieces; between
two that would run together there has to be one. Every expressible statement can be written so.
-/

namespace SqlStore

/-- A part of a statement that no blank divides. -/
inductive Piece where
  | keyword (word : Keyword)
  | type (type : ColumnType)
  | name (name : String)
  | value (value : Value)
  | mark (character : Char)

namespace Piece

/-- Two such pieces would run together. -/
def IsWordLike : Piece → Prop
  | keyword _ | type _ | name _ | value (.integer _) => True
  | value _ | mark _ => False

inductive Spells : Piece → List Char → Prop where
  | keyword {word : Keyword} {text : List Char}
    (cased : text.map Char.toUpper = word.label.toList) : Spells (.keyword word) text
  | type {type : ColumnType} {text : List Char}
    (cased : text.map Char.toUpper = type.label.toList) : Spells (.type type) text
  | name (name : String) : Spells (.name name) name.toList
  | integer (zeros : Nat) (n : Int64) : Spells (.value (.integer n))
      (List.replicate zeros '0' ++ Nat.toDigits 10 n.toInt.toNat)
  | text (body : String) :
    Spells (.value (.text body)) (Token.quote :: body.toList ++ [Token.quote])
  | mark (character : Char) : Spells (.mark character) [character]

/-- The pieces of a text in their order, each with blanks or nothing before it. -/
inductive LaidOut : List Piece → List Char → Prop where
  | nil {gap : List Char} (blank : Text.Blank gap) : LaidOut [] gap
  | cons {piece : Piece} {pieces : List Piece} {gap text rest : List Char}
    (blank : Text.Blank gap) (spelled : piece.Spells text) (later : LaidOut pieces rest)
    (apart : piece.IsWordLike → (∃ next ∈ pieces.head?, next.IsWordLike) →
      ∃ c ∈ rest.head?, Text.isBlank c = true) :
    LaidOut (piece :: pieces) (gap ++ text ++ rest)

namespace LaidOut

variable {piece : Piece} {pieces : List Piece} {text rest : List Char}

theorem blank {c : Char} (blank : Text.isBlank c = true) (laid : LaidOut pieces text) :
    LaidOut pieces (c :: text) := by
  cases laid with
  | nil gap => exact .nil (List.forall_mem_cons.mpr ⟨blank, gap⟩)
  | @cons _ _ before _ _ gap spelled later apart =>
    exact @LaidOut.cons _ _ (c :: before) _ _ (List.forall_mem_cons.mpr ⟨blank, gap⟩) spelled later
      apart

/-- A blank behind a piece sets it off from whatever follows. -/
theorem spaced {c : Char} (spelled : piece.Spells text) (blank : Text.isBlank c = true)
    (later : LaidOut pieces rest) : LaidOut (piece :: pieces) (text ++ c :: rest) :=
  @LaidOut.cons _ _ [] _ _ nofun spelled (later.blank blank) fun _ _ => ⟨c, rfl, blank⟩

/-- A mark may touch whatever follows. -/
theorem mark (character : Char) (later : LaidOut pieces rest) :
    LaidOut (.mark character :: pieces) (character :: rest) :=
  @LaidOut.cons _ _ [] _ _ nofun (.mark character) later nofun

/-- A mark may touch whatever precedes. -/
theorem beforeMark {character : Char} (spelled : piece.Spells text)
    (later : LaidOut (.mark character :: pieces) rest) :
    LaidOut (piece :: .mark character :: pieces) (text ++ rest) := by
  refine @LaidOut.cons _ _ [] _ _ nofun spelled later fun _ ⟨_, same, word⟩ => ?_
  obtain rfl := Option.some.inj same
  exact word.elim

end LaidOut

/-- Items with a comma between each two. -/
def listed (items : List (List Piece)) : List Piece := List.intercalate [mark ','] items

end Piece

def Column.pieces (column : Column) : List Piece := [.name column.name, .type column.type]

def Selection.pieces : Selection → List Piece
  | all => [.mark '*']
  | named names => Piece.listed (names.map fun name => [.name name])

namespace Statement

def pieces : Statement → List Piece
  | createTable schema => [.keyword .create, .keyword .table, .name schema.name, .mark '('] ++
      Piece.listed (schema.columns.map Column.pieces) ++ [.mark ')']
  | insert table values =>
    [.keyword .insert, .keyword .into, .name table, .keyword .values, .mark '('] ++
      Piece.listed (values.map fun value => [.value value]) ++ [.mark ')']
  | select table selection =>
    .keyword .select :: selection.pieces ++ [.keyword .from, .name table]

/-- The text writes the statement, with a semicolon at the end or without. -/
def SpelledBy (statement : Statement) (text : String) : Prop :=
  ∃ ending, (ending = [] ∨ ending = [.mark ';']) ∧
    Piece.LaidOut (statement.pieces ++ ending) text.toList

end Statement

namespace Piece

/-- The piece is a part of an expressible statement. -/
def Expressible : Piece → Prop
  | keyword _ | type _ => True
  | name text => Text.IsWord text
  | value cell => cell.Expressible
  | mark character => ∃ token, Token.ofPunctuation? character = some token

theorem forall_mem_listed {items : List (List Piece)}
    (all : ∀ item ∈ items, ∀ piece ∈ item, piece.Expressible) :
    ∀ piece ∈ listed items, piece.Expressible := by
  induction items with
  | nil => exact fun _ member => absurd member List.not_mem_nil
  | cons item rest ih =>
    obtain ⟨here, later⟩ := List.forall_mem_cons.mp all
    cases rest with
    | nil =>
      rw [listed, List.intercalate_singleton]
      exact here
    | cons next rest =>
      rw [listed, List.intercalate_cons_cons, List.append_assoc]
      refine List.forall_mem_append.mpr ⟨here, List.forall_mem_cons.mpr ⟨⟨_, rfl⟩, ih later⟩⟩

theorem Expressible.exists_spelling {piece : Piece} (expressible : piece.Expressible) :
    ∃ text, piece.Spells text := by
  cases piece with
  | keyword word => exact ⟨word.label.toList, .keyword (by cases word <;> decide)⟩
  | type type => exact ⟨type.label.toList, .type (by cases type <;> decide)⟩
  | name name => exact ⟨_, .name name⟩
  | mark character => exact ⟨_, .mark character⟩
  | value value =>
    cases value with
    | null | boolean _ => exact expressible.elim
    | integer n => exact ⟨_, .integer 0 n⟩
    | text body => exact ⟨_, .text body⟩

/-- With a blank behind each of them, pieces can always be laid out. -/
theorem exists_laidOut {pieces : List Piece} (expressible : ∀ piece ∈ pieces, piece.Expressible) :
    ∃ text, LaidOut pieces text := by
  induction pieces with
  | nil => exact ⟨[], .nil nofun⟩
  | cons piece pieces ih =>
    obtain ⟨here, others⟩ := List.forall_mem_cons.mp expressible
    obtain ⟨text, spelled⟩ := here.exists_spelling
    obtain ⟨rest, later⟩ := ih others
    exact ⟨text ++ ' ' :: rest, .spaced spelled rfl later⟩

end Piece

namespace Statement

variable {statement : Statement}

theorem Expressible.forall_mem_pieces (expressible : statement.Expressible) :
    ∀ piece ∈ statement.pieces, piece.Expressible := by
  have closing : ∀ piece ∈ [Piece.mark ')'], piece.Expressible :=
    List.forall_mem_singleton.mpr ⟨_, rfl⟩
  cases statement with
  | createTable schema =>
    obtain ⟨table, _, columns⟩ := expressible
    refine List.forall_mem_append.mpr ⟨List.forall_mem_append.mpr ⟨?_, ?_⟩, closing⟩
    · simp only [List.forall_mem_cons]
      exact ⟨trivial, trivial, table, ⟨_, rfl⟩, nofun⟩
    · apply Piece.forall_mem_listed
      intro item member
      obtain ⟨column, present, rfl⟩ := List.mem_map.mp member
      exact List.forall_mem_cons.mpr ⟨(columns column present).1,
        List.forall_mem_singleton.mpr trivial⟩
  | insert table values =>
    obtain ⟨table, _, values⟩ := expressible
    refine List.forall_mem_append.mpr ⟨List.forall_mem_append.mpr ⟨?_, ?_⟩, closing⟩
    · simp only [List.forall_mem_cons]
      exact ⟨trivial, trivial, table, trivial, ⟨_, rfl⟩, nofun⟩
    · apply Piece.forall_mem_listed
      intro item member
      obtain ⟨value, present, rfl⟩ := List.mem_map.mp member
      exact List.forall_mem_singleton.mpr (values value present)
  | select table selection =>
    obtain ⟨table, selected⟩ := expressible
    refine List.forall_mem_cons.mpr ⟨trivial, List.forall_mem_append.mpr ⟨?_, ?_⟩⟩
    · cases selection with
      | all => exact List.forall_mem_singleton.mpr ⟨_, rfl⟩
      | named names =>
        apply Piece.forall_mem_listed
        intro item member
        obtain ⟨name, present, rfl⟩ := List.mem_map.mp member
        exact List.forall_mem_singleton.mpr (selected.2 name present)
    · exact List.forall_mem_cons.mpr ⟨trivial, List.forall_mem_singleton.mpr table⟩

/-- Every expressible statement can be written. -/
theorem Expressible.exists_spelledBy (expressible : statement.Expressible) :
    ∃ text, statement.SpelledBy text := by
  obtain ⟨text, laid⟩ := Piece.exists_laidOut expressible.forall_mem_pieces
  refine ⟨String.ofList text, [], .inl rfl, ?_⟩
  rw [List.append_nil, String.toList_ofList]
  exact laid

end Statement

end SqlStore
