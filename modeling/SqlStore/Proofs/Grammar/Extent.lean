import SqlStore.Proofs.Grammar.Expressible
import SqlStore.Proofs.Tables.Refinement

/-! # Statements are no longer than their texts

Tokens lie side by side in a text, so it has as many bytes as tokens at least, and as any of them.
Everything that a statement stores was a token, except for names in small letters, and a word is as
long as its small form. A text of less than 2 ^ 64 bytes therefore says a statement whose lengths can
be stored.
-/

namespace SqlStore

namespace Text

variable {text : List Char}

/-- The bytes of a text. -/
def extent (text : List Char) : Nat := (text.flatMap Utf8.encodeChar).length

theorem extent_append (before after : List Char) :
    extent (before ++ after) = extent before + extent after := by
  rw [extent, List.flatMap_append, List.length_append, extent, extent]

theorem extent_lt_of_append {before middle after : List Char} {bound : Nat}
    (short : extent (before ++ (middle ++ after)) < bound) : extent middle < bound := by
  rw [extent_append, extent_append] at short
  omega

theorem extent_pos {c : Char} (rest : List Char) : 0 < extent (c :: rest) := by
  have some : 0 < (Utf8.encodeChar c).length :=
    List.length_pos_iff.mpr (Utf8.encodeChar_ne_nil c)
  rw [extent, List.flatMap_cons, List.length_append]
  exact Nat.add_pos_left some _

def IsAscii (text : List Char) : Prop := ∀ c ∈ text, c.toNat < 0x80

theorem extent_of_isAscii (ascii : IsAscii text) : extent text = text.length := by
  induction text with
  | nil => rfl
  | cons c rest ih =>
    obtain ⟨here, later⟩ := List.forall_mem_cons.mp ascii
    have single : Utf8.encodeChar c = [.ofNat c.toNat] := by
      rw [Utf8.encodeChar, if_pos here]
    rw [List.length_cons, ← ih later, extent, List.flatMap_cons, single, extent]
    rfl

theorem toNat_toLower_lt {c : Char} (ascii : c.toNat < 0x80) : c.toLower.toNat < 0x80 := by
  by_cases upper : c.val ≥ 'A'.val ∧ c.val ≤ 'Z'.val
  · have most : c.val.toNat ≤ 90 := upper.2
    have shift : (32 : UInt32).toNat = 32 := rfl
    have lowered : c.toLower.toNat = (c.val + 32).toNat := congrArg Char.toNat (dif_pos upper)
    rw [lowered, UInt32.toNat_add, shift]
    omega
  · have same : c.toLower = c := dif_neg upper
    rw [same]
    exact ascii

theorem lowerCharsFrom_of_isAscii (ascii : IsAscii text) (afterCased : Bool) :
    lowerCharsFrom afterCased text = text.map Char.toLower := by
  induction text generalizing afterCased with
  | nil => rfl
  | cons c rest ih =>
    obtain ⟨here, later⟩ := List.forall_mem_cons.mp ascii
    have sigma : c ≠ 'Σ' := by
      rintro rfl
      exact absurd here (by decide)
    rw [lowerCharsFrom, if_neg sigma, lowerChar, if_pos here, ih later]
    rfl

theorem IsWord.isAscii {name : String} (word : IsWord name) : IsAscii name.toList := by
  intro c member
  have inside : Token.continuesWord c = true := by
    obtain ⟨first, rest, same, start, words⟩ := Token.lexical_ident_iff.mpr word
    rcases List.mem_cons.mp (same ▸ member) with rfl | later
    · exact Token.continuesWord_of_startsWord start
    · exact words c later
  have code := Token.toNat_of_continuesWord inside
  omega

theorem IsWord.sized_lowercase {name : String} (word : IsWord name) (sized : Sized name) :
    Sized (lowercase name) := by
  have lowered : IsAscii (name.toList.map Char.toLower) := by
    intro c member
    obtain ⟨c, inside, rfl⟩ := List.mem_map.mp member
    exact toNat_toLower_lt (word.isAscii c inside)
  change extent name.toList < 2 ^ 64 at sized
  change extent (lowercase name).toList < 2 ^ 64
  rw [lowercase, String.toList_ofList, lowerCharsFrom_of_isAscii word.isAscii,
    extent_of_isAscii lowered, List.length_map, ← extent_of_isAscii word.isAscii]
  exact sized

end Text

namespace Token

variable {tokens : List Token} {text : List Char}

def Sized (token : Token) : Prop := Text.extent token.lexeme < 2 ^ 64

/-- A text has no more tokens than bytes, and none of them is longer than the text. -/
theorem Spelled.sized (spelled : Spelled tokens text) (sized : Text.extent text < 2 ^ 64) :
    tokens.length ≤ Text.extent text ∧ ∀ token ∈ tokens, token.Sized := by
  induction tokens generalizing text with
  | nil => exact ⟨Nat.zero_le _, fun _ member => absurd member List.not_mem_nil⟩
  | cons token tokens ih =>
    obtain ⟨gap, rest, rfl, _, lexical, _, later⟩ := spelled_cons_iff.mp spelled
    obtain ⟨first, others, same, _⟩ := lexical.exists_cons
    have some : 0 < Text.extent token.lexeme := same ▸ Text.extent_pos others
    have whole : Text.extent (gap ++ (token.lexeme ++ rest)) =
        Text.extent gap + (Text.extent token.lexeme + Text.extent rest) := by
      rw [Text.extent_append, Text.extent_append]
    obtain ⟨few, short⟩ := ih later (by omega)
    refine ⟨?_, List.forall_mem_cons.mpr ⟨Text.extent_lt_of_append sized, short⟩⟩
    rw [List.length_cons]
    omega

end Token

namespace Grammar

variable {tokens : List Token}

theorem Separated.length_le {α : Type} {item : List Token → α → Prop} {values : List α}
    (listed : Separated item tokens values) : values.length ≤ tokens.length + 1 := by
  induction listed with
  | last _ => exact Nat.le_add_left _ _
  | more _ _ ih =>
    rw [List.length_cons, List.length_append, List.length_cons]
    omega

theorem IsColumn.sized {column : Column} (typed : IsColumn tokens column)
    (short : ∀ token ∈ tokens, token.Sized) : Text.Sized column.name := by
  cases typed with
  | typed _ => exact short _ List.mem_cons_self

theorem IsLiteral.sized {value : Value} (literal : IsLiteral tokens value)
    (short : ∀ token ∈ tokens, token.Sized) : value.Sized := by
  cases literal with
  | number _ => trivial
  | string body =>
    have quoted : Text.extent ([Token.quote] ++ (body.toList ++ [Token.quote])) < 2 ^ 64 :=
      short _ List.mem_cons_self
    exact Text.extent_lt_of_append quoted

theorem Derives.sized {statement : Statement} (derived : Derives tokens statement)
    (lexical : ∀ token ∈ tokens, token.Lexical) (few : tokens.length < 2 ^ 64)
    (short : ∀ token ∈ tokens, token.Sized) : statement.Sized := by
  have expressible := derived.expressible lexical
  cases derived with
  | @createTable _ _ _ inner _ _ _ _ listed _ =>
    simp only [List.cons_append, List.forall_mem_cons, List.forall_mem_append] at short
    simp only [List.cons_append, List.length_cons, List.length_append] at few
    obtain ⟨_, _, named, _, columns, _⟩ := short
    have items := listed.length_le
    refine ⟨⟨named, ?_, (listed.items (fun _ _ => IsColumn.sized) columns).2⟩,
      expressible.1.sized_lowercase named⟩
    dsimp only
    omega
  | insert _ _ _ listed _ =>
    simp only [List.cons_append, List.forall_mem_cons, List.forall_mem_append] at short
    obtain ⟨_, _, _, _, _, values, _⟩ := short
    exact (listed.items (fun _ _ => IsLiteral.sized) values).2
  | select _ _ _ _ => trivial

end Grammar

/-- What a text of less than 2 ^ 64 bytes says can be stored. -/
theorem Statement.sized_of_ofText {text : String} {statement : Statement}
    (read : ofText text = .ok statement) (sized : Text.Sized text) : statement.Sized := by
  obtain ⟨tokens, spelled, derived⟩ := ofText_eq_ok_iff.mp read
  obtain ⟨few, short⟩ := spelled.sized sized
  exact derived.sized spelled.lexical (Nat.lt_of_le_of_lt few sized) short

end SqlStore
