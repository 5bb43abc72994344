import SqlStore.Token.Lexer

/-! # Where the lexer stands

The lexer reads characters and counts bytes. However often it is called, what it has still to read
is a tail of the text, and its position is the number of bytes in front of that tail. So every
position that it holds lies between two characters, and so do the ends of the body of a string that
it finds: quotes take one byte each.
-/

namespace SqlStore

theorem byteLength_append (before after : List Char) :
    byteLength (before ++ after) = byteLength before + byteLength after := by
  induction before with
  | nil => rw [List.nil_append, byteLength, Nat.zero_add]
  | cons c rest ih => rw [List.cons_append, byteLength, byteLength, ih, Nat.add_assoc]

theorem utf8ByteSize_ofList_eq_byteLength (text : List Char) :
    (String.ofList text).utf8ByteSize = byteLength text := by
  induction text with
  | nil => rfl
  | cons c rest ih =>
    have split : String.ofList (c :: rest) = String.singleton c ++ String.ofList rest := by
      rw [String.singleton_eq_ofList, ← String.ofList_append, List.singleton_append]
    rw [split, String.utf8ByteSize_append, String.utf8ByteSize_singleton, ih, byteLength]

/-- The place, counted in bytes, lies between two characters of the text or at one of its ends. -/
abbrev Text.IsBoundary (text : String) (position : Nat) : Prop :=
  String.Pos.Raw.IsValid text ⟨position⟩

theorem Text.isBoundary_of_eq_append {text : String} {before after : List Char}
    (whole : text.toList = before ++ after) : IsBoundary text (byteLength before) := by
  refine String.Pos.Raw.isValid_iff_exists_append.mpr
    ⟨String.ofList before, String.ofList after, ?_, ?_⟩
  · rw [← String.ofList_append, ← whole, String.ofList_toList]
  · rw [← utf8ByteSize_ofList_eq_byteLength]
    rfl

namespace Lexer

variable {lexer : Lexer} {text : String}

/-- The lexer has read some characters of the text, and its position counts their bytes. -/
def Within (lexer : Lexer) (text : String) : Prop :=
  ∃ before, text.toList = before ++ lexer.rest ∧ lexer.position = byteLength before

/-- The lexer after a number of calls of `next`. -/
def after (lexer : Lexer) : Nat → Lexer
  | 0 => lexer
  | calls + 1 => lexer.next.2.after calls

theorem within_ofText (text : String) : (ofText text).Within text := ⟨[], rfl, rfl⟩

theorem Within.skip (within : lexer.Within text) (length : Nat) :
    (lexer.skip length).Within text := by
  obtain ⟨before, whole, position⟩ := within
  refine ⟨before ++ lexer.rest.take length, ?_, ?_⟩
  · rw [Lexer.skip, List.append_assoc, List.take_append_drop]
    exact whole
  · rw [byteLength_append, ← position]
    rfl

theorem Within.skipBlanks (within : lexer.Within text) : lexer.skipBlanks.Within text :=
  within.skip _

theorem Within.next (within : lexer.Within text) : lexer.next.2.Within text := by
  rw [Lexer.next]
  split
  · exact within.skipBlanks
  · split
    · exact within.skipBlanks.skip _
    · exact within.skipBlanks

theorem Within.after (within : lexer.Within text) (calls : Nat) :
    (lexer.after calls).Within text := by
  induction calls generalizing lexer with
  | zero => exact within
  | succ calls ih => exact ih within.next

theorem Within.isBoundary (within : lexer.Within text) {front behind : List Char}
    (ahead : lexer.rest = front ++ behind) :
    Text.IsBoundary text (lexer.position + byteLength front) := by
  obtain ⟨before, whole, position⟩ := within
  rw [ahead, ← List.append_assoc] at whole
  rw [position, ← byteLength_append]
  exact Text.isBoundary_of_eq_append whole

/-- If the lexer stands at a quote, the text can be cut behind it, and before the quote that closes
the string. -/
def CutsCleanly (lexer : Lexer) (text : String) : Prop :=
  ∀ rest, lexer.rest = Token.quote :: rest →
    Text.IsBoundary text (lexer.position + 1) ∧
    ∀ body behind, rest = body ++ Token.quote :: behind →
      Text.IsBoundary text (lexer.position + 1 + byteLength body)

theorem Within.cutsCleanly (within : lexer.Within text) : lexer.CutsCleanly text := by
  intro rest opened
  constructor
  · have ahead : lexer.rest = [Token.quote] ++ rest := opened
    exact within.isBoundary ahead
  · rintro body behind rfl
    have ahead : lexer.rest = (Token.quote :: body) ++ Token.quote :: behind := opened
    rw [Nat.add_assoc]
    exact within.isBoundary ahead

end Lexer

end SqlStore
