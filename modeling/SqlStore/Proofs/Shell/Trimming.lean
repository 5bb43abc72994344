import SqlStore.Proofs.Lexing.Blanks
import SqlStore.Proofs.Shell.Lines

/-! # Trimmed texts

A trimmed text has the tokens of the whole. If the text begins with no blank, trimming leaves every
position as it is, so a text that cannot be cut into tokens gives the same error too, and it makes
no difference which of the two is executed.
-/

namespace SqlStore

open Text

theorem Text.exists_eq_trimChars_append (text : List Char) :
    ∃ behind, text.dropWhile isBlank = trimChars text ++ behind ∧ Blank behind := by
  generalize same : text.dropWhile isBlank = front
  refine ⟨(front.reverse.takeWhile isBlank).reverse, ?_, ?_⟩
  · rw [trimChars, same, ← List.reverse_append, List.takeWhile_append_dropWhile,
      List.reverse_reverse]
  · intro c member
    exact List.all_eq_true.mp List.all_takeWhile c (List.mem_reverse.mp member)

/-- Trimming takes nothing away but blanks. -/
theorem Text.mem_trim_iff {text : String} {c : Char} (visible : isBlank c = false) :
    c ∈ (trim text).toList ↔ c ∈ text.toList := by
  obtain ⟨behind, same, blank⟩ := exists_eq_trimChars_append text.toList
  have front : c ∉ text.toList.takeWhile isBlank := fun member =>
    absurd (List.all_eq_true.mp List.all_takeWhile c member) (Bool.eq_false_iff.mp visible)
  have back : c ∉ behind := fun member => absurd (blank c member) (Bool.eq_false_iff.mp visible)
  conv_rhs => rw [← List.takeWhile_append_dropWhile (p := isBlank) (l := text.toList), same]
  rw [trim, String.toList_ofList]
  simp [front, back]

/-- Of a text that begins with no blank only the end is cut off. -/
theorem Text.exists_eq_trim_append {text : String}
    (clear : ∀ c ∈ text.toList.head?, isBlank c = false) :
    ∃ behind, text.toList = (trim text).toList ++ behind ∧ Blank behind := by
  obtain ⟨behind, same, blank⟩ := exists_eq_trimChars_append text.toList
  rw [dropWhile_isBlank_eq clear] at same
  refine ⟨behind, ?_, blank⟩
  rw [trim, String.toList_ofList]
  exact same

namespace Token

variable {tokens : List Token} {c d : Char}

theorem spelled_trimChars_iff {text : List Char} :
    Spelled tokens (trimChars text) ↔ Spelled tokens text := by
  obtain ⟨behind, same, blank⟩ := exists_eq_trimChars_append text
  have front : Blank (text.takeWhile isBlank) := List.all_eq_true.mp List.all_takeWhile
  rw [← spelled_append_blank_iff blank, ← same, ← spelled_blank_append_iff front,
    List.takeWhile_append_dropWhile]

/-- Another blank may end the pieces, and they may be trimmed. -/
theorem Spelled.flatMap_trimChars {pieces : List (List Char)} (blank : isBlank c = true)
    (spelled : Spelled tokens (pieces.flatMap (· ++ [c])))
    (outside : ∀ body, string body ∈ tokens → c ∉ body.toList) (other : isBlank d = true) :
    Spelled tokens ((pieces.map trimChars).flatMap (· ++ [d])) := by
  obtain ⟨groups, rfl, alike⟩ := spelled.exists_groups blank outside
  refine spelled_flatMap other ?_
  rw [List.forall₂_map_right_iff]
  exact alike.imp fun _ _ here => spelled_trimChars_iff.mpr here

/-- Errors count bytes from the beginning of the text, so that is not to be cut. -/
theorem ofText_trim {text : String} (clear : ∀ c ∈ text.toList.head?, isBlank c = false) :
    ofText (trim text) = ofText text := by
  obtain ⟨behind, same, blank⟩ := exists_eq_trim_append clear
  have whole : (Lexer.ofText (trim text)).extend behind = Lexer.ofText text := by
    rw [Lexer.ofText, Lexer.ofText, Lexer.extend, ← same]
  rw [ofText, ofText, ← whole, Lexer.tokens_extend_of_blank blank]

end Token

/-- What is executed depends on the tokens alone, or on what is wrong with them. -/
theorem Session.execute_eq_of_ofText_eq {a b : String} (same : Token.ofText a = Token.ofText b) :
    execute a = execute b := by
  rw [execute, execute, Statement.ofText, Statement.ofText, same]

end SqlStore
