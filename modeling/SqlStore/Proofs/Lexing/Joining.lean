import SqlStore.Proofs.Lexing.Stuck

/-! # Texts put together

Whether a text can be cut into tokens does not depend on what comes behind a blank after it, though
the lexer looks for the end of a string in all of the text. So the tokens of two texts with a blank
between them are those of the first and then those of the second. If the second text is refused, so
is the whole, for the same character, whose position then counts the bytes in front as well.
-/

namespace SqlStore.Token

variable {a b : String} {tokens others : List Token} {c d : Char}

private theorem toList_join (a b : String) (c : Char) :
    (a ++ String.singleton c ++ b).toList = a.toList ++ c :: b.toList := by
  simp

theorem ofText_join_eq_ok (read : ofText a = .ok tokens) (blank : Text.isBlank c = true)
    (readAfter : ofText b = .ok others) :
    ofText (a ++ String.singleton c ++ b) = .ok (tokens ++ others) := by
  apply Lexer.tokens_eq_ok_iff.mpr
  rw [Lexer.ofText, toList_join]
  exact (Lexer.tokens_eq_ok_iff.mp read).append_cons blank (Lexer.tokens_eq_ok_iff.mp readAfter)

/-- Where the second text is stuck the whole is, behind the tokens of both. -/
theorem StuckAt.join {position : Nat} (stuck : StuckAt b others position d)
    (read : ofText a = .ok tokens) (blank : Text.isBlank c = true) :
    StuckAt (a ++ String.singleton c ++ b) (tokens ++ others)
      ((a ++ String.singleton c).utf8ByteSize + position) d := by
  obtain ⟨before, behind, whole, spelled, none, rfl⟩ := stuckAt_iff.mp stuck
  refine stuckAt_iff.mpr ⟨a.toList ++ c :: before, behind, ?_, ?_, none, ?_⟩
  · rw [toList_join, whole, List.append_assoc, List.cons_append]
  · exact (Lexer.tokens_eq_ok_iff.mp read).append_cons blank spelled
  · have bytes : (a ++ String.singleton c).utf8ByteSize = byteLength (a.toList ++ [c]) := by
      rw [← utf8ByteSize_ofList_eq_byteLength, String.ofList_append, String.ofList_toList,
        String.singleton_eq_ofList]
    rw [bytes, ← byteLength_append, List.append_assoc, List.singleton_append]

/-- With a blank between them, two texts have the tokens of the first and then those of the second,
or the error of the second, moved by the bytes in front of it. Blanks behind a text change neither
its tokens nor its error. -/
theorem ofText_of_joined :
    (∀ (a b : String) (c : Char) (tokens : List Token), ofText a = .ok tokens →
      Text.isBlank c = true →
      (∀ others, ofText b = .ok others →
        ofText (a ++ String.singleton c ++ b) = .ok (tokens ++ others)) ∧
      ∀ cause, ofText b = .error cause → ∃ position d, cause = .unexpectedCharacter position d ∧
        ofText (a ++ String.singleton c ++ b) =
          .error (.unexpectedCharacter ((a ++ String.singleton c).utf8ByteSize + position) d)) ∧
    ∀ text gap : String, Text.Blank gap.toList → ofText (text ++ gap) = ofText text := by
  constructor
  · intro a b c tokens read blank
    refine ⟨fun others => ofText_join_eq_ok read blank, fun cause failed => ?_⟩
    obtain ⟨others, position, d, rfl, stuck⟩ := ofText_eq_error_iff.mp failed
    exact ⟨position, d, rfl, ofText_eq_error_iff.mpr ⟨_, _, d, rfl, stuck.join read blank⟩⟩
  · intro text gap blank
    have whole : Lexer.ofText (text ++ gap) = (Lexer.ofText text).extend gap.toList := by
      rw [Lexer.ofText, String.toList_append]
      rfl
    rw [ofText, whole, Lexer.tokens_extend_of_blank blank]
    rfl

/-- A string of the first text is closed there, and a character counts as its bytes. -/
theorem ofText_of_joined_strings :
    ofText ("'é x'" ++ String.singleton '\u2003' ++ "y 'z") =
      .error (.unexpectedCharacter 11 quote) ∧
    ofText ("'é x'" ++ String.singleton '\u2003' ++ "y''") =
      .ok [string "é x", ident "y", string ""] ∧
    ofText ("y 'z" ++ " ") = .error (.unexpectedCharacter 2 quote) := by
  have first : ofText "'é x'" = .ok [string "é x"] := by decide +kernel
  have second : ofText "y 'z" = .error (.unexpectedCharacter 2 quote) := by decide +kernel
  obtain ⟨joined, extended⟩ := ofText_of_joined
  refine ⟨?_, ?_, ?_⟩
  · obtain ⟨position, d, same, failed⟩ :=
      (joined "'é x'" "y 'z" '\u2003' _ first (by decide)).2 _ second
    obtain ⟨rfl, rfl⟩ := SyntaxError.unexpectedCharacter.inj same
    exact failed
  · exact (joined "'é x'" "y''" '\u2003' _ first (by decide)).1 _ (by decide +kernel)
  · rw [extended "y 'z" " " (blank_singleton (by decide)), second]

end SqlStore.Token
