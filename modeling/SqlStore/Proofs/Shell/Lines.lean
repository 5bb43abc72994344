import Mathlib.Data.List.Forall2
import SqlStore.Proofs.Codec.Utf8
import SqlStore.Shell

/-! # Lines of text

The shell cuts bytes, and it trims the text that it finds in them. A newline is one byte, and no
other character has that byte in it, so the cut bytes are those of the lines of the text. The
newline that ends a line goes with the blanks around it.
-/

namespace SqlStore

namespace Text

variable {text : List Char}

/-- The pieces between newlines. Behind the last newline there is a line only if there is text. -/
def lines (text : List Char) : List (List Char) :=
  let pieces := text.splitOn '\n'
  if pieces.getLast? = some [] then pieces.dropLast else pieces

theorem splitOn_newline_cons (c : Char) (text : List Char) :
    (c :: text).splitOn '\n' =
      if c = '\n' then [] :: text.splitOn '\n'
      else (text.splitOn '\n').modifyHead (List.cons c) := by
  rw [List.splitOn, List.splitOnP_cons_eq_if_modifyHead, List.splitOn]
  simp only [beq_iff_eq]

theorem exists_splitOn_newline (text : List Char) :
    ∃ first others, text.splitOn '\n' = first :: others :=
  List.exists_cons_of_ne_nil (List.splitOnP_ne_nil _ _)

theorem lines_newline (text : List Char) : lines ('\n' :: text) = [] :: lines text := by
  obtain ⟨first, others, split⟩ := exists_splitOn_newline text
  rw [lines, lines, splitOn_newline_cons, if_pos rfl, split]
  simp only [List.getLast?_cons_cons]
  split
  · rfl
  · rfl

/-- A character that ends no line is put in front of the first one. -/
theorem lines_cons {c : Char} (other : c ≠ '\n') (text : List Char) :
    lines (c :: text) =
      match lines text with
      | [] => [[c]]
      | line :: rest => (c :: line) :: rest := by
  obtain ⟨first, others, split⟩ := exists_splitOn_newline text
  simp only [lines, splitOn_newline_cons, if_neg other, split, List.modifyHead_cons]
  cases others with
  | nil => cases first <;> rfl
  | cons second others =>
    simp only [List.getLast?_cons_cons]
    split
    · rfl
    · rfl

/-- A line that ends is cut off whole. -/
theorem lines_append_newline {line : List Char} (single : '\n' ∉ line) (rest : List Char) :
    lines (line ++ '\n' :: rest) = line :: lines rest := by
  induction line with
  | nil => exact lines_newline rest
  | cons c line ih =>
    obtain ⟨other, single⟩ := not_or.mp (mt List.mem_cons.mpr single)
    rw [List.cons_append, lines_cons (Ne.symm other), ih single]

/-- A newline behind a text ends its last line, or a blank one that comes after it. -/
theorem exists_lines_append_newline (text : List Char) :
    ∃ blanks, lines (text ++ ['\n']) = lines text ++ blanks ∧ ∀ line ∈ blanks, line = [] := by
  induction text with
  | nil => exact ⟨[[]], rfl, fun line member => List.mem_singleton.mp member⟩
  | cons c text ih =>
    obtain ⟨blanks, cut, blank⟩ := ih
    rw [List.cons_append]
    by_cases newline : c = '\n'
    · subst newline
      rw [lines_newline, lines_newline, cut]
      exact ⟨blanks, rfl, blank⟩
    · rw [lines_cons newline, lines_cons newline, cut]
      cases lines text with
      | cons line rest => exact ⟨blanks, rfl, blank⟩
      | nil =>
        cases blanks with
        | nil => exact ⟨[], rfl, nofun⟩
        | cons line blanks =>
          obtain ⟨rfl, others⟩ := List.forall_mem_cons.mp blank
          exact ⟨blanks, rfl, others⟩

/-- Where a text ends with a newline, each of its lines does. -/
theorem flatMap_lines (text : List Char) :
    (lines (text ++ ['\n'])).flatMap (· ++ ['\n']) = text ++ ['\n'] := by
  induction text with
  | nil => rfl
  | cons c text ih =>
    rw [List.cons_append]
    by_cases newline : c = '\n'
    · subst newline
      rw [lines_newline, List.flatMap_cons, ih]
      rfl
    · rw [lines_cons newline]
      cases cut : lines (text ++ ['\n']) with
      | nil =>
        rw [cut] at ih
        exact absurd ih.symm (List.append_ne_nil_of_right_ne_nil text (List.cons_ne_nil _ _))
      | cons line rest =>
        rw [cut] at ih
        rw [← ih]
        rfl

/-- There are no blanks at its ends. -/
structure Trimmed (text : List Char) : Prop where
  head : ∀ c ∈ text.head?, isBlank c = false
  last : ∀ c ∈ text.getLast?, isBlank c = false

theorem isBlank_of_head?_dropWhile {c : Char} (first : c ∈ (text.dropWhile isBlank).head?) :
    isBlank c = false := by
  have outside := List.head?_dropWhile_not isBlank text
  rw [Option.mem_def.mp first] at outside
  exact outside

theorem trimmed_trimChars (text : List Char) : Trimmed (trimChars text) where
  head c first := by
    -- Cutting from the end leaves the first character where it is.
    have front : trimChars text <+: text.dropWhile isBlank := by
      rw [← List.reverse_suffix, trimChars, List.reverse_reverse]
      exact List.dropWhile_suffix _
    obtain ⟨cut, whole⟩ := front
    apply isBlank_of_head?_dropWhile
    rw [← whole, List.head?_append, Option.mem_def.mp first]
    rfl
  last c last := by
    rw [trimChars, List.getLast?_reverse] at last
    exact isBlank_of_head?_dropWhile last

/-- The lines of an input, each without the blanks around it. -/
def trimmedLines (input : String) : List String :=
  (lines input.toList).map fun line => trim (String.ofList line)

theorem trimmedLines_append_newline (text : String) :
    trimmedLines (text ++ "\n") =
      (lines (text.toList ++ ['\n'])).map fun line => trim (String.ofList line) := by
  rw [trimmedLines, String.toList_append]
  rfl

theorem trimmedLines_join {texts : List String} (single : ∀ text ∈ texts, '\n' ∉ text.toList) :
    trimmedLines (String.join (texts.map (· ++ "\n"))) = texts.map trim := by
  induction texts with
  | nil => rfl
  | cons text texts ih =>
    obtain ⟨here, later⟩ := List.forall_mem_cons.mp single
    have cut : (String.join ((text :: texts).map (· ++ "\n"))).toList =
        text.toList ++ '\n' :: (String.join (texts.map (· ++ "\n"))).toList := by
      simp
    rw [trimmedLines, cut, lines_append_newline here, List.map_cons, String.ofList_toList,
      List.map_cons, ← ih later, trimmedLines]

theorem trimmed_trim (text : String) : Trimmed (trim text).toList := by
  rw [trim, String.toList_ofList]
  exact trimmed_trimChars text.toList

theorem dropWhile_isBlank_eq (clear : ∀ c ∈ text.head?, isBlank c = false) :
    text.dropWhile isBlank = text := by
  cases text with
  | nil => rfl
  | cons c rest => exact List.dropWhile_cons_of_neg (Bool.eq_false_iff.mp (clear c rfl))

theorem Trimmed.trimChars_eq (trimmed : Trimmed text) : trimChars text = text := by
  have last : ∀ c ∈ text.reverse.head?, isBlank c = false := by
    rw [List.head?_reverse]
    exact trimmed.last
  rw [trimChars, dropWhile_isBlank_eq trimmed.head, dropWhile_isBlank_eq last, List.reverse_reverse]

theorem trimChars_append_blank {c : Char} (blank : isBlank c = true) (text : List Char) :
    trimChars (text ++ [c]) = trimChars text := by
  rw [trimChars, trimChars, List.dropWhile_append]
  split
  · next none =>
    rw [List.isEmpty_iff.mp none, List.dropWhile_cons_of_pos blank, List.dropWhile_nil]
  · rw [List.reverse_append, List.reverse_singleton, List.singleton_append,
      List.dropWhile_cons_of_pos blank]

namespace Utf8

theorem newline_notMem_encodeChar {c : Char} (other : c ≠ '\n') : 0x0A ∉ encodeChar c := by
  have code : c.toNat ≠ 10 := fun same => other (Char.toNat_inj.mp same)
  have valid : c.toNat < 0xD800 ∨ 0xDFFF < c.toNat ∧ c.toNat < 0x110000 := c.valid
  have distinct {n : Nat} (small : n < 256) (differs : n ≠ 10) : 0x0A ≠ UInt8.ofNat n := by
    intro same
    have values := congrArg UInt8.toNat same
    rw [UInt8.toNat_ofNat_of_lt' small] at values
    exact differs values.symm
  rw [encodeChar]
  split_ifs
  all_goals simp only [List.mem_cons, List.not_mem_nil, or_false, not_or]
  · exact distinct (by omega) code
  · exact ⟨distinct (by omega) (by omega), distinct (by omega) (by omega)⟩
  · exact ⟨distinct (by omega) (by omega), distinct (by omega) (by omega),
      distinct (by omega) (by omega)⟩
  · exact ⟨distinct (by omega) (by omega), distinct (by omega) (by omega),
      distinct (by omega) (by omega), distinct (by omega) (by omega)⟩

end Utf8

end Text

namespace Shell

open Text

/-- Bytes without a newline are put in front of the first line. -/
theorem lines_append {bytes : Bytes} (some : bytes ≠ []) (free : 0x0A ∉ bytes) (rest : Bytes) :
    lines (bytes ++ rest) =
      match lines rest with
      | [] => [bytes]
      | line :: others => (bytes ++ line) :: others := by
  induction bytes with
  | nil => exact absurd rfl some
  | cons byte more ih =>
    obtain ⟨other, free⟩ := not_or.mp (mt List.mem_cons.mpr free)
    rw [List.cons_append, lines, if_neg (Ne.symm other)]
    cases more with
    | nil => rfl
    | cons next more =>
      rw [ih (List.cons_ne_nil _ _) free]
      cases lines rest <;> rfl

/-- Each line of the bytes is one of the text, with or without its newline. -/
theorem exists_lines_flatMap_encodeChar (text : List Char) :
    ∃ raws : List (List Char),
      lines (text.flatMap Utf8.encodeChar) = raws.map (List.flatMap Utf8.encodeChar) ∧
      List.Forall₂ (fun raw line => raw = line ∨ raw = line ++ ['\n']) raws (Text.lines text) := by
  induction text with
  | nil => exact ⟨[], rfl, .nil⟩
  | cons c rest ih =>
    obtain ⟨raws, cut, alike⟩ := ih
    rw [List.flatMap_cons]
    by_cases newline : c = '\n'
    · subst newline
      refine ⟨['\n'] :: raws, ?_, ?_⟩
      · have single : Utf8.encodeChar '\n' = [0x0A] := rfl
        rw [single, List.singleton_append, lines, if_pos rfl, cut]
        rfl
      · rw [Text.lines_newline]
        exact .cons (.inr rfl) alike
    · rw [lines_append (Utf8.encodeChar_ne_nil c) (Utf8.newline_notMem_encodeChar newline), cut,
        Text.lines_cons newline]
      generalize Text.lines rest = cuts at alike ⊢
      cases alike with
      | nil =>
        refine ⟨[[c]], ?_, .cons (.inl rfl) .nil⟩
        rw [List.map_nil, List.map_singleton, List.flatMap_singleton]
      | @cons raw line raws others here later =>
        refine ⟨(c :: raw) :: raws, rfl, .cons ?_ later⟩
        rcases here with rfl | rfl
        · exact .inl rfl
        · exact .inr rfl

/-- All lines can be read, and trimmed they are the lines of the text. -/
theorem exists_lines_encode (input : String) :
    ∃ raws : List String, lines (Utf8.encode input) = raws.map Utf8.encode ∧
      raws.map trim = trimmedLines input := by
  obtain ⟨raws, cut, alike⟩ := exists_lines_flatMap_encodeChar input.toList
  refine ⟨raws.map String.ofList, ?_, ?_⟩
  · rw [Utf8.encode, cut, List.map_map]
    simp [Utf8.encode]
  · rw [List.map_map, trimmedLines]
    have trimmed : List.Forall₂ (fun a b => (trim ∘ String.ofList) a = trim (String.ofList b)) raws
        (Text.lines input.toList) := by
      refine alike.imp fun raw line same => ?_
      rcases same with rfl | rfl
      · rfl
      · have blank : isBlank '\n' = true := by decide
        rw [Function.comp, trim, trim, String.toList_ofList, String.toList_ofList,
          trimChars_append_blank blank]
    rw [← List.forall₂_eq_eq_eq, List.forall₂_map_left_iff, List.forall₂_map_right_iff]
    exact trimmed

end Shell

end SqlStore
