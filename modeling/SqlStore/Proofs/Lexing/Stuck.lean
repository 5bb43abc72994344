import SqlStore.Proofs.Lexing.Blanks
import SqlStore.Proofs.Lexing.Position

/-! # Where the lexer gets stuck

The calls of a lexer deliver tokens and then the same ending for ever: the end of the text, or a
character at which no token begins. In the second case the text before the character spells the
tokens that were delivered, whatever comes after it; only for a quote does it matter whether another
quote follows. A text is refused exactly if it can be cut at such a character.
-/

namespace SqlStore

namespace Token

variable {text behind : List Char} {c : Char}

/-- No token begins with the character: it is a quote that is never closed, or it is of no kind that
a text may have outside its strings. -/
def NoneBegins (c : Char) (behind : List Char) : Prop :=
  c = quote ∧ quote ∉ behind ∨
    Text.isBlank c = false ∧ c.isAlpha = false ∧ c.isDigit = false ∧
      c ∉ ['_', quote, '(', ')', ',', ';', '*']

theorem NoneBegins.isBlank_eq_false (none : NoneBegins c behind) : Text.isBlank c = false := by
  rcases none with ⟨rfl, _⟩ | ⟨visible, _⟩
  · decide
  · exact visible

/-- Such a character ends every token before it. -/
theorem NoneBegins.apart (none : NoneBegins c behind) (token : Token) :
    token.Apart (c :: behind) := by
  have outside : continuesWord c = false := by
    rcases none with ⟨rfl, _⟩ | ⟨_, letter, digit, others⟩
    · decide
    · have underscore : c ≠ '_' := fun same => others (same ▸ List.mem_cons_self)
      rw [continuesWord, Char.isAlphanum, letter, digit, beq_false_of_ne underscore]
      rfl
  rintro _ ⟨⟩
  exact continuedBy_eq_false_of_continuesWord outside token

theorem ofPunctuation?_eq_none_iff : ofPunctuation? c = none ↔ c ∉ ['(', ')', ',', ';', '*'] := by
  rw [ofPunctuation?.eq_def]
  split <;> simp_all

theorem scan?_eq_none_iff (visible : Text.isBlank c = false) :
    scan? (c :: behind) = none ↔ NoneBegins c behind := by
  rw [NoneBegins, scan?.eq_2]
  split
  · next quoted => simp [quoted]
  · next other =>
    split
    · next digit => simp [other, digit]
    · next digit =>
      split
      · next start =>
        rcases (Bool.or_eq_true _ _).mp start with letter | underscore
        · simp [other, letter]
        · obtain rfl := eq_of_beq underscore
          simp [other]
      · next start =>
        rw [startsWord, Bool.or_eq_true, beq_iff_eq] at start
        rw [Option.map_eq_none_iff, ofPunctuation?_eq_none_iff]
        simp_all

end Token

namespace Lexer

variable {lexer after : Lexer} {token : Token} {tokens : List Token} {cause : SyntaxError}
  {front behind gap : List Char} {c : Char}

theorem skip_eq_of_eq_append (whole : lexer.rest = front ++ behind) :
    lexer.skip front.length = ⟨behind, lexer.position + byteLength front⟩ := by
  rw [skip, whole, List.drop_left, List.take_left]

theorem skipBlanks_eq (whole : lexer.rest = gap ++ behind) (blank : Text.Blank gap)
    (visible : ∀ c ∈ behind.head?, Text.isBlank c = false) :
    lexer.skipBlanks = ⟨behind, lexer.position + byteLength gap⟩ := by
  have stop : behind.takeWhile Text.isBlank = [] := by
    cases behind with
    | nil => rfl
    | cons c rest => rw [List.takeWhile_cons, visible c rfl, if_neg Bool.false_ne_true]
  have taken : lexer.rest.takeWhile Text.isBlank = gap := by
    rw [whole, List.takeWhile_append_of_pos blank, stop, List.append_nil]
  rw [skipBlanks, taken, skip_eq_of_eq_append whole]

theorem isBlank_of_head?_skipBlanks (lexer : Lexer) :
    ∀ c ∈ lexer.skipBlanks.rest.head?, Text.isBlank c = false := by
  intro c member
  have stopped := List.head?_dropWhile_not Text.isBlank lexer.rest
  rw [← rest_skipBlanks, Option.mem_def.mp member] at stopped
  exact stopped

theorem exists_gap (lexer : Lexer) : ∃ gap, Text.Blank gap ∧
    lexer.rest = gap ++ lexer.skipBlanks.rest ∧
    lexer.skipBlanks.position = lexer.position + byteLength gap := by
  have blank : Text.Blank (lexer.rest.takeWhile Text.isBlank) :=
    List.all_eq_true.mp List.all_takeWhile
  have whole : lexer.rest = lexer.rest.takeWhile Text.isBlank ++ lexer.skipBlanks.rest := by
    rw [rest_skipBlanks, List.takeWhile_append_dropWhile]
  refine ⟨_, blank, whole, ?_⟩
  rw [skipBlanks_eq whole blank lexer.isBlank_of_head?_skipBlanks]

theorem skipBlanks_skipBlanks (lexer : Lexer) : lexer.skipBlanks.skipBlanks = lexer.skipBlanks :=
  skipBlanks_eq (List.nil_append _).symm nofun lexer.isBlank_of_head?_skipBlanks

/-- A call fails where no token begins behind the blanks, and takes nothing but these. -/
theorem next_eq_error_iff : lexer.next = (some (.error cause), after) ↔
    after = lexer.skipBlanks ∧ ∃ c behind, lexer.skipBlanks.rest = c :: behind ∧
      Token.NoneBegins c behind ∧ cause = .unexpectedCharacter lexer.skipBlanks.position c := by
  cases ahead : lexer.skipBlanks.rest with
  | nil =>
    rw [next_eq_none_iff.mpr ⟨rfl, ahead⟩]
    simp
  | cons c behind =>
    have visible := lexer.isBlank_of_head?_skipBlanks c (ahead ▸ rfl)
    cases found : Token.scan? (c :: behind) with
    | none =>
      have none := (Token.scan?_eq_none_iff visible).mp found
      rw [next_of_scan?_eq_none ahead found]
      simp [none, eq_comm, and_comm]
    | some scanned =>
      have some : ¬ Token.NoneBegins c behind := by
        rw [← Token.scan?_eq_none_iff visible, found]
        exact nofun
      rw [next_of_scan?_eq_some ahead found]
      simp [some]

/-- A call that delivers a token takes the blanks before it and its characters. -/
theorem exists_gap_of_next (read : lexer.next = (some (.ok token), after)) :
    ∃ gap, Text.Blank gap ∧ token.Lexical ∧ lexer.rest = gap ++ (token.lexeme ++ after.rest) ∧
      token.Apart after.rest ∧
      after.position = lexer.position + byteLength (gap ++ token.lexeme) := by
  obtain ⟨same, lexical, whole, apart⟩ := next_eq_token_iff.mp read
  obtain ⟨gap, blank, ahead, position⟩ := lexer.exists_gap
  refine ⟨gap, blank, lexical, by rw [ahead, whole], apart, ?_⟩
  rw [same, skip_eq_of_eq_append whole, position, byteLength_append, Nat.add_assoc]

/-- The calls that deliver tokens, and the lexer after them. -/
inductive Reads : Lexer → List Token → Lexer → Prop where
  | nil (lexer : Lexer) : Reads lexer [] lexer
  | cons {lexer mid after : Lexer} {token : Token} {tokens : List Token}
    (read : lexer.next = (some (.ok token), mid)) (later : Reads mid tokens after) :
    Reads lexer (token :: tokens) after

/-- What a lexer gives for ever when it has no further token: an error, or that the text is over. -/
def Stops (lexer : Lexer) (ending : Option SyntaxError) : Prop :=
  lexer.next = (ending.map .error, lexer.skipBlanks)

theorem exists_reads (lexer : Lexer) :
    ∃ tokens after ending, lexer.Reads tokens after ∧ after.Stops ending := by
  induction size : lexer.rest.length using Nat.strongRecOn generalizing lexer with
  | _ size ih =>
    subst size
    rcases read : lexer.next with ⟨_ | cause | token, mid⟩
    · obtain ⟨rfl, _⟩ := next_eq_none_iff.mp read
      exact ⟨[], lexer, none, .nil lexer, read⟩
    · obtain ⟨rfl, _⟩ := next_eq_error_iff.mp read
      exact ⟨[], lexer, some cause, .nil lexer, read⟩
    · obtain ⟨tokens, after, ending, reads, stops⟩ := ih _ (length_lt_of_next read) mid rfl
      exact ⟨token :: tokens, after, ending, .cons read reads, stops⟩

/-- A lexer that has stopped stays where it is. -/
theorem Stops.skipBlanks {ending : Option SyntaxError} (stops : lexer.Stops ending) :
    lexer.skipBlanks.Stops ending := by
  rw [Stops, next, skipBlanks_skipBlanks]
  exact stops

theorem Stops.results {ending : Option SyntaxError} (stops : lexer.Stops ending) (calls : Nat) :
    lexer.results calls = List.replicate calls (ending.map .error) := by
  induction calls generalizing lexer with
  | zero => rfl
  | succ calls ih =>
    rw [Lexer.results, stops, ih stops.skipBlanks]
    rfl

theorem Reads.results {ending : Option SyntaxError} (reads : lexer.Reads tokens after)
    (stops : after.Stops ending) (calls : Nat) :
    lexer.results calls = (tokens.map fun token => some (.ok token)).take calls ++
      List.replicate (calls - tokens.length) (ending.map .error) := by
  induction reads generalizing calls with
  | nil lexer => rw [stops.results, List.map_nil, List.take_nil]; rfl
  | cons read later ih =>
    cases calls with
    | zero => simp [Lexer.results]
    | succ calls =>
      rw [Lexer.results, read, ih stops]
      simp

/-- Every call that delivers a token takes some characters. -/
theorem Reads.exists_taken (reads : lexer.Reads tokens after) {calls : Nat}
    (early : calls < tokens.length) :
    ∃ taken ≠ [], (lexer.after calls).rest = taken ++ (lexer.after (calls + 1)).rest := by
  induction reads generalizing calls with
  | nil lexer => contradiction
  | @cons lexer mid _ token _ read later ih =>
    have further (count : Nat) : lexer.after (count + 1) = mid.after count := by
      rw [Lexer.after, read]
    cases calls with
    | zero =>
      obtain ⟨gap, _, lexical, whole, _⟩ := exists_gap_of_next read
      obtain ⟨first, others, start, _⟩ := lexical.exists_cons
      refine ⟨gap ++ token.lexeme, by simp [start], ?_⟩
      rw [further 0, List.append_assoc]
      exact whole
    | succ calls =>
      rw [further, further]
      exact ih (Nat.lt_of_succ_lt_succ early)

theorem Reads.tokens_eq (reads : lexer.Reads tokens after) :
    lexer.tokens = (tokens ++ ·) <$> after.tokens := by
  induction reads with
  | nil lexer => exact (LawfulFunctor.id_map _).symm
  | cons read later ih =>
    rw [tokens_of_next_token read, ih, ← comp_map]
    rfl

/-- The tokens are spelled by the text that was read, and its bytes were counted. -/
theorem Reads.exists_spelled (reads : lexer.Reads tokens after) :
    ∃ before, lexer.rest = before ++ after.rest ∧ Token.Spelled tokens before ∧
      after.position = lexer.position + byteLength before := by
  induction reads with
  | nil lexer => exact ⟨[], rfl, Token.spelled_nil_iff.mpr nofun, rfl⟩
  | @cons _ _ _ token _ read later ih =>
    obtain ⟨gap, blank, lexical, whole, apart, position⟩ := exists_gap_of_next read
    obtain ⟨before, split, spelled, further⟩ := ih
    rw [split] at whole apart
    refine ⟨gap ++ (token.lexeme ++ before), by simp only [whole, List.append_assoc],
      Token.spelled_cons_iff.mpr ⟨gap, before, rfl, blank, lexical, apart.of_append, spelled⟩, ?_⟩
    rw [further, position, Nat.add_assoc, ← byteLength_append, List.append_assoc]

/-- A lexer that stops with an error does so where no token begins, behind all that it has read. -/
theorem Reads.exists_stuck (reads : lexer.Reads tokens after) (stops : after.Stops (some cause)) :
    ∃ before c behind, lexer.rest = before ++ c :: behind ∧ Token.Spelled tokens before ∧
      Token.NoneBegins c behind ∧
      cause = .unexpectedCharacter (lexer.position + byteLength before) c := by
  obtain ⟨before, whole, spelled, position⟩ := reads.exists_spelled
  obtain ⟨_, c, behind, ahead, none, rfl⟩ := next_eq_error_iff.mp stops
  obtain ⟨gap, blank, split, further⟩ := after.exists_gap
  refine ⟨before ++ gap, c, behind, ?_, (Token.spelled_append_blank_iff blank).mpr spelled, none,
    ?_⟩
  · rw [whole, split, ahead, List.append_assoc]
  · rw [further, position, byteLength_append, Nat.add_assoc]

/-- If the text before a character spells tokens and none begins there, the lexer gets stuck. -/
theorem tokens_eq_error_of_spelled {before : List Char} (whole : lexer.rest = before ++ c :: behind)
    (spelled : Token.Spelled tokens before) (none : Token.NoneBegins c behind) :
    lexer.tokens = .error (.unexpectedCharacter (lexer.position + byteLength before) c) := by
  induction tokens generalizing lexer before with
  | nil =>
    have blank := Token.spelled_nil_iff.mp spelled
    have visible : ∀ d ∈ (c :: behind).head?, Text.isBlank d = false := by
      rintro _ ⟨⟩
      exact none.isBlank_eq_false
    have skipped := skipBlanks_eq whole blank visible
    have read :
        lexer.next = (some (.error (.unexpectedCharacter lexer.skipBlanks.position c)), _) :=
      next_eq_error_iff.mpr ⟨rfl, c, behind, by rw [skipped], none, rfl⟩
    rw [tokens_of_next_error read, skipped]
  | cons token tokens ih =>
    obtain ⟨gap, rest, rfl, blank, lexical, apart, later⟩ := Token.spelled_cons_iff.mp spelled
    have visible : ∀ d ∈ (token.lexeme ++ (rest ++ c :: behind)).head?, Text.isBlank d = false := by
      obtain ⟨first, others, start, clear⟩ := lexical.exists_cons
      rw [start]
      rintro _ ⟨⟩
      exact clear
    have split : lexer.rest = gap ++ (token.lexeme ++ (rest ++ c :: behind)) := by
      rw [whole]
      simp only [List.append_assoc]
    have skipped := skipBlanks_eq split blank visible
    have left : lexer.skipBlanks.skip token.lexeme.length =
        ⟨rest ++ c :: behind, lexer.position + byteLength gap + byteLength token.lexeme⟩ := by
      rw [skipped, skip_eq_of_eq_append rfl]
    have read := next_eq_token_iff.mpr ⟨left.symm, lexical, by rw [skipped],
      apart.append (none.apart token)⟩
    rw [tokens_of_next_token read, ih rfl later, byteLength_append, byteLength_append]
    simp only [Nat.add_assoc]
    rfl

theorem Stops.tokens_eq {ending : Option SyntaxError} (stops : lexer.Stops ending) :
    lexer.tokens = ending.elim (.ok []) .error := by
  cases ending with
  | none => exact tokens_of_next_none stops
  | some cause => exact tokens_of_next_error stops

theorem Reads.tokens_eq_of_stops {ending : Option SyntaxError} (reads : lexer.Reads tokens after)
    (stops : after.Stops ending) : lexer.tokens = ending.elim (.ok tokens) .error := by
  rw [reads.tokens_eq, stops.tokens_eq]
  cases ending with
  | none => exact congrArg Except.ok (List.append_nil tokens)
  | some cause => rfl

/-- A text is refused exactly where no token begins behind tokens that it spells. -/
theorem tokens_eq_error_iff : lexer.tokens = .error cause ↔
    ∃ tokens before c behind, lexer.rest = before ++ c :: behind ∧ Token.Spelled tokens before ∧
      Token.NoneBegins c behind ∧
      cause = .unexpectedCharacter (lexer.position + byteLength before) c := by
  constructor
  · intro failed
    obtain ⟨tokens, after, ending, reads, stops⟩ := lexer.exists_reads
    rw [reads.tokens_eq_of_stops stops] at failed
    cases ending with
    | none => cases failed
    | some other =>
      obtain rfl := Except.error.inj failed
      exact ⟨tokens, reads.exists_stuck stops⟩
  · rintro ⟨tokens, before, c, behind, whole, spelled, none, rfl⟩
    exact tokens_eq_error_of_spelled whole spelled none

end Lexer

namespace Token

/-- The text can be cut before the character, the position counts the bytes up to there, these are
the tokens of what lies before it, and no token begins with it. -/
structure StuckAt (text : String) (tokens : List Token) (position : Nat) (c : Char) : Prop where
  boundary : Text.IsBoundary text position
  cut : ∃ before behind, text = before ++ String.singleton c ++ behind ∧
    before.utf8ByteSize = position ∧ ofText before = .ok tokens ∧ NoneBegins c behind.toList

theorem stuckAt_iff {text : String} {tokens : List Token} {position : Nat} {c : Char} :
    StuckAt text tokens position c ↔
      ∃ before behind, text.toList = before ++ c :: behind ∧ Spelled tokens before ∧
        NoneBegins c behind ∧ position = byteLength before := by
  constructor
  · rintro ⟨_, before, behind, rfl, rfl, read, none⟩
    refine ⟨before.toList, behind.toList, by simp, Lexer.tokens_eq_ok_iff.mp read, none, ?_⟩
    rw [← utf8ByteSize_ofList_eq_byteLength, String.ofList_toList]
  · rintro ⟨before, behind, whole, spelled, none, rfl⟩
    refine ⟨Text.isBoundary_of_eq_append whole, .ofList before, .ofList behind, ?_,
      utf8ByteSize_ofList_eq_byteLength before, ?_, ?_⟩
    · apply String.toList_injective
      simp [whole]
    · apply Lexer.tokens_eq_ok_iff.mpr
      rw [Lexer.ofText, String.toList_ofList]
      exact spelled
    · rw [String.toList_ofList]
      exact none

theorem ofText_eq_error_iff {text : String} {cause : SyntaxError} : ofText text = .error cause ↔
    ∃ tokens position c, cause = .unexpectedCharacter position c ∧
      StuckAt text tokens position c := by
  simp only [stuckAt_iff]
  rw [ofText, Lexer.tokens_eq_error_iff]
  constructor
  · rintro ⟨tokens, before, c, behind, whole, spelled, none, rfl⟩
    exact ⟨tokens, _, c, rfl, before, behind, whole, spelled, none, Nat.zero_add _⟩
  · rintro ⟨tokens, _, c, rfl, before, behind, whole, spelled, none, rfl⟩
    exact ⟨tokens, before, c, behind, whole, spelled, none, by rw [Lexer.ofText, Nat.zero_add]⟩

end Token

namespace Lexer

/-- However often a lexer is called, it delivers tokens, each of which takes some of the text, and
from then on the end of the text or one error. The error names a character at which no token begins,
and what lies before it is a text of the tokens that were delivered. Only such a text is refused. -/
theorem results_are_exact (text : String) :
    (∃ (tokens : List Token) (ending : Option SyntaxError),
      (∀ calls, (ofText text).results calls =
        (tokens.map fun token => some (.ok token)).take calls ++
          List.replicate (calls - tokens.length) (ending.map .error)) ∧
      (∀ calls < tokens.length, ∃ taken ≠ [], ((ofText text).after calls).rest =
        taken ++ ((ofText text).after (calls + 1)).rest) ∧
      Token.ofText text = ending.elim (.ok tokens) .error ∧
      ∀ cause ∈ ending, ∃ position c, cause = .unexpectedCharacter position c ∧
        Token.StuckAt text tokens position c) ∧
    ∀ cause, Token.ofText text = .error cause ↔
      ∃ tokens position c, cause = .unexpectedCharacter position c ∧
        Token.StuckAt text tokens position c := by
  refine ⟨?_, fun cause => Token.ofText_eq_error_iff⟩
  obtain ⟨tokens, after, ending, reads, stops⟩ := (ofText text).exists_reads
  refine ⟨tokens, ending, reads.results stops, fun calls => reads.exists_taken,
    reads.tokens_eq_of_stops stops, ?_⟩
  rintro cause rfl
  obtain ⟨before, c, behind, whole, spelled, none, rfl⟩ := reads.exists_stuck stops
  refine ⟨_, c, rfl, Token.stuckAt_iff.mpr ⟨before, behind, whole, spelled, none, ?_⟩⟩
  rw [ofText, Nat.zero_add]

end Lexer

end SqlStore
