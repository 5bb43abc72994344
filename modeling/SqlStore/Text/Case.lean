import SqlStore.Text.Blank
import SqlStore.Text.CaseTable

/-! # Letter case

Full case mapping of Unicode, without the rules of particular languages. Two mappings depend on more
than one character: a capital letter may stand for a sequence (`ß` becomes `SS`), and a capital
sigma has a small form of its own at the end of a word.
-/

namespace SqlStore.Text

def isCased (c : Char) : Bool := inRanges casedRanges c.toNat

def isCaseIgnorable (c : Char) : Bool := inRanges caseIgnorableRanges c.toNat

/-- The character that the runs map to, or the character itself where no run covers it. -/
def applyRuns (runs : List CaseRun) (c : Char) : Char :=
  match runs.find? (fun run => run.Covers c.toNat) with
  | some run => Char.ofNat (run.image c.toNat)
  | none => c

/-- The capital form of a character. -/
def upperChar (c : Char) : List Char :=
  if c.toNat < 0x80 then [c.toUpper]
  else match upperSequences.find? (fun entry => entry.1 == c.toNat) with
    | some entry => entry.2.map Char.ofNat
    | none => [applyRuns upperRuns c]

/-- The small form of a character outside a word: the dot of a capital dotted `i` stays as an
accent. -/
def lowerChar (c : Char) : List Char :=
  if c.toNat < 0x80 then [c.toLower]
  else if c = 'İ' then ['i', '\u0307']
  else [applyRuns lowerRuns c]

/-- The first character that case rules do not look through has a case. -/
def startsCased (text : List Char) : Bool :=
  match text.dropWhile isCaseIgnorable with
  | [] => false
  | c :: _ => isCased c

/-- Lowers a text of which `afterCased` tells whether a cased character precedes it. A capital sigma
that follows a cased character and precedes none ends its word. -/
def lowerCharsFrom : Bool → List Char → List Char
  | _, [] => []
  | afterCased, c :: rest =>
    let lowered :=
      if c = 'Σ' then (if afterCased && !startsCased rest then ['ς'] else ['σ']) else lowerChar c
    lowered ++ lowerCharsFrom (if isCaseIgnorable c then afterCased else isCased c) rest

def uppercase (text : String) : String := String.ofList (text.toList.flatMap upperChar)

def lowercase (text : String) : String := String.ofList (lowerCharsFrom false text.toList)

end SqlStore.Text
