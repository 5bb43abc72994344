import SqlStore.Text.Utf8
import SqlStore.Token

/-! # What can go wrong

Causes of failure, and the one wording of each. A text may be no statement, a statement may not fit
the tables, and stored bytes may be no value. The last cannot happen to bytes that the database
wrote itself.
-/

namespace SqlStore

/-- What the grammar admits at some place, as far as messages name it. -/
inductive Expectation where
  | token (kind : TokenKind)
  | keyword (keyword : Keyword)
  | literal
deriving DecidableEq, Repr

def Expectation.label : Expectation → String
  | token kind => kind.label
  | keyword word => "keyword " ++ word.label
  | literal => "NUMBER or STRING literal"

/-- Why a text is no statement. -/
inductive SyntaxError where
  /-- The position counts bytes. -/
  | unexpectedCharacter (position : Nat) (character : Char)
  | emptyInput
  | unknownStatement (token : Token)
  | unexpectedEnd (expected : Expectation)
  | unexpectedToken (expected : Expectation) (token : Token)
  | unsupportedType (name : String)
  | integerOutOfRange (digits : String)
  | trailingToken (token : Token)
deriving DecidableEq, Repr

namespace SyntaxError

/-- Where a keyword is due the kind of the other token is left out. -/
def message : SyntaxError → String
  | unexpectedCharacter position character =>
    s!"[Lexer] Unexpected character at position {position}: '{character}'"
  | emptyInput => "[Parser] Unexpected end of input"
  | unknownStatement token => "[Parser] Unknown statement starting with '" ++ token.text ++ "'"
  | unexpectedEnd expected => "[Parser] Expected " ++ expected.label ++ ", got end of input"
  | unexpectedToken (.keyword word) token =>
    "[Parser] Expected keyword " ++ word.label ++ ", got '" ++ token.text ++ "'"
  | unexpectedToken expected token =>
    "[Parser] Expected " ++ expected.label ++ ", got " ++ token.kind.label ++
      " ('" ++ token.text ++ "')"
  | unsupportedType name => "[Parser] Unsupported column type: '" ++ name ++ "'"
  | integerOutOfRange digits => "[Parser] Integer literal out of range: '" ++ digits ++ "'"
  | trailingToken token => "[Parser] Unexpected token after statement: '" ++ token.text ++ "'"

end SyntaxError

/-- Why a statement does not fit the tables. -/
inductive ExecutionError where
  | noColumns (table : String)
  | tableExists (table : String)
  | unknownTable (table : String)
  | valueCount (expected given : Nat)
  | unknownColumns (names : List String)
deriving DecidableEq, Repr

def ExecutionError.message : ExecutionError → String
  | noColumns table => "table " ++ table ++ " has no columns"
  | tableExists table => "Table '" ++ table ++ "' already exists"
  | unknownTable table => "Table '" ++ table ++ "' does not exist"
  | valueCount expected given => s!"Expected {expected} values, got {given}"
  | unknownColumns names => "Unknown columns in SELECT: " ++ String.intercalate ", " names

/-- Why bytes are no value of the type that is read. -/
inductive DecodeError where
  | endOfInput
  /-- A text claims more bytes than there are. -/
  | textOverrun
  | invalidText (fault : Text.Utf8.Fault)
  | invalidBool (byte : UInt8)
  | invalidVariant (index count : Nat)
  /-- A key ends before its bytes do. -/
  | leftover
deriving DecidableEq, Repr

def DecodeError.message : DecodeError → String
  | endOfInput => "io error: unexpected end of file"
  | textOverrun => "io error: "
  | invalidText fault => "string is not valid utf8: " ++ fault.message
  | invalidBool byte => s!"invalid u8 while decoding bool, expected 0 or 1, found {byte.toNat}"
  | invalidVariant index count =>
    s!"invalid value: integer \x60{index}\x60, expected variant index 0 <= i < {count}"
  | leftover => "Slice had bytes remaining after deserialization"

/-- How a character is shown between double quotes. -/
def Text.escaped (c : Char) : String :=
  match c.toNat with
  | 0x00 => "\\0"
  | 0x09 => "\\t"
  | 0x0A => "\\n"
  | 0x0D => "\\r"
  | 0x22 => "\\\""
  | 0x5C => "\\\\"
  | code =>
    if code < 0x20 ∨ 0x7F ≤ code ∧ code < 0xA0 then
      "\\u\x7b" ++ String.ofList (Nat.toDigits 16 code) ++ "\x7d"
    else c.toString

/-- A text between double quotes. Of the characters that cannot be printed only control characters
are escaped. -/
def Text.quoted (text : String) : String :=
  "\"" ++ String.join (text.toList.map Text.escaped) ++ "\""

/-- Why the store does not hold what the database would have written. -/
inductive StorageError where
  | decode (cause : DecodeError)
  /-- The key of a table stands among the keys of rows. -/
  | tableAmongRows (table : String)
  /-- A named column lies beyond the end of a stored row. -/
  | shortRow (position : Nat)
  | rowIdsExhausted (table : String)
deriving DecidableEq, Repr

def StorageError.message : StorageError → String
  | decode cause => cause.message
  | tableAmongRows table => "unexpected key Table(" ++ Text.quoted table ++ ") in row range"
  | shortRow position => s!"a stored row has no column {position}"
  | rowIdsExhausted table => "no row id is left in table '" ++ table ++ "'"

inductive Error where
  | parse (cause : SyntaxError)
  | execution (cause : ExecutionError)
  | storage (cause : StorageError)
deriving DecidableEq, Repr

namespace Error

def message : Error → String
  | parse cause => cause.message
  | execution cause => cause.message
  | storage cause => cause.message

/-- The message as the shell prints it, behind the stage that failed. -/
def display : Error → String
  | parse cause => "syntax error: " ++ cause.message
  | execution cause => cause.message
  | storage cause => "internal error: " ++ cause.message

end Error

instance : MonadLift (Except SyntaxError) (Except Error) := ⟨Except.mapError .parse⟩

instance : MonadLift (Except ExecutionError) (Except Error) := ⟨Except.mapError .execution⟩

instance : MonadLift (Except DecodeError) (Except Error) :=
  ⟨Except.mapError fun cause => .storage (.decode cause)⟩

end SqlStore
