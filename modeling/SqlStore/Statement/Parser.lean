import SqlStore.Statement
import SqlStore.Token.Lexer

/-! # Reading statements

The grammar looks no further than the next token, so a statement is read by an automaton whose state
is what has been read of it. A token that no state after it could repair is refused at once, and the
refusal names what the grammar wanted in its place. The three forms are

    CREATE TABLE name ( column type {, column type} ) [;]
    INSERT INTO name VALUES ( literal {, literal} ) [;]
    SELECT ( * | column {, column} ) FROM name [;]
-/

namespace SqlStore

namespace Token

def expect (expected : TokenKind) (token : Token) : Except SyntaxError Unit :=
  if token.kind = expected then .ok () else .error (.unexpectedToken (.token expected) token)

def expectKeyword (expected : Keyword) (token : Token) : Except SyntaxError Unit :=
  if token.keyword? = some expected then .ok ()
  else .error (.unexpectedToken (.keyword expected) token)

/-- The name that an identifier spells, keywords included. -/
def expectName : Token → Except SyntaxError String
  | ident name => .ok name
  | token => .error (.unexpectedToken (.token .ident) token)

def expectLiteral : Token → Except SyntaxError Value
  | number digits =>
    match Text.Decimal.int64? digits with
    | some value => .ok (.integer value)
    | none => .error (.integerOutOfRange digits)
  | string body => .ok (.text body)
  | token => .error (.unexpectedToken .literal token)

end Token

/-- A statement of which some tokens are read, by what has to come next. -/
inductive Draft where
  | start
  | tableKeyword
  | newTable
  | columnsOpen (table : String)
  | columnName (table : String) (columns : List Column)
  | columnType (table : String) (columns : List Column) (name : String)
  | columnEnd (table : String) (columns : List Column)
  | intoKeyword
  | target
  | valuesKeyword (table : String)
  | valuesOpen (table : String)
  | literal (table : String) (values : List Value)
  | literalEnd (table : String) (values : List Value)
  | selectionStart
  | selectedName (names : List String)
  | selectedEnd (names : List String)
  | fromKeyword
  | source (selection : Selection)
  /-- A semicolon may still follow. -/
  | complete (statement : Statement)
  | closed (statement : Statement)
deriving DecidableEq, Repr

namespace Draft

/-- Reads one token. -/
def step : Draft → Token → Except SyntaxError Draft
  | start, token =>
    match token.keyword? with
    | some .create => .ok tableKeyword
    | some .insert => .ok intoKeyword
    | some .select => .ok selectionStart
    | _ => .error (.unknownStatement token)
  | tableKeyword, token => do token.expectKeyword .table; return newTable
  | newTable, token => do return columnsOpen (← token.expectName)
  | columnsOpen table, token => do token.expect .leftParen; return columnName table []
  | columnName table columns, token => do return columnType table columns (← token.expectName)
  | columnType table columns name, token => do
    let type ← ColumnType.ofText (← token.expectName)
    return columnEnd table (columns ++ [{ name, type }])
  | columnEnd table columns, token => do
    if token = .comma then return columnName table columns
    token.expect .rightParen
    return complete (.createTable ⟨table, columns⟩)
  | intoKeyword, token => do token.expectKeyword .into; return target
  | target, token => do return valuesKeyword (← token.expectName)
  | valuesKeyword table, token => do token.expectKeyword .values; return valuesOpen table
  | valuesOpen table, token => do token.expect .leftParen; return literal table []
  | literal table values, token => do return literalEnd table (values ++ [← token.expectLiteral])
  | literalEnd table values, token => do
    if token = .comma then return literal table values
    token.expect .rightParen
    return complete (.insert table values)
  | selectionStart, token => do
    if token = .star then return fromKeyword
    return selectedEnd [← token.expectName]
  | selectedName names, token => do return selectedEnd (names ++ [← token.expectName])
  | selectedEnd names, token => do
    if token = .comma then return selectedName names
    token.expectKeyword .from
    return source (.named names)
  | fromKeyword, token => do token.expectKeyword .from; return source .all
  | source selection, token => do return complete (.select (← token.expectName) selection)
  | complete statement, token =>
    if token = .semicolon then .ok (closed statement) else .error (.trailingToken token)
  | closed _, token => .error (.trailingToken token)

/-- What the text ends with: a statement, or a place where something is missing. -/
def finish : Draft → Except SyntaxError Statement
  | start => .error .emptyInput
  | complete statement | closed statement => .ok statement
  | tableKeyword => .error (.unexpectedEnd (.keyword .table))
  | intoKeyword => .error (.unexpectedEnd (.keyword .into))
  | valuesKeyword _ => .error (.unexpectedEnd (.keyword .values))
  | selectedEnd _ | fromKeyword => .error (.unexpectedEnd (.keyword .from))
  | columnsOpen _ | valuesOpen _ => .error (.unexpectedEnd (.token .leftParen))
  | columnEnd _ _ | literalEnd _ _ => .error (.unexpectedEnd (.token .rightParen))
  | literal _ _ => .error (.unexpectedEnd .literal)
  | newTable | columnName _ _ | columnType _ _ _ | target | selectionStart | selectedName _
  | source _ => .error (.unexpectedEnd (.token .ident))

end Draft

namespace Statement

/-- Reads exactly one statement. -/
def ofTokens (tokens : List Token) : Except SyntaxError Statement := do
  (← tokens.foldlM Draft.step .start).finish

/-- The whole text is cut into tokens first, so a character that begins no token is reported before
any fault of grammar. -/
def ofText (text : String) : Except SyntaxError Statement := do
  ofTokens (← Token.ofText text)

end Statement

end SqlStore
