import SqlStore.Text.Case

/-! # Tokens

The words of a statement. Keywords are no tokens of their own: any identifier may name a table or a
column, and counts as a keyword where its capital form spells one.
-/

namespace SqlStore

inductive Keyword where
  | create
  | table
  | insert
  | into
  | values
  | select
  | from
deriving DecidableEq, Repr

namespace Keyword

def all : List Keyword := [create, table, insert, into, values, select, .from]

def label : Keyword → String
  | create => "CREATE"
  | table => "TABLE"
  | insert => "INSERT"
  | into => "INTO"
  | values => "VALUES"
  | select => "SELECT"
  | .from => "FROM"

def ofText? (text : String) : Option Keyword :=
  all.find? fun keyword => keyword.label == Text.uppercase text

end Keyword

inductive TokenKind where
  | ident
  | string
  | number
  | leftParen
  | rightParen
  | comma
  | semicolon
  | star
deriving DecidableEq, Repr

def TokenKind.label : TokenKind → String
  | ident => "IDENT"
  | string => "STRING"
  | number => "NUMBER"
  | leftParen => "LPAREN"
  | rightParen => "RPAREN"
  | comma => "COMMA"
  | semicolon => "SEMICOLON"
  | star => "STAR"

/-- A string is kept without its quotes, a number as its digits. -/
inductive Token where
  | ident (name : String)
  | string (body : String)
  | number (digits : String)
  | leftParen
  | rightParen
  | comma
  | semicolon
  | star
deriving DecidableEq, Repr

namespace Token

def kind : Token → TokenKind
  | ident _ => .ident
  | string _ => .string
  | number _ => .number
  | leftParen => .leftParen
  | rightParen => .rightParen
  | comma => .comma
  | semicolon => .semicolon
  | star => .star

def text : Token → String
  | ident name => name
  | string body => body
  | number digits => digits
  | leftParen => "("
  | rightParen => ")"
  | comma => ","
  | semicolon => ";"
  | star => "*"

/-- The keyword that an identifier spells. A quoted string never spells one. -/
def keyword? : Token → Option Keyword
  | ident name => Keyword.ofText? name
  | _ => none

end Token

end SqlStore
