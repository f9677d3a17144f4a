import ShardRouting.Text.Case

/-! The tokens of SQL texts and their places. Blanks and comments are no tokens. -/

namespace ShardRouting
namespace Sql

/-- A place in a text; lines and columns are counted from one. -/
structure Position where
  line : Nat
  column : Nat
  deriving DecidableEq, Repr, Inhabited

/-- The place behind a character. -/
def Position.after (position : Position) (c : Char) : Position :=
  if c = '\n' then ⟨position.line + 1, 1⟩ else { position with column := position.column + 1 }

/-- How a string is delimited. -/
inductive QuoteStyle where
  | single
  | double
  | national
  | hex
  | byteSingle
  | byteDouble
  | rawSingle
  | rawDouble
  | rawTripleSingle
  | rawTripleDouble
  /-- With the escapes of C. -/
  | escaped
  /-- With escaped code points. -/
  | unicode
  | dollar (tag : String)
  deriving DecidableEq, Repr

inductive Token where
  /-- A name or keyword; in quotes it is no keyword. -/
  | word (value : String) (quote : Option Char)
  /-- The digits as they are written; `long` when an `L` follows. -/
  | number (digits : String) (long : Bool)
  | string (style : QuoteStyle) (content : String)
  | placeholder (text : String)
  /-- Punctuation or an operator. -/
  | symbol (text : String)
  deriving DecidableEq, Repr

/-- The keyword that a word without quotes spells, in capitals. -/
def Token.keyword? : Token → Option String
  | .word value none => some (Text.upperAscii value)
  | _ => none

structure Lexeme where
  token : Token
  position : Position
  keyword : Option String := token.keyword?
  deriving DecidableEq, Repr

/-- A token at a place, with the keyword that it spells. -/
def Token.at (token : Token) (position : Position) : Lexeme := { token, position }

end Sql
end ShardRouting
