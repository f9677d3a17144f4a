import ShardRouting.Sql.Grammar.Statements

/-! Reading exactly one statement, together with what the tree does not tell: the places of the bare
    placeholders, by which they are counted, and the names that qualify columns. -/

namespace ShardRouting
namespace Sql

/-- Facts about the tokens of a statement. -/
structure Scan where
  /-- Where the bare placeholders stand, in the order of the text. -/
  placeholders : List Position := []
  /-- Names with a point behind them, in small letters. -/
  qualifiers : List String := []
  deriving DecidableEq, Repr

namespace Scan

/-- The names with a point behind them. -/
def qualifiersOf : List Lexeme → List String
  | [] => []
  | lexeme :: rest =>
    match lexeme.token, rest.head?.map Lexeme.token with
    | .word value _, some (.symbol ".") => Text.lower value :: qualifiersOf rest
    | _, _ => qualifiersOf rest

def ofLexemes (lexemes : List Lexeme) : Scan where
  placeholders := (lexemes.filter fun lexeme => lexeme.token = .placeholder "?").map (·.position)
  qualifiers := qualifiersOf lexemes

/-- The number of the bare placeholder at a place, counted from one. -/
def index? (scan : Scan) (position : Position) : Option Nat :=
  (scan.placeholders.findIdx? (· = position)).map (· + 1)

def placeholderCount (scan : Scan) : Nat := scan.placeholders.length

/-- Whether a name qualifies a column somewhere in the statement, whatever its case. -/
def isQualifier (scan : Scan) (name : String) : Bool := scan.qualifiers.contains (Text.lower name)

end Scan

/-- Why a text is no statement to route. -/
inductive StatementFault where
  | malformed
  /-- It holds another number of statements than one. -/
  | count (found : Nat)
  /-- It is neither a query nor a change of rows. -/
  | otherKind
  deriving DecidableEq, Repr

def StatementFault.message : StatementFault → String
  | malformed => "sql parser error: no statement can be read"
  | count found => "expected exactly one statement, found " ++ toString found
  | otherKind => "only SELECT, INSERT, UPDATE and DELETE statements can be routed"

/-- The one statement of a text, which nests no deeper than `depth`. -/
def readStatement (dialect : Dialect) (depth : Nat) (text : String) :
    Except StatementFault (Statement × Scan) :=
  match tokens? dialect text with
  | none => .error .malformed
  | some lexemes => match readStatements dialect depth lexemes with
    | .error _ => .error .malformed
    | .ok [.other] => .error .otherKind
    | .ok [statement] => .ok (statement, Scan.ofLexemes lexemes)
    | .ok found => .error (.count found.length)

end Sql
end ShardRouting
