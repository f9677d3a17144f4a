import ShardRouting.Sql.Grammar.Reader
import ShardRouting.Sql.Tree.Text

/-! What the readers of all parts of a statement share: the rules they call for what is nested in them,
    how tightly operators bind, and the pieces of forms. -/

namespace ShardRouting
namespace Sql
namespace Grammar

/-- Readers of nested parts. -/
structure Rules where
  /-- An expression whose operators bind more tightly than a level. -/
  operand : Nat → Reader Expr
  /-- An expression without operators. -/
  primary : Reader Expr
  query : Reader Query
  /-- The body of a query whose set operators bind more tightly than a level. -/
  body : Nat → Reader Body
  /-- A table with the tables joined to it. -/
  tables : Reader TableRef
  insert : Reader Statement
  update : Reader Update
  statement : Reader Statement

/-- An expression with all operators. -/
def Rules.expr (rules : Rules) : Reader Expr := rules.operand 0

/-! ### Binding -/

inductive Level where
  | or
  | and
  | not
  | custom
  | is
  | like
  | equality
  | between
  | pipe
  | shift
  | ampersand
  | xor
  | sum
  | product
  | zone
  | collation
  | bracket
  | cast
  | period
  deriving DecidableEq, Repr

/-- A higher rank binds more tightly. -/
def Level.rank (dialect : Dialect) (level : Level) : Nat :=
  match dialect with
  | .postgres => match level with
    | .or => 10
    | .and => 20
    | .not => 30
    | .is => 40
    | .equality => 50
    | .between | .like => 60
    | .custom | .ampersand | .pipe => 70
    | .xor => 75
    | .sum => 80
    | .product => 90
    | .shift => 100
    | .zone => 110
    | .collation => 120
    | .bracket => 130
    | .cast => 140
    | .period => 200
  | _ => match level with
    | .or => 5
    | .and => 10
    | .not => 15
    | .custom => 16
    | .is => 17
    | .like => 19
    | .between | .equality => 20
    | .pipe => 21
    | .shift => 22
    | .ampersand => 23
    | .xor => 24
    | .sum => 30
    | .product => 40
    | .zone => 41
    | .collation | .bracket | .cast => 50
    | .period => 100

/-- An expression whose operators bind more tightly than those of a level. -/
def Rules.above (rules : Rules) (level : Level) : Reader Expr := do
  rules.operand (level.rank (← read).dialect)

/-! ### Sequences -/

/-- Statements with semicolons between them. A word `END` behind a statement ends them. -/
def statementsOf (statement : Reader Statement) : Nat → Bool → Reader (List Statement)
  | 0, _ => return []
  | fuel + 1, behind => do
    let separated := !(← many (given (symbol ";") (pure ()))).isEmpty
    let behind := behind && !separated
    match ← peekAt 0 with
    | none => return []
    | some lexeme =>
      if behind then
        if lexeme.keyword = some "END" then return [] else refuse
      let first ← statement
      return first :: (← statementsOf statement fuel true)

/-- Expressions in parentheses. -/
def Rules.exprsInParens (rules : Rules) : Reader (List Expr) := inParens (commaList rules.expr)

/-! ### Pieces -/

/-- The same piece, with no table in it routed. -/
def Piece.hide : Piece → Piece
  | .part operand => .aside operand
  | piece => piece

/-- Lists of pieces with a text between them. -/
def joined (between : String) : List (List Piece) → List Piece
  | [] => []
  | [pieces] => pieces
  | pieces :: rest => pieces ++ .words between :: joined between rest

def parts (operands : List Expr) : List Piece := joined ", " (operands.map ([.part ·]))

def asides (operands : List Expr) : List Piece := joined ", " (operands.map ([.aside ·]))

/-- Words in front of an operand that is there. -/
def wordsAnd (words : String) : Option Expr → List Piece
  | some operand => [.words words, .part operand]
  | none => []

/-- A form, or the operand itself when nothing stands beside it. -/
def formOf : List Piece → Expr
  | [.part operand] => operand
  | pieces => .form pieces

/-- A clause behind a blank and its keywords, when it has items. -/
def clausePieces (words : String) (items : List (List Piece)) : List Piece :=
  if items.isEmpty then [] else .words (" " ++ words ++ " ") :: joined ", " items

/-! ### Items of many clauses -/

/-- An expression by which rows are sorted. -/
def orderItem (rules : Rules) : Reader Expr := do
  let operand ← rules.expr
  let direction ← match ← oneOf ["ASC", "DESC"] with
    | some word => pure (" " ++ word)
    | none => pure ""
  let nulls ← if ← keywords ["NULLS", "FIRST"] then pure " NULLS FIRST"
    else if ← keywords ["NULLS", "LAST"] then pure " NULLS LAST"
    else pure ""
  let fill ← if ← both (among [.generic]) (keywords ["WITH", "FILL"]) then do
      let bound (word : String) : Reader (List Piece) := do
        match ← given (keyword word) rules.expr with
        | some e => return [.words (" " ++ word ++ " "), .aside e]
        | none => return []
      pure ([Piece.words " WITH FILL"] ++ (← bound "FROM") ++ (← bound "TO") ++ (← bound "STEP"))
    else pure []
  let suffix := direction ++ nulls
  return formOf ([.part operand] ++ (if suffix.isEmpty then [] else [.words suffix]) ++ fill)

/-- `column = value` or `(columns) = value`. -/
def assignment (rules : Rules) : Reader Expr := do
  let target ← if ← symbol "(" then do
      let names ← commaList objectName
      needSymbol ")"
      pure ("(" ++ commas (names.map dotted) ++ ")")
    else pure (dotted (← objectName))
  needSymbol "="
  return .form [.words (target ++ " = "), .part (← rules.expr)]

end Grammar
end Sql
end ShardRouting
