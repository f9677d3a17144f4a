import ShardRouting.Sql.Grammar.Moments

/-! Calls of functions: their arguments, the clauses among and behind them, and windows. Only the
    arguments and the filter of a call take part in routing. -/

namespace ShardRouting
namespace Sql
namespace Grammar

/-! ### Wildcards -/

/-- The parts of a name that ends in `.*`. -/
def wildcardName : Nat → List Ident → Reader (Option ObjectName)
  | 0, _ => return none
  | fuel + 1, parts => do
    if !(← symbol ".") then return none
    match (← take).token with
    | .word value quote => wildcardName fuel (parts ++ [{ value, quote }])
    | .string .single value => wildcardName fuel (parts ++ [{ value, quote := some '\'' }])
    | .symbol "*" => return some parts
    | _ => refuse

/-- The text of a wildcard, or an expression. -/
inductive Item where
  | wildcard (text : String)
  | expr (operand : Expr)

def Item.pieces : Item → List Piece
  | .wildcard text => [.words text]
  | .expr operand => [.part operand]

/-- An expression, `*`, or `name.*`. -/
def wildcardOr (rules : Rules) : Reader Item := do
  let start ← get
  if ← symbol "*" then return .wildcard "*"
  let name ← match ← peekToken 0 with
    | some (.word ..) | some (.string .single _) => do
      let first ← ident
      wildcardName ((← get).length + 1) [first]
    | _ => pure none
  match name with
  | some parts => return .wildcard (dotted parts ++ ".*")
  | none =>
    set start
    return .expr (← rules.expr)

/-! ### Windows -/

/-- One end of a window frame. -/
def frameBound (rules : Rules) : Reader (List Piece) := do
  if ← keywords ["CURRENT", "ROW"] then return [.words "CURRENT ROW"]
  let distance ← if ← keyword "UNBOUNDED" then pure [Piece.words "UNBOUNDED"] else do
    match ← peekToken 0 with
    | some (.string .single _) => pure [Piece.aside (← interval rules)]
    | _ => pure [Piece.aside (← rules.expr)]
  return distance ++ [.words (" " ++ (← needOneOf ["PRECEDING", "FOLLOWING"]))]

/-- A window behind its opening parenthesis. -/
def window (rules : Rules) : Reader (List Piece) := do
  let name ← match ← peekAt 0 with
    | some lexeme => match lexeme.token with
      | .word .. => if lexeme.isReserved then pure [] else pure [[Piece.words (← ident).text]]
      | _ => pure []
    | none => pure []
  let partition ← match ← given (keywords ["PARTITION", "BY"]) (commaList rules.expr) with
    | some items => pure [.words "PARTITION BY " :: asides items]
    | none => pure []
  let order ← match ← given (keywords ["ORDER", "BY"]) (commaList (orderItem rules)) with
    | some items => pure [.words "ORDER BY " :: asides items]
    | none => pure []
  let frame ← if ← symbol ")" then pure [] else do
    let units ← needOneOf ["ROWS", "RANGE", "GROUPS"]
    let bounds ← if ← keyword "BETWEEN" then do
        let low ← frameBound rules
        needKeyword "AND"
        pure ([.words " BETWEEN "] ++ low ++ [.words " AND "] ++ (← frameBound rules))
      else pure (.words " " :: (← frameBound rules))
    needSymbol ")"
    pure [.words units :: bounds]
  return [.words "("] ++ joined " " (name ++ partition ++ order ++ frame) ++ [.words ")"]

/-! ### Arguments -/

/-- The sign between the name and the value of an argument. -/
def argumentSign : Reader String := do
  if ← keyword "VALUE" then return "VALUE"
  if ← symbol "=>" then return "=>"
  if ← both (among [.generic]) (symbol ":=") then return ":="
  if ← both (among [.postgres]) (symbol ":") then return ":"
  refuse

/-- An argument, which may have a name. -/
def argument (rules : Rules) : Reader (List Piece) := do
  let named ← attempt do
    let name ← if ← among [.postgres] then pure (.part (← rules.expr))
      else pure (.words (← ident).text)
    let sign ← argumentSign
    return [name, .words (" " ++ sign ++ " ")] ++ (← wildcardOr rules).pieces
  match named with
  | some pieces => return pieces
  | none => return (← wildcardOr rules).pieces

def nullTreatment : Reader (Option String) := do
  match ← oneOf ["RESPECT", "IGNORE"] with
  | some word =>
    needKeyword "NULLS"
    return some (word ++ " NULLS")
  | none => return none

def nullClause : Reader (List (List Piece)) := do
  if ← keywords ["ABSENT", "ON", "NULL"] then return [[.words "ABSENT ON NULL"]]
  if ← keywords ["NULL", "ON", "NULL"] then return [[.words "NULL ON NULL"]]
  return []

/-- What becomes of a list that grows too long. -/
def overflowClause (rules : Rules) : Reader (List (List Piece)) := do
  if !(← keywords ["ON", "OVERFLOW"]) then return []
  if ← keyword "ERROR" then return [[.words "ON OVERFLOW ERROR"]]
  needKeyword "TRUNCATE"
  let filler ← match ← peekToken 0 with
    | some (.string style _) =>
      if [.single, .escaped, .unicode, .national, .hex].contains style then
        pure [Piece.words " ", .aside (← rules.expr)]
      else pure []
    | _ => pure []
  let count ← needOneOf ["WITH", "WITHOUT"]
  needKeyword "COUNT"
  return [[.words "ON OVERFLOW TRUNCATE"] ++ filler ++ [.words (" " ++ count ++ " COUNT")]]

/-- The arguments of a call and the clauses behind them, up to the closing parenthesis. Tells as well
    whether one of the clauses treats nulls. -/
def arguments (rules : Rules) : Reader (List Piece × Bool) := do
  let early ← nullClause
  if ← symbol ")" then return (joined " " early, false)
  let set ← match ← keyword "ALL", ← keyword "DISTINCT" with
    | true, true => refuse
    | true, false => pure "ALL "
    | false, true => pure "DISTINCT "
    | false, false => pure ""
  let items ← commaList (argument rules)
  let nulls ← if ← among [.generic] then nullTreatment else pure none
  let order ← match ← given (keywords ["ORDER", "BY"]) (commaList (orderItem rules)) with
    | some items => pure [.words "ORDER BY " :: parts items]
    | none => pure []
  let limit ← match ← given (keyword "LIMIT") rules.expr with
    | some e => pure [[Piece.words "LIMIT ", .part e]]
    | none => pure []
  let having ← if ← both (among [.generic]) (keyword "HAVING") then do
      let bound ← needOneOf ["MIN", "MAX"]
      pure [[Piece.words ("HAVING " ++ bound ++ " "), .aside (← rules.expr)]]
    else pure []
  let separator ← if ← both (among [.generic, .mysql]) (keyword "SEPARATOR") then
      pure [[Piece.words ("SEPARATOR " ++ (← literal).text)]]
    else pure []
  let overflow ← overflowClause rules
  let late ← nullClause
  needSymbol ")"
  let treated := nulls.toList.map fun text => [Piece.words text]
  let clauses := early ++ treated ++ order ++ limit ++ having ++ separator ++ overflow ++ late
  let behind := if clauses.isEmpty then [] else .words " " :: joined " " clauses
  return ([.words set] ++ joined ", " items ++ behind, nulls.isSome)

/-- `FILTER (WHERE condition)`. The keyword alone, or with a parenthesis alone, is dropped. -/
def filterClause (rules : Rules) : Reader (List Piece) := do
  if !(← among [.postgres, .sqlite]) then return []
  if !(← keyword "FILTER") then return []
  if !(← symbol "(") then return []
  if !(← keyword "WHERE") then return []
  let condition ← rules.expr
  needSymbol ")"
  return [.words " FILTER (WHERE ", .part condition, .words ")"]

/-- A call of `name`, whose parenthesis comes next. -/
def call (rules : Rules) (name : ObjectName) : Reader Expr := do
  needSymbol "("
  let (first, treated) ← arguments rules
  let (parameters, arguments, treated) ← if ← both (among [.generic]) (symbol "(") then do
      let (second, treated) ← arguments rules
      pure ([.words "("] ++ first.map Piece.hide ++ [.words ")"], second, treated)
    else pure ([], first, treated)
  let within ← if ← keywords ["WITHIN", "GROUP"] then do
      needSymbol "("
      needKeywords ["ORDER", "BY"]
      let items ← commaList (orderItem rules)
      needSymbol ")"
      pure ([.words " WITHIN GROUP (ORDER BY "] ++ asides items ++ [.words ")"])
    else pure []
  let filter ← filterClause rules
  let nulls ← if treated then pure none else nullTreatment
  let overPieces ← if ← keyword "OVER" then do
      if ← symbol "(" then pure (.words " OVER " :: (← window rules))
      else pure [.words (" OVER " ++ (← ident).text)]
    else pure []
  return .call name (parameters ++ [.words "("] ++ arguments ++ [.words ")"] ++ within ++ filter ++
    nulls.toList.map (fun text => .words (" " ++ text)) ++ overPieces)

end Grammar
end Sql
end ShardRouting
