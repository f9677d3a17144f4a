import ShardRouting.Sql.Grammar.RowPatterns

/-! Tables of a `FROM` clause: their hints, derived tables, table functions and joins. -/

namespace ShardRouting
namespace Sql
namespace Grammar

/-! ### Hints -/

/-- One hint on the use of indexes. -/
def indexHint : Reader (Option String) := do
  match ← oneOf ["USE", "IGNORE", "FORCE"] with
  | none => return none
  | some verb =>
    let kind ← needOneOf ["INDEX", "KEY"]
    let purpose ← if ← keyword "FOR" then
        if ← keyword "JOIN" then pure "FOR JOIN "
        else if ← keywords ["ORDER", "BY"] then pure "FOR ORDER BY "
        else if ← keywords ["GROUP", "BY"] then pure "FOR GROUP BY "
        else refuse
      else pure ""
    needSymbol "("
    let names ← if ← isSymbolAt 0 ")" then pure [] else commaList ident
    needSymbol ")"
    return some (" " ++ verb ++ " " ++ kind ++ " " ++ purpose ++ "(" ++ commas (names.map Ident.text) ++ ")")

/-- The seed of a sample. -/
def sampleSeed : Reader String := do
  match ← oneOf ["REPEATABLE", "SEED"] with
  | some word => return " " ++ word ++ " (" ++ (← inParens numeral).text ++ ")"
  | none => return ""

/-- A sample of the rows of a table. -/
def sample (rules : Rules) : Reader (List Piece) := do
  match ← oneOf ["TABLESAMPLE", "SAMPLE"] with
  | none => return []
  | some word =>
    let method ← match ← oneOf ["BERNOULLI", "ROW", "SYSTEM", "BLOCK"] with
      | some method => pure (" " ++ method)
      | none => pure ""
    let enclosed ← symbol "("
    let (size, behind) ← if ← both (return enclosed) (keyword "BUCKET") then do
        let bucket ← numeral
        needKeywords ["OUT", "OF"]
        let total ← numeral
        let on ← match ← given (keyword "ON") rules.expr with
          | some e => pure [Piece.words " ON ", .aside e]
          | none => pure []
        pure ([], [.words (" (BUCKET " ++ bucket.text ++ " OUT OF " ++ total.text)] ++ on ++ [.words ")"])
      else do
        let value ← match ← attempt rules.expr with
          | some e => pure (Piece.aside e)
          | none => match (← take).token with
            | .word value _ => pure (Piece.words value)
            | _ => refuse
        let unit ← match ← oneOf ["ROWS", "PERCENT"] with
          | some unit => pure (" " ++ unit)
          | none => pure ""
        let (opening, closing) := if enclosed then (" (", ")") else (" ", "")
        pure ([Piece.words opening, value, .words (unit ++ closing)], [])
    if enclosed then needSymbol ")"
    let seed ← sampleSeed
    let offset ← match ← given (keyword "OFFSET") rules.expr with
      | some e => pure [Piece.words " OFFSET ", .aside e]
      | none => pure []
    return [.words (" " ++ word ++ method)] ++ size ++ [.words seed] ++ behind ++ offset

/-! ### Single tables -/

/-- Settings in front of a list of pairs. -/
def settingsClause : Reader (List Piece) := do
  if !(← among [.generic]) then return []
  if !(← keyword "SETTINGS") then return []
  let pairs ← commaList do
    let name ← ident
    needSymbol "="
    return name.text ++ " = " ++ (← literal).text
  return [.words (" SETTINGS " ++ commas pairs)]

/-- The arguments of a table function behind its parenthesis. -/
def tableArguments (rules : Rules) : Reader (List Piece) := do
  if ← symbol ")" then return [.words "()"]
  let items ← commaItems true do
    match ← settingsClause with
    | [.words text] => return [.words (text.drop 1).toString]
    | _ => return (← argument rules).map Piece.hide
  needSymbol ")"
  return [.words "("] ++ joined ", " items ++ [.words ")"]

/-- A table by its name. -/
def namedTable (rules : Rules) : Reader TableRef := do
  let name ← objectName
  let partitions ← if ← both (among [.mysql, .generic]) (keyword "PARTITION") then do
      let names ← inParens (commaList ident)
      pure [Piece.words ("PARTITION (" ++ commas (names.map Ident.text) ++ ")")]
    else pure []
  let arguments ← if ← symbol "(" then tableArguments rules else pure []
  let ordinality ← if ← keywords ["WITH", "ORDINALITY"] then pure [Piece.words " WITH ORDINALITY"] else pure []
  let alias_ ← tableAlias
  let indexHints ← if ← among [.mysql] then do
      match ← attempt (many indexHint) with
      | some hints => pure (hints.map Piece.words)
      | none => pure []
    else pure []
  let hints ← if (← isKeywordAt 0 "WITH") && (← isSymbolAt 1 "(") then do
      skip 2
      let items ← commaList rules.expr
      needSymbol ")"
      pure ([Piece.words " WITH ("] ++ asides items ++ [.words ")"])
    else pure []
  let rows ← sample rules
  let table ← turned rules (← get).length
    (.table name (partitions ++ arguments ++ ordinality) alias_ (indexHints ++ hints ++ rows))
  if ← both (among [.generic]) (keyword "MATCH_RECOGNIZE") then matchedRows rules table else return table

def derivedTable (rules : Rules) (lateral : Bool) : Reader TableRef := do
  let query ← rules.query
  needSymbol ")"
  return .derived lateral query (← tableAlias)

/-- Gives an alias to a table that has none. -/
def withAlias (alias_ : TableAlias) : TableRef → Reader TableRef
  | .table name arguments none hints => return .table name arguments (some alias_) hints
  | .derived lateral query none => return .derived lateral query (some alias_)
  | .nested inner none => return .nested inner (some alias_)
  | .turned source pieces none => return .turned source pieces (some alias_)
  | .other pieces none trailer => return .other pieces (some alias_) trailer
  | _ => refuse

def isNestedJoin : TableRef → Bool
  | .nested .. | .join .. => true
  | _ => false

/-- A table in parentheses: a derived table, joined tables, or, where that is allowed, a single one. -/
def enclosedTable (rules : Rules) : Reader TableRef := do
  match ← attempt (derivedTable rules false) with
  | some table => turned rules (← get).length table
  | none =>
    let inner ← rules.tables
    if isNestedJoin inner then
      needSymbol ")"
      return .nested inner (← tableAlias)
    else if ← among [.generic] then
      needSymbol ")"
      match ← tableAlias with
      | some alias_ => withAlias alias_ inner
      | none => return inner
    else refuse

/-- A table without the ones joined to it. -/
def tableFactor (rules : Rules) (values : Reader Body) : Reader TableRef := do
  if ← keyword "LATERAL" then
    if ← symbol "(" then return ← derivedTable rules true
    let name ← objectName
    needSymbol "("
    let items ← if ← isSymbolAt 0 ")" then pure [] else commaList (argument rules)
    needSymbol ")"
    return .other ([.words ("LATERAL " ++ dotted name ++ "(")] ++ joined ", " (items.map (·.map Piece.hide)) ++
      [.words ")"]) (← tableAlias) ""
  if ← keyword "TABLE" then
    let operand ← inParens rules.expr
    return .other [.words "TABLE(", .aside operand, .words ")"] (← tableAlias) ""
  if ← symbol "(" then return ← enclosedTable rules
  if (← among [.generic]) && (← isKeywordAt 0 "VALUES") && (← isSymbolAt 1 "(") then
    skip 1
    let body ← values
    let query : Query := {
      recursive := false, ctes := [], body, orderBy := [], limit := none, offset := none, limitBy := [],
      settings := [], fetch := none, ending := [] }
    return .derived false query (← tableAlias)
  if ← both (among [.postgres, .generic]) (keyword "UNNEST") then return ← unnested rules
  if (← isKeywordAt 0 "JSON_TABLE") && (← isSymbolAt 1 "(") then
    skip 2
    return ← jsonRows rules
  if (← isKeywordAt 0 "OPENJSON") && (← isSymbolAt 1 "(") then
    skip 2
    return ← openedDocument rules
  namedTable rules

/-! ### Joins -/

/-- The words of a join other than `CROSS JOIN` and its like. -/
def joinWords : Reader (Option String) := do
  match ← peekKeyword 0 with
  | some "INNER" | some "JOIN" =>
    let inner ← keyword "INNER"
    needKeyword "JOIN"
    return if inner then "INNER JOIN" else "JOIN"
  | some "LEFT" | some "RIGHT" =>
    let side ← needOneOf ["LEFT", "RIGHT"]
    match ← needOneOf ["OUTER", "SEMI", "ANTI", "JOIN"] with
    | "JOIN" => return side ++ " JOIN"
    | kind =>
      needKeyword "JOIN"
      return side ++ " " ++ kind ++ " JOIN"
  | some "ANTI" | some "SEMI" =>
    let kind ← needOneOf ["ANTI", "SEMI"]
    needKeyword "JOIN"
    return kind ++ " JOIN"
  | some "FULL" =>
    skip 1
    let _ ← keyword "OUTER"
    needKeyword "JOIN"
    return "FULL JOIN"
  | _ => return none

/-- The condition of a join, or the columns that both tables share. -/
def joinConstraint (rules : Rules) : Reader (Option Expr × List ObjectName) := do
  if ← keyword "ON" then return (some (← rules.expr), [])
  if ← keyword "USING" then return (none, ← inParens (commaList objectName))
  return (none, [])

/-- Joins one more table to `left`. A lone `GLOBAL` is dropped. -/
def joinOne (rules : Rules) (factor : Reader TableRef) (left : TableRef) : Reader (Option TableRef) := do
  let head ← if ← keyword "GLOBAL" then pure "GLOBAL " else pure ""
  if ← keyword "CROSS" then
    let kind ← needOneOf ["JOIN", "APPLY"]
    return some (.join left (head ++ "CROSS " ++ kind) (← factor) none none [])
  if ← keyword "OUTER" then
    needKeyword "APPLY"
    return some (.join left (head ++ "OUTER APPLY") (← factor) none none [])
  if ← keyword "ASOF" then
    needKeyword "JOIN"
    let right ← factor
    needKeyword "MATCH_CONDITION"
    let matching ← inParens rules.expr
    let (on, names) ← joinConstraint rules
    return some (.join left (head ++ "ASOF JOIN") right (some matching) on names)
  if ← keyword "NATURAL" then
    match ← joinWords with
    | some words => return some (.join left (head ++ "NATURAL " ++ words) (← factor) none none [])
    | none => refuse
  match ← joinWords with
  | none => return none
  | some words =>
    let right ← factor
    let (on, names) ← joinConstraint rules
    return some (.join left (head ++ words) right none on names)

def joins (rules : Rules) (factor : Reader TableRef) : Nat → TableRef → Reader TableRef
  | 0, left => return left
  | fuel + 1, left => do
    match ← joinOne rules factor left with
    | some table => joins rules factor fuel table
    | none => return left

/-- A table and the tables joined to it. -/
def joinedTables (rules : Rules) (values : Reader Body) : Reader TableRef := do
  let factor := tableFactor rules values
  let first ← factor
  joins rules factor ((← get).length + 1) first

end Grammar
end Sql
end ShardRouting
