import ShardRouting.Sql.Grammar.Expressions

/-! What stands for a table without being one: nested arrays, rows of a JSON document, and tables whose
    rows and columns are turned. The aliases of tables are here as well. -/

namespace ShardRouting
namespace Sql
namespace Grammar

/-! ### Aliases -/

def tableReserved : List String :=
  ["WITH", "EXPLAIN", "ANALYZE", "SELECT", "WHERE", "GROUP", "SORT", "HAVING", "ORDER", "PIVOT", "UNPIVOT",
    "TOP", "LATERAL", "VIEW", "LIMIT", "OFFSET", "FETCH", "UNION", "EXCEPT", "INTERSECT", "MINUS", "ON",
    "JOIN", "INNER", "CROSS", "FULL", "LEFT", "RIGHT", "NATURAL", "USING", "CLUSTER", "DISTRIBUTE",
    "GLOBAL", "ANTI", "SEMI", "RETURNING", "ASOF", "MATCH_CONDITION", "OUTER", "SET", "QUALIFY", "WINDOW",
    "END", "FOR", "PARTITION", "PREWHERE", "SETTINGS", "FORMAT", "START", "CONNECT", "MATCH_RECOGNIZE",
    "SAMPLE", "TABLESAMPLE", "FROM"]

/-- Words that begin index hints. -/
def hintWords : List String := ["USE", "IGNORE", "FORCE"]

/-- Columns in parentheses behind an alias. -/
def aliasColumns : Reader (List AliasColumn) := do
  if !(← isSymbolAt 0 "(") then return []
  inParens (commaList do
    let name ← ident
    let type ← attempt dataType
    return { name, type := type.map (·.text) })

def tableAlias : Reader (Option TableAlias) := do
  let mysql ← among [.mysql]
  match ← optionalAlias (fun word => tableReserved.contains word || (mysql && hintWords.contains word)) with
  | some name => return some { name, columns := ← aliasColumns }
  | none => return none

/-! ### Arrays and documents -/

/-- The rows of nested arrays. A `WITH` that no `OFFSET` follows is dropped. -/
def unnested (rules : Rules) : Reader TableRef := do
  let arrays ← inParens (commaList rules.expr)
  let ordinality ← if ← keywords ["WITH", "ORDINALITY"] then pure " WITH ORDINALITY" else pure ""
  let alias_ ← tableAlias
  let offset ← if ← both (keyword "WITH") (keyword "OFFSET") then do
      match ← optionalAlias columnReserved.contains with
      | some name => pure (" WITH OFFSET AS " ++ name.text)
      | none => pure " WITH OFFSET"
    else pure ""
  return .other ([.words "UNNEST("] ++ asides arrays ++ [.words (")" ++ ordinality)]) alias_ offset

/-- What a column of a JSON document holds when its path finds nothing, or fails. -/
def jsonFallback : Reader (Option (String × Bool)) := do
  let value ← match ← oneOf ["NULL", "ERROR", "DEFAULT"] with
    | none => return none
    | some "DEFAULT" => pure ("DEFAULT " ++ (← literal).text)
    | some word => pure word
  needKeyword "ON"
  return some (value, (← needOneOf ["EMPTY", "ERROR"]) = "EMPTY")

/-- One column of a JSON document; columns may nest `fuel` times. -/
def jsonColumn : Nat → Reader String
  | 0 => refuse
  | fuel + 1 => do
    if ← keyword "NESTED" then
      let _ ← keyword "PATH"
      let path ← literal
      needKeyword "COLUMNS"
      let columns ← inParens (commaList (jsonColumn fuel))
      return "NESTED PATH " ++ path.text ++ " COLUMNS (" ++ commas columns ++ ")"
    let name ← ident
    if ← keyword "FOR" then
      needKeyword "ORDINALITY"
      return name.text ++ " FOR ORDINALITY"
    let type ← dataType
    let tested ← if ← keyword "EXISTS" then pure " EXISTS" else pure ""
    needKeyword "PATH"
    let path ← literal
    let fallbacks ← many jsonFallback
    let last (onEmpty : Bool) (words : String) : String :=
      match (fallbacks.filter (·.2 = onEmpty)).getLast? with
      | some (value, _) => " " ++ value ++ words
      | none => ""
    return name.text ++ " " ++ type.text ++ tested ++ " PATH " ++ path.text ++ last true " ON EMPTY" ++
      last false " ON ERROR"

/-- The rows of a JSON document, behind the opening parenthesis. -/
def jsonRows (rules : Rules) : Reader TableRef := do
  let document ← rules.expr
  needSymbol ","
  let path ← literal
  needKeyword "COLUMNS"
  let columns ← inParens (commaList (jsonColumn (← get).length))
  needSymbol ")"
  return .other [.words "JSON_TABLE(", .aside document,
    .words (", " ++ path.text ++ " COLUMNS(" ++ commas columns ++ "))")] (← tableAlias) ""

/-- A column of a document that is opened as a table. -/
def documentColumn : Reader String := do
  let name ← ident
  let type ← dataType
  let path ← match ← peekToken 0 with
    | some (.string .single path) => do
      skip 1
      pure (" " ++ QuoteStyle.text .single path)
    | _ => pure ""
  let json ← if ← keyword "AS" then do
      needKeyword "JSON"
      pure " AS JSON"
    else pure ""
  return name.text ++ " " ++ type.text ++ path ++ json

/-- The entries of a JSON document, behind the opening parenthesis. -/
def openedDocument (rules : Rules) : Reader TableRef := do
  let document ← rules.expr
  let path ← match ← given (symbol ",") literal with
    | some path => pure (", " ++ path.text)
    | none => pure ""
  needSymbol ")"
  let columns ← match ← given (keyword "WITH") (inParens (commaList documentColumn)) with
    | some columns => pure (" WITH (" ++ commas columns ++ ")")
    | none => pure ""
  return .other [.words "OPENJSON(", .aside document, .words (path ++ ")" ++ columns)] (← tableAlias) ""

/-! ### Turned tables -/

/-- An alias behind `AS`, if it is there. -/
def explicitAlias : Reader (List Piece) := do
  match ← given (keyword "AS") ident with
  | some name => return [.words (" AS " ++ name.text)]
  | none => return []

/-- The values that become columns, with the parentheses around them. -/
def pivotValues (rules : Rules) : Reader (List Piece) := inParens do
  let enclosed (pieces : List Piece) : List Piece := [.words "("] ++ pieces ++ [.words ")"]
  if ← keyword "ANY" then
    if !(← keywords ["ORDER", "BY"]) then return enclosed [.words "ANY"]
    return enclosed (.words "ANY ORDER BY " :: asides (← commaList (orderItem rules)))
  if (← isKeywordAt 0 "SELECT") || (← isKeywordAt 0 "WITH") then
    return [.aside (.subquery (← rules.query))]
  return enclosed (joined ", " (← commaList do return .aside (← rules.expr) :: (← explicitAlias)))

/-- Turns rows of `table` into columns. -/
def pivoted (rules : Rules) (table : TableRef) : Reader TableRef := do
  needSymbol "("
  let totals ← commaList do
    match (← take).token with
    | .word value _ => return .aside (← call rules [{ value, quote := none }]) :: (← explicitAlias)
    | _ => refuse
  needKeyword "FOR"
  let column ← objectName
  needKeyword "IN"
  let values ← pivotValues rules
  let filler ← if ← keywords ["DEFAULT", "ON", "NULL"] then do
      pure [Piece.words " DEFAULT ON NULL (", .aside (← inParens rules.expr), .words ")"]
    else pure []
  needSymbol ")"
  return .turned table ([.words " PIVOT("] ++ joined ", " totals ++
    [.words (" FOR " ++ dotted column ++ " IN ")] ++ values ++ filler ++ [.words ")"]) (← tableAlias)

/-- Turns columns of `table` into rows. -/
def unpivoted (table : TableRef) : Reader TableRef := do
  needSymbol "("
  let value ← ident
  needKeyword "FOR"
  let name ← ident
  needKeyword "IN"
  let columns ← columnNames
  needSymbol ")"
  return .turned table [.words (" UNPIVOT(" ++ value.text ++ " FOR " ++ name.text ++ " IN (" ++
    commas (columns.map Ident.text) ++ "))")] (← tableAlias)

/-- Turns `table` as often as words for it follow. -/
def turned (rules : Rules) : Nat → TableRef → Reader TableRef
  | 0, table => return table
  | fuel + 1, table => do
    match ← oneOf ["PIVOT", "UNPIVOT"] with
    | some "PIVOT" => turned rules fuel (← pivoted rules table)
    | some _ => turned rules fuel (← unpivoted table)
    | none => return table

end Grammar
end Sql
end ShardRouting
