import ShardRouting.Sql.Grammar.Tables

/-! Queries: selections, rows of values, set operations, and the clauses around them. -/

namespace ShardRouting
namespace Sql
namespace Grammar

/-! ### What is selected -/

/-- Columns left out of a wildcard or changed in it. -/
def wildcardOptions (rules : Rules) : Reader (List Piece) := do
  if !(← among [.generic]) then return []
  let pattern ← if ← keyword "ILIKE" then
      match (← take).token with
      | .string .single content => pure [Piece.words (" ILIKE " ++ QuoteStyle.text .single content)]
      | _ => refuse
    else pure []
  let names (word : String) : Reader (List Piece) := do
    if !(← keyword word) then return []
    if ← isSymbolAt 0 "(" then
      let names ← columnNames
      return [.words (" " ++ word ++ " (" ++ commas (names.map Ident.text) ++ ")")]
    let name ← ident
    return [.words (" " ++ word ++ " " ++ (if word = "EXCEPT" then "(" ++ name.text ++ ")" else name.text))]
  let exclude ← if pattern.isEmpty then names "EXCLUDE" else pure []
  let except ← names "EXCEPT"
  let replace ← if ← keyword "REPLACE" then do
      let items ← inParens (commaList do
        let value ← rules.expr
        let as ← keyword "AS"
        return [Piece.aside value, .words ((if as then " AS " else " ") ++ (← ident).text)])
      pure ([Piece.words " REPLACE ("] ++ joined ", " items ++ [.words ")"])
    else pure []
  let rename ← if ← keyword "RENAME" then do
      let item : Reader String := do
        let name ← ident
        needKeyword "AS"
        return name.text ++ " AS " ++ (← ident).text
      if ← isSymbolAt 0 "(" then
        pure [Piece.words (" RENAME (" ++ commas (← inParens (commaList item)) ++ ")")]
      else pure [Piece.words (" RENAME " ++ (← item))]
    else pure []
  return pattern ++ exclude ++ except ++ replace ++ rename

/-- One item of a selection. The keyword `FROM` is none. -/
def selectItem (rules : Rules) : Reader Expr := do
  match ← wildcardOr rules with
  | .wildcard text => return .form (.words text :: (← wildcardOptions rules))
  | .expr operand =>
    if let .ident { value, quote := none } := operand then
      if Text.lower value = "from" then refuse
    match ← optionalAlias columnReserved.contains with
    | some alias_ => return .form [.part operand, .words (" AS " ++ alias_.text)]
    | none => return operand

/-- `TOP` with its quantity. -/
def topClause (rules : Rules) : Reader (List Piece) := do
  if !(← keyword "TOP") then return []
  let quantity ← if ← isSymbolAt 0 "(" then do
      let e ← inParens rules.expr
      pure [Piece.words " TOP (", .aside e, .words ")"]
    else pure [Piece.words (" TOP " ++ toString (← natural))]
  let percent ← if ← keyword "PERCENT" then pure " PERCENT" else pure ""
  let ties ← if ← keywords ["WITH", "TIES"] then pure " WITH TIES" else pure ""
  return quantity ++ [.words (percent ++ ties)]

/-- `DISTINCT`, on all columns or on some; `ALL` is dropped. -/
def distinctClause (rules : Rules) : Reader (List Piece) := do
  let all ← keyword "ALL"
  if !(← keyword "DISTINCT") then return []
  if all then refuse
  if !(← keyword "ON") then return [.words " DISTINCT"]
  needSymbol "("
  let items ← if ← isSymbolAt 0 ")" then pure [] else commaList rules.expr
  needSymbol ")"
  return [.words " DISTINCT ON ("] ++ asides items ++ [.words ")"]

def intoClause : Reader (List Piece) := do
  if !(← keyword "INTO") then return []
  let temporary ← match ← oneOf ["TEMP", "TEMPORARY"] with
    | some _ => pure " TEMPORARY"
    | none => pure ""
  let unlogged ← if ← keyword "UNLOGGED" then pure " UNLOGGED" else pure ""
  let table ← if ← keyword "TABLE" then pure " TABLE" else pure ""
  return [.words (" INTO" ++ temporary ++ unlogged ++ table ++ " " ++ dotted (← objectName))]

/-! ### Clauses of a selection -/

def lateralView (rules : Rules) : Reader (List Piece) := do
  let outer ← if ← keyword "OUTER" then pure " OUTER" else pure ""
  let rows ← rules.expr
  let name ← objectName
  let columns ← commaList
    (optionalAlias ["WHERE", "GROUP", "CLUSTER", "HAVING", "LATERAL"].contains)
  let columns := columns.filterMap (·.map Ident.text)
  return [.words (" LATERAL VIEW" ++ outer ++ " "), .aside rows, .words (" " ++ dotted name ++
    (if columns.isEmpty then "" else " AS " ++ commas columns))]

/-- Expressions in parentheses; where `lone` is set, one of them needs none. -/
def groupingSet (rules : Rules) (lone : Bool) : Reader (List Expr) := do
  if lone && !(← isSymbolAt 0 "(") then return [← rules.expr]
  needSymbol "("
  if ← symbol ")" then return []
  let items ← commaList rules.expr
  needSymbol ")"
  return items

/-- Sets of expressions to group by. Where `bare` is set, a set of one is printed without parentheses. -/
def groupingSets (rules : Rules) (words : String) (lone bare : Bool) : Reader Expr := do
  let sets ← inParens (commaList (groupingSet rules lone))
  let texts := sets.map fun set => match bare, set with
    | true, [e] => [Piece.part e]
    | _, _ => [Piece.words "("] ++ parts set ++ [.words ")"]
  return .form ([.words (words ++ " (")] ++ joined ", " texts ++ [.words ")"])

def groupItem (rules : Rules) : Reader Expr := do
  if ← among [.postgres, .generic] then
    if ← keywords ["GROUPING", "SETS"] then return ← groupingSets rules "GROUPING SETS" false false
    if ← keyword "CUBE" then return ← groupingSets rules "CUBE" true true
    if ← keyword "ROLLUP" then return ← groupingSets rules "ROLLUP" true true
    if (← isSymbolAt 0 "(") && (← isSymbolAt 1 ")") then
      skip 2
      return .form [.words "()"]
  rules.expr

def groupModifier : Reader (Option Piece) := do
  if !(← keyword "WITH") then return none
  return some (.words (" WITH " ++ (← needOneOf ["ROLLUP", "CUBE", "TOTALS"])))

def groupClause (rules : Rules) : Reader (List Expr × List Piece) := do
  if !(← keywords ["GROUP", "BY"]) then return ([], [])
  let items ← if ← keyword "ALL" then pure [.form [.words "ALL"]] else commaList (groupItem rules)
  let modifiers ← if ← among [.generic] then many groupModifier else pure []
  let sets ← match ← given (keywords ["GROUPING", "SETS"]) (groupingSets rules "GROUPING SETS" true false) with
    | some sets => pure [Piece.words " ", .aside sets]
    | none => pure []
  return (items, modifiers ++ sets)

/-- Expressions behind two keywords. -/
def exprsBehind (rules : Rules) (words : List String) : Reader (List Expr) := do
  if ← keywords words then commaList rules.expr else return []

def namedWindows (rules : Rules) : Reader (List Piece) := do
  let items ← commaList do
    let name ← ident
    needKeyword "AS"
    let head : Piece := .words (name.text ++ " AS ")
    if ← symbol "(" then return head :: (← window rules)
    if ← among [.generic] then return [head, .words (← ident).text]
    refuse
  return clausePieces "WINDOW" items

/-- Named windows and `QUALIFY`, in either order. -/
def windowClauses (rules : Rules) : Reader (List Piece × Option Expr × List Piece) := do
  if ← keyword "WINDOW" then
    let windows ← namedWindows rules
    return (windows, ← given (keyword "QUALIFY") rules.expr, [])
  if ← keyword "QUALIFY" then
    let condition ← rules.expr
    return ([], some condition, (← given (keyword "WINDOW") (namedWindows rules)).getD [])
  return ([], none, [])

def connectClause (rules : Rules) : Reader (List Piece) := do
  if !(← among [.generic]) then return []
  let links : Reader (List Expr) :=
    withReader (fun setting => { setting with connecting := true }) (commaList rules.expr)
  let pieces (start : Expr) (links : List Expr) : List Piece :=
    [.words " START WITH ", .aside start, .words " CONNECT BY "] ++ asides links
  match ← peekKeyword 0 with
  | some "CONNECT" =>
    needKeywords ["CONNECT", "BY"]
    let found ← links
    needKeywords ["START", "WITH"]
    return pieces (← rules.expr) found
  | some "START" =>
    needKeywords ["START", "WITH"]
    let start ← rules.expr
    needKeywords ["CONNECT", "BY"]
    return pieces start (← links)
  | _ => return []

/-- The tables of a selection; no comma may stand behind the last one. -/
def fromTables (rules : Rules) : Reader (List TableRef) := commaItems false rules.tables

def selection (rules : Rules) : Reader Select := do
  needKeyword "SELECT"
  let distinct ← distinctClause rules
  let top ← topClause rules
  let projection ← if (← among [.postgres, .generic]) && (← isKeywordAt 0 "FROM") then pure []
    else commaList (selectItem rules)
  let into ← intoClause
  let from_ ← given (keyword "FROM") (fromTables rules)
  let views ← many (given (keywords ["LATERAL", "VIEW"]) (lateralView rules))
  let prewhere ← if ← among [.generic] then given (keyword "PREWHERE") rules.expr else pure none
  let selection ← given (keyword "WHERE") rules.expr
  let (groupBy, groupTail) ← groupClause rules
  let clusterBy ← exprsBehind rules ["CLUSTER", "BY"]
  let distributeBy ← exprsBehind rules ["DISTRIBUTE", "BY"]
  let sortBy ← exprsBehind rules ["SORT", "BY"]
  let having ← given (keyword "HAVING") rules.expr
  let (windowsBefore, qualify, windowsAfter) ← windowClauses rules
  let connectBy ← connectClause rules
  return {
    head := distinct ++ top, projection, into, from_ := from_.getD [], views := views.flatten, prewhere,
    selection, groupBy, groupTail, clusterBy, distributeBy, sortBy, having, windowsBefore, qualify,
    windowsAfter, connectBy }

/-! ### Bodies -/

/-- Rows of values. -/
def valuesBody (rules : Rules) (emptyRows : Bool) : Reader Body := do
  let rows ← commaList do
    let explicitRow ← keyword "ROW"
    needSymbol "("
    let items ← if (← isSymbolAt 0 ")") && emptyRows then pure [] else commaList rules.expr
    needSymbol ")"
    return (explicitRow, items)
  return .values (rows.any (·.1)) (rows.map (·.2))

/-- A table as a whole. Three tokens are taken, whatever the last one is. -/
def tableBody : Reader Body := do
  let first ← peekToken 0
  let qualified ← isSymbolAt 1 "."
  let last ← peekToken 2
  skip 3
  match first, qualified, last with
  | some (.word schema _), true, some (.word name _) => return .table (some schema) name
  | some (.word name _), false, _ => return .table none name
  | _, _, _ => refuse

/-- How the rows of two queries are put together, and how tightly. -/
def setOperator? (word : String) : Option Nat :=
  match word with
  | "UNION" | "EXCEPT" | "MINUS" => some 10
  | "INTERSECT" => some 20
  | _ => none

/-- The words behind a set operator. -/
def setQuantifier : Reader String := do
  let head ← match ← oneOf ["ALL", "DISTINCT"] with
    | some word => pure (" " ++ word)
    | none => pure ""
  if ← keywords ["BY", "NAME"] then return head ++ " BY NAME" else return head

/-- Goes on with set operators that bind more tightly than `rank`. -/
def setOperations (rules : Rules) (rank : Nat) : Nat → Body → Reader Body
  | 0, left => return left
  | fuel + 1, left => do
    match ← peekKeyword 0 with
    | none => return left
    | some word => match setOperator? word with
      | none => return left
      | some next =>
        if next ≤ rank then return left
        skip 1
        let quantifier ← setQuantifier
        let right ← rules.body next
        setOperations rules rank fuel (.setOperation left (word ++ quantifier) right)

/-- The body of a query whose set operators bind more tightly than `rank`. -/
def queryBody (rules : Rules) (rank : Nat) : Reader Body := do
  let first ← if ← isKeywordAt 0 "SELECT" then
      pure (Body.select (← selection rules))
    else if ← isSymbolAt 0 "(" then
      pure (.query (← inParens rules.query))
    else if ← keyword "VALUES" then valuesBody rules (← among [.mysql])
    else if ← keyword "TABLE" then tableBody
    else refuse
  setOperations rules rank ((← get).length + 1) first

/-! ### Queries -/

/-- A query with a name. -/
def cte (rules : Rules) : Reader Cte := do
  let name ← ident
  let columns ← if ← isKeywordAt 0 "AS" then pure [] else aliasColumns
  needKeyword "AS"
  let materialized ← if ← among [.postgres] then
      if ← keyword "MATERIALIZED" then pure "MATERIALIZED "
      else if ← keywords ["NOT", "MATERIALIZED"] then pure "NOT MATERIALIZED "
      else pure ""
    else pure ""
  let query ← inParens rules.query
  let source ← given (keyword "FROM") ident
  return { alias_ := { name, columns }, keyword := materialized, query, source }

/-- How missing rows are made up. -/
def interpolation (rules : Rules) : Reader (List Piece) := do
  if !(← among [.generic]) then return []
  if !(← keyword "INTERPOLATE") then return []
  if !(← symbol "(") then return [.words " INTERPOLATE"]
  let items ← commaListBefore ")" do
    let name ← ident
    match ← given (keyword "AS") rules.expr with
    | some e => return [Piece.words (name.text ++ " AS "), .aside e]
    | none => return [Piece.words name.text]
  needSymbol ")"
  return [.words " INTERPOLATE ("] ++ joined ", " items ++ [.words ")"]

/-- Adds pieces behind the last of some expressions. -/
def appendToLast (pieces : List Piece) : List Expr → List Expr
  | [] => []
  | [e] => [.form (.part e :: pieces)]
  | e :: es => e :: appendToLast pieces es

def orderClause (rules : Rules) : Reader (List Expr) := do
  if !(← keywords ["ORDER", "BY"]) then return []
  let items ← commaList (orderItem rules)
  match ← interpolation rules with
  | [] => return items
  | pieces => return appendToLast pieces items

/-- The number of rows; `ALL` is no limit. -/
def limitValue (rules : Rules) : Reader (Option Expr) := do
  if ← keyword "ALL" then return none else return some (← rules.expr)

def offsetValue (rules : Rules) : Reader Expr := do
  let value ← rules.expr
  match ← oneOf ["ROW", "ROWS"] with
  | some word => return .form [.part value, .words (" " ++ word)]
  | none => return value

/-- `LIMIT` and `OFFSET` in either order, or both in one clause with a comma. -/
def limitClauses (rules : Rules) : Nat → Option Expr → Option Expr → Reader (Option Expr × Option Expr)
  | 0, limit, offset => return (limit, offset)
  | fuel + 1, limit, offset => do
    let limit ← if ← both (return limit.isNone) (keyword "LIMIT") then limitValue rules else pure limit
    let offset ← if ← both (return offset.isNone) (keyword "OFFSET") then pure (some (← offsetValue rules))
      else pure offset
    let pairs ← among [.mysql, .generic, .sqlite]
    if ← both (return pairs && limit.isSome && offset.isNone) (symbol ",") then
      let rows ← rules.expr
      limitClauses rules fuel (some rows) limit
    else limitClauses rules fuel limit offset

def fetchClause : Reader (Option Expr) := do
  if !(← keyword "FETCH") then return none
  let _ ← oneOf ["FIRST", "NEXT"]
  let head ← match ← oneOf ["ROW", "ROWS"] with
    | some _ => pure [Piece.words "FETCH FIRST"]
    | none => do
      let quantity ← literal
      let percent ← if ← keyword "PERCENT" then pure " PERCENT" else pure ""
      let _ ← oneOf ["ROW", "ROWS"]
      pure [Piece.words "FETCH FIRST ", .part (.literal quantity), .words percent]
  let ties ← if ← keyword "ONLY" then pure false else keywords ["WITH", "TIES"]
  return some (.form (head ++ [.words (if ties then " ROWS WITH TIES" else " ROWS ONLY")]))

/-- Locks on the rows that are read. -/
def lockClause : Reader (Option Piece) := do
  if (← peekKeyword 1).any ["BROWSE", "XML", "JSON"].contains then return none
  if !(← keyword "FOR") then return none
  let kind ← needOneOf ["UPDATE", "SHARE"]
  let table ← match ← given (keyword "OF") objectName with
    | some name => pure (" OF " ++ dotted name)
    | none => pure ""
  let waiting ← if ← keyword "NOWAIT" then pure " NOWAIT"
    else if ← keywords ["SKIP", "LOCKED"] then pure " SKIP LOCKED"
    else pure ""
  return some (.words (" FOR " ++ kind ++ table ++ waiting))

/-- A name in parentheses, in quotes. -/
def quotedName : Reader String := return "('" ++ (← inParens stringText) ++ "')"

/-- The options of a document, each behind a comma; the last name of the root counts. An option that is
    none of them is left where it is. -/
def documentOptions (flags : List (List String)) : Reader (List (List String) × String) := do
  let options ← many (given (symbol ",") do
    if ← keyword "ROOT" then return ([], some (← quotedName))
    for words in flags do
      match ← given (keyword (words.headD "")) (need (keywords (words.drop 1))) with
      | some _ => return (words, none)
      | none => pure ()
    return ([], none))
  let root := (options.filterMap (·.2)).getLast?
  return (options.map (·.1), root.elim "" (", ROOT" ++ ·))

/-- The form in which rows are given: for browsing, or as a document. -/
def shapeClause : Reader (List Piece) := do
  if !(← keyword "FOR") then return []
  let flag (found : List (List String)) (words : List String) : String :=
    if found.contains words then ", " ++ " ".intercalate words else ""
  match ← needOneOf ["BROWSE", "XML", "JSON"] with
  | "XML" =>
    let shape ← needOneOf ["RAW", "AUTO", "EXPLICIT", "PATH"]
    let named := (shape = "RAW" || shape = "PATH") && (← isSymbolAt 0 "(")
    let name ← if named then quotedName else pure ""
    let (found, root) ← documentOptions [["ELEMENTS"], ["BINARY", "BASE64"], ["TYPE"]]
    return [.words (" FOR XML " ++ shape ++ name ++ flag found ["BINARY", "BASE64"] ++ flag found ["TYPE"] ++
      root ++ flag found ["ELEMENTS"])]
  | "JSON" =>
    let shape ← needOneOf ["AUTO", "PATH"]
    let (found, root) ← documentOptions [["INCLUDE_NULL_VALUES"], ["WITHOUT_ARRAY_WRAPPER"]]
    return [.words (" FOR JSON " ++ shape ++ root ++ flag found ["INCLUDE_NULL_VALUES"] ++
      flag found ["WITHOUT_ARRAY_WRAPPER"])]
  | _ => return [.words " FOR BROWSE"]

def formatClause : Reader (List Piece) := do
  if !(← among [.generic]) then return []
  if !(← keyword "FORMAT") then return []
  if ← keyword "NULL" then return [.words " FORMAT NULL"]
  return [.words (" FORMAT " ++ (← ident).text)]

def fullQuery (rules : Rules) : Reader Query := deeper do
  let (recursive, ctes) ← if ← keyword "WITH" then do
      let recursive ← keyword "RECURSIVE"
      pure (recursive, ← commaList (cte rules))
    else pure (false, [])
  let bare (body : Body) : Query := {
    recursive, ctes, body, orderBy := [], limit := none, offset := none, limitBy := [], settings := [],
    fetch := none, ending := [] }
  if ← keyword "INSERT" then return bare (.statement (← rules.insert))
  if ← keyword "UPDATE" then return bare (.statement (.update (← rules.update)))
  let body ← rules.body 0
  let orderBy ← orderClause rules
  let (limit, offset) ← limitClauses rules 2 none none
  let limitBy ← if ← among [.generic] then exprsBehind rules ["BY"] else pure []
  let settings ← settingsClause
  let fetch ← fetchClause
  let locks ← many lockClause
  let shape ← shapeClause
  let format ← formatClause
  return {
    recursive, ctes, body, orderBy, limit, offset, limitBy, settings, fetch,
    ending := locks ++ shape ++ format }

end Grammar
end Sql
end ShardRouting
