import ShardRouting.Sql.Grammar.Maintenance

/-! Statements, and the rules that tie all readers together. -/

namespace ShardRouting
namespace Sql
namespace Grammar

/-! ### Changes of rows -/

/-- What becomes of rows that conflict with others. -/
def conflictClause : Reader String := do
  for action in ["REPLACE", "ROLLBACK", "ABORT", "FAIL", "IGNORE"] do
    if ← keywords ["OR", action] then return "OR " ++ action
  if ← keyword "REPLACE" then return "OR REPLACE" else return ""

def returningClause (rules : Rules) : Reader (List Piece) := do
  match ← given (keyword "RETURNING") (commaList (selectItem rules)) with
  | some items => return .words " RETURNING " :: asides items
  | none => return []

/-- What is done when a row is there already. -/
def onClause (rules : Rules) : Reader (List Piece) := do
  if !(← keyword "ON") then return []
  if ← keyword "CONFLICT" then
    let target ← if ← keywords ["ON", "CONSTRAINT"] then pure (" ON CONSTRAINT " ++ dotted (← objectName))
      else if ← isSymbolAt 0 "(" then pure ("(" ++ commas ((← columnNames).map Ident.text) ++ ")")
      else pure ""
    needKeyword "DO"
    if ← keyword "NOTHING" then return [.words (" ON CONFLICT" ++ target ++ " DO NOTHING")]
    needKeywords ["UPDATE", "SET"]
    let items ← commaList (assignment rules)
    let condition ← match ← given (keyword "WHERE") rules.expr with
      | some e => pure [Piece.words " WHERE ", .aside e]
      | none => pure []
    return .words (" ON CONFLICT" ++ target ++ " DO UPDATE SET ") :: asides items ++ condition
  needKeywords ["DUPLICATE", "KEY", "UPDATE"]
  return .words " ON DUPLICATE KEY UPDATE " :: asides (← commaList (assignment rules))

/-- The names that the new rows go by. -/
def rowAlias : Reader (List Piece) := do
  if !(← both (among [.mysql, .generic]) (keyword "AS")) then return []
  let name ← objectName
  let columns ← columnNamesIfAny
  let text := if columns.isEmpty then "" else " (" ++ commas (columns.map Ident.text) ++ ")"
  return [.words (" AS " ++ dotted name ++ text)]

/-- The words from the first one to the table; none where the rows go to a directory. -/
def insertHead (replacing : Bool) : Reader (Option String) := do
  let conflict ← if ← both (return replacing) (among [.sqlite]) then pure "OR REPLACE" else conflictClause
  let words ← if ← among [.mysql, .generic] then do
      let priority ← match ← oneOf ["LOW_PRIORITY", "DELAYED", "HIGH_PRIORITY"] with
        | some word => pure (" " ++ word)
        | none => pure ""
      let ignore ← if ← keyword "IGNORE" then pure " IGNORE" else pure ""
      pure (priority ++ ignore)
    else pure ""
  let overwrite ← if ← keyword "OVERWRITE" then pure " OVERWRITE" else pure ""
  let into ← if ← keyword "INTO" then pure " INTO" else pure ""
  let _ ← keyword "LOCAL"
  if ← keyword "DIRECTORY" then return none
  let table ← if ← keyword "TABLE" then pure " TABLE" else pure ""
  if !conflict.isEmpty then return some ("INSERT " ++ conflict ++ " INTO")
  return some ((if replacing then "REPLACE" else "INSERT") ++ words ++ overwrite ++ into ++ table)

/-- Behind the head of an insertion into a table. -/
def insertBody (rules : Rules) (head : String) : Reader Insert := do
  let target ← objectName
  let alias_ ← if ← both (among [.postgres]) (keyword "AS") then pure (some (← ident)) else pure none
  let defaults ← keywords ["DEFAULT", "VALUES"]
  let queried := (← isSymbolAt 0 "(") && (← isKeywordAt 1 "SELECT")
  let columns ← if defaults || queried || !(← isSymbolAt 0 "(") then pure []
    else if (← among [.mysql]) && (← isSymbolAt 1 ")") then do
      skip 2
      pure []
    else columnNames
  let middle ← if ← both (return !defaults && !queried) (keyword "PARTITION") then do
      let items ← inParens (commaList rules.expr)
      pure ([Piece.words "PARTITION ("] ++ asides items ++ [.words ") "])
    else pure []
  let (source, rest) ← if defaults then pure (none, [Piece.words "DEFAULT VALUES"])
    else if ← both (among [.mysql]) (keyword "SET") then
      pure (none, Piece.words "SET " :: asides (← commaList (assignment rules)))
    else pure (some (← rules.query), [])
  let names ← rowAlias
  let on ← onClause rules
  let returning ← returningClause rules
  return { head, target, alias_, columns, middle, source, trailer := rest ++ names ++ on ++ returning }

/-- Behind `INSERT` or `REPLACE`. -/
def insertStatement (rules : Rules) (replacing : Bool) : Reader Statement := do
  match ← insertHead replacing with
  | some head => return .insert (← insertBody rules head)
  | none =>
    discard stringText
    optionally (keywords ["STORED", "AS"]) fileFormat
    discard rules.query
    return .other

/-- Behind `UPDATE`. In the dialect without tables behind the assignments, a lone `FROM` is dropped. -/
def updateStatement (rules : Rules) : Reader Update := do
  let conflict ← match ← conflictClause with
    | "" => pure ""
    | words => pure (words ++ " ")
  let table ← rules.tables
  let before ← given (keyword "FROM") (fromTables rules)
  needKeyword "SET"
  let assignments ← commaList (assignment rules)
  let behind := both (both (return before.isNone) (keyword "FROM")) (among [.generic, .postgres, .sqlite])
  let fromAfter ← if ← behind then fromTables rules else pure []
  let selection ← given (keyword "WHERE") rules.expr
  let returning ← returningClause rules
  return { conflict, table, fromBefore := before.getD [], assignments, fromAfter, selection, returning }

/-- Behind `DELETE`. -/
def deleteStatement (rules : Rules) : Reader Delete := do
  let (targets, fromKeyword) ← if ← keyword "FROM" then pure ([], true)
    else if ← among [.generic] then pure ([], false)
    else do
      let names ← commaList objectName
      needKeyword "FROM"
      pure (names, true)
  let from_ ← commaList rules.tables
  let using_ ← given (keyword "USING") (commaList rules.tables)
  let selection ← given (keyword "WHERE") rules.expr
  let returning ← returningClause rules
  let orderBy ← if ← keywords ["ORDER", "BY"] then commaList (orderItem rules) else pure []
  let limit ← if ← keyword "LIMIT" then limitValue rules else pure none
  return { targets, fromKeyword, from_, using_, selection, returning, orderBy, limit }

/-! ### Statements -/

/-- The reader of what follows the first word of a statement that is neither a query nor a change of rows,
    where it does not depend on the dialect. -/
def otherRest? (rules : Rules) (word : String) : Option (Reader Unit) :=
  match word with
  | "CREATE" => some (createStatement rules)
  | "ALTER" => some (alterStatement rules)
  | "DROP" => some (dropStatement rules)
  | "TRUNCATE" => some (truncateStatement rules)
  | "RENAME" => some renameStatement
  | "GRANT" => some grantStatement
  | "REVOKE" => some revokeStatement
  | "SET" => some (setStatement rules)
  | "SHOW" => some (showStatement rules)
  | "USE" => some (discard objectName)
  | "START" => some (needKeyword "TRANSACTION" *> anyTransactionModes)
  | "BEGIN" => some beginStatement
  | "COMMIT" | "END" => some transactionEnd
  | "ROLLBACK" => some rollbackStatement
  | "SAVEPOINT" => some (discard ident)
  | "RELEASE" => some (allow ["SAVEPOINT"] *> discard ident)
  | "DECLARE" => some (declareStatement rules)
  | "FETCH" => some fetchStatement
  | "CLOSE" => some closeStatement
  | "PREPARE" => some (prepareStatement rules)
  | "EXECUTE" | "EXEC" => some (executeStatement rules)
  | "DEALLOCATE" => some (allow ["PREPARE"] *> discard ident)
  | "DESC" | "DESCRIBE" | "EXPLAIN" => some (explainStatement rules word)
  | "ANALYZE" => some (analyzeStatement rules)
  | "ATTACH" => some (attachStatement rules)
  | "MSCK" => some repairStatement
  | "CACHE" => some (cacheStatement rules)
  | "UNCACHE" => some uncacheStatement
  | "KILL" => some killStatement
  | "FLUSH" => some flushStatement
  | "DISCARD" => some discardStatement
  | "PRAGMA" => some pragmaStatement
  | "CALL" => some (callStatement rules)
  | "RAISERROR" => some (raiseStatement rules)
  | "ASSERT" => some (assertStatement rules)
  | "COPY" => some (copyStatement rules)
  | "UNLOAD" => some (unloadStatement rules)
  | "MERGE" => some (mergeStatement rules)
  | _ => none

/-- As `otherRest?`, with the statements that only some dialects have. -/
def otherRest (rules : Rules) (word : String) : Reader Unit := do
  match otherRest? rules word, (← read).dialect with
  | some rest, _ => rest
  | none, .postgres => match word with
    | "LISTEN" | "LOAD" => discard ident
    | "UNLISTEN" => unlistenStatement
    | "NOTIFY" => notifyStatement
    | "COMMENT" => commentStatement
    | _ => refuse
  | none, .generic => match word with
    | "INSTALL" | "LOAD" => discard ident
    | "DETACH" => detachStatement
    | "OPTIMIZE" => optimizeStatement rules
    | "COMMENT" => commentStatement
    | _ => refuse
  | none, _ => refuse

/-- One statement. -/
def statement (rules : Rules) : Reader Statement := deeper do
  if ← isSymbolAt 0 "(" then return .query (← rules.query)
  match ← peekKeyword 0 with
  | none => refuse
  | some word =>
    if ["SELECT", "WITH", "VALUES"].contains word then return .query (← rules.query)
    if ← both (among [.mysql]) (keywords ["LOCK", "TABLES"]) then
      lockTables
      return .other
    if ← both (among [.mysql]) (keywords ["UNLOCK", "TABLES"]) then return .other
    skip 1
    match word with
    | "INSERT" => insertStatement rules false
    | "REPLACE" =>
      if ← among [.postgres] then refuse
      insertStatement rules true
    | "UPDATE" => return .update (← updateStatement rules)
    | "DELETE" => return .delete (← deleteStatement rules)
    | _ =>
      otherRest rules word
      return .other

/-! ### The rules -/

/-- Rules for parts nested at most `fuel` times. -/
def rules : Nat → Rules
  | 0 => {
    operand := fun _ => refuse, primary := refuse, query := refuse, body := fun _ => refuse,
    tables := refuse, insert := refuse, update := refuse, statement := refuse }
  | fuel + 1 => {
    operand := fun rank setting => operandExpr (rules fuel) rank setting
    primary := fun setting => primaryExpr (rules fuel) setting
    query := fun setting => fullQuery (rules fuel) setting
    body := fun rank setting => queryBody (rules fuel) rank setting
    tables := fun setting => joinedTables (rules fuel) (valuesBody (rules fuel) false) setting
    insert := fun setting => insertStatement (rules fuel) false setting
    update := fun setting => updateStatement (rules fuel) setting
    statement := fun setting => statement (rules fuel) setting }

end Grammar

/-- The statements that tokens make up, nested no deeper than `depth`. -/
def readStatements (dialect : Dialect) (depth : Nat) (lexemes : List Lexeme) :
    Except Grammar.Refusal (List Statement) :=
  let n := lexemes.length
  (Grammar.statementsOf (Grammar.statement (Grammar.rules (4 * n + 8))) (n + 1) false { dialect, depth }
    lexemes).map (·.1)

end Sql
end ShardRouting
