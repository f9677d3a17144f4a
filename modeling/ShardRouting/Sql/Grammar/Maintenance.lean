import ShardRouting.Sql.Grammar.Sessions

/-! Statements that explain, copy, merge and keep tables in order. They are recognized and no more. -/

namespace ShardRouting
namespace Sql
namespace Grammar

/-! ### Explanations -/

/-- How a plan is explained. -/
def explainHead (rules : Rules) (explaining : Bool) : Reader Unit := do
  if ← both (return explaining) (both (among [.postgres, .generic]) (isSymbolAt 0 "(")) then
    discard (inParens (commaList do
      discard ident
      if !((← isSymbolAt 0 ",") || (← isSymbolAt 0 ")")) then discard rules.expr))
  else if ← keywords ["QUERY", "PLAN"] then return
  else if ← keyword "ESTIMATE" then return
  else
    allow ["ANALYZE"]
    allow ["VERBOSE"]
    optionally (keyword "FORMAT") (needOneOf ["TEXT", "GRAPHVIZ", "JSON"])

/-- Words that begin explanations. -/
def explainWords : List String := ["DESC", "DESCRIBE", "EXPLAIN"]

/-- Behind one of `explainWords`: a statement, which is none of its kind, or the name of a table. -/
def explainStatement (rules : Rules) (word : String) : Reader Unit := do
  explainHead rules (word = "EXPLAIN")
  let nested := (← peekKeyword 0).any explainWords.contains
  match ← attempt rules.statement with
  | some _ => if nested then refuse
  | none =>
    allowOneOf ["EXTENDED", "FORMATTED"]
    discard objectName

/-! ### Tables and databases -/

/-- Behind `ANALYZE`. -/
def analyzeStatement (rules : Rules) : Reader Unit := do
  allow ["TABLE"]
  discard objectName
  whileHolds do
    match ← oneOf ["PARTITION", "FOR", "CACHE", "NOSCAN", "COMPUTE"] with
    | none => return false
    | some "PARTITION" => discard rules.exprsInParens
    | some "FOR" =>
      needKeyword "COLUMNS"
      discard (attempt (commaList ident))
    | some "CACHE" => needKeyword "METADATA"
    | some "COMPUTE" => needKeyword "STATISTICS"
    | some _ => pure ()
    return true

/-- Behind `ATTACH`. -/
def attachStatement (rules : Rules) : Reader Unit := do
  allow ["DATABASE"]
  discard rules.expr
  needKeyword "AS"
  discard ident

/-- Behind `DETACH`. -/
def detachStatement : Reader Unit := do
  allow ["DATABASE"]
  ifExists
  discard ident

/-- Behind `MSCK`. -/
def repairStatement : Reader Unit := do
  allow ["REPAIR"]
  needKeyword "TABLE"
  discard objectName
  discard (attempt do
    allowOneOf ["ADD", "DROP", "SYNC"]
    needKeyword "PARTITIONS")

/-- Behind `CACHE`. A semicolon does not end the name of the table. -/
def cacheStatement (rules : Rules) : Reader Unit := do
  if !(← keyword "TABLE") then
    discard objectName
    needKeyword "TABLE"
  discard objectName
  options rules "OPTIONS"
  match ← peekToken 0 with
  | none => return
  | some (.word ..) =>
    allow ["AS"]
    discard rules.query
  | some _ => refuse

/-- Behind `UNCACHE`. -/
def uncacheStatement : Reader Unit := do
  needKeyword "TABLE"
  ifExists
  discard objectName

/-- Behind `OPTIMIZE`. -/
def optimizeStatement (rules : Rules) : Reader Unit := do
  needKeyword "TABLE"
  discard objectName
  onCluster
  optionally (keyword "PARTITION") do
    if ← keyword "ID" then discard ident else discard rules.expr
  allow ["FINAL"]
  optionally (keyword "DEDUPLICATE") (optionally (keyword "BY") rules.expr)

/-! ### The server -/

/-- Behind `KILL`. -/
def killStatement : Reader Unit := do
  let kind ← oneOf ["CONNECTION", "QUERY", "MUTATION"]
  discard natural
  if kind = some "MUTATION" && !(← among [.generic]) then refuse

/-- The tables that are flushed, and how. The token that ends them is dropped. -/
def flushedTables : Nat → Reader Unit
  | 0 => return
  | fuel + 1 => do
    match ← peekAt 0 with
    | none => return
    | some lexeme =>
      match lexeme.token with
      | .word .. =>
        match lexeme.keyword with
        | some "WITH" =>
          skip 1
          allow ["READ", "LOCK"]
        | some "FOR" =>
          skip 1
          allow ["EXPORT"]
        | _ => if lexeme.isReserved then skip 1 else discard objectNames
        flushedTables fuel
      | _ => skip 1

/-- Behind `FLUSH`. -/
def flushStatement : Reader Unit := do
  if !(← among [.mysql, .generic]) then refuse
  allowOneOf ["NO_WRITE_TO_BINLOG", "LOCAL"]
  if ← keywords ["RELAY", "LOGS"] then optionally (keywords ["FOR", "CHANNEL"]) objectName
  else if ← onePhrase [["BINARY", "LOGS"], ["ENGINE", "LOGS"], ["ERROR", "LOGS"], ["GENERAL", "LOGS"],
      ["HOSTS"], ["PRIVILEGES"], ["OPTIMIZER_COSTS"], ["SLOW", "LOGS"], ["STATUS"], ["USER_RESOURCES"],
      ["LOGS"]] then return
  else
    needKeyword "TABLES"
    flushedTables ((← get).length + 1)

/-- Behind `DISCARD`. -/
def discardStatement : Reader Unit :=
  discard (needOneOf ["ALL", "PLANS", "SEQUENCES", "TEMP", "TEMPORARY"])

/-- Behind `PRAGMA`. -/
def pragmaStatement : Reader Unit := do
  let value : Reader Unit := do
    match ← literal with
    | .string .single _ | .string .double _ | .number .. | .placeholder .. => return
    | _ => refuse
  discard objectName
  if ← symbol "(" then
    value
    needSymbol ")"
  else optionally (symbol "=") value

/-! ### Calls and conditions -/

/-- Behind `CALL`. -/
def callStatement (rules : Rules) : Reader Unit := do
  let name ← objectName
  if ← isSymbolAt 0 "(" then discard (call rules name)

/-- Behind `RAISERROR`. -/
def raiseStatement (rules : Rules) : Reader Unit := do
  inParens do
    discard rules.expr
    needSymbol ","
    discard rules.expr
    needSymbol ","
    discard rules.expr
    optionally (symbol ",") (commaList rules.expr)
  optionally (keyword "WITH") (commaList (needOneOf ["LOG", "NOWAIT", "SETERROR"]))

/-- Behind `ASSERT`. -/
def assertStatement (rules : Rules) : Reader Unit := do
  discard rules.expr
  optionally (keyword "AS") rules.expr

/-! ### Moving rows -/

/-- A string of one byte. -/
def singleByte : Reader Unit := do
  if (← stringText).utf8ByteSize ≠ 1 then refuse

/-- One option of a copy in parentheses. -/
def copyOption : Reader Unit := do
  match ← needOneOf ["FORMAT", "FREEZE", "DELIMITER", "NULL", "HEADER", "QUOTE", "ESCAPE", "FORCE_QUOTE",
    "FORCE_NOT_NULL", "FORCE_NULL", "ENCODING"] with
  | "FORMAT" => discard ident
  | "FREEZE" | "HEADER" => allowOneOf ["TRUE", "FALSE"]
  | "DELIMITER" | "QUOTE" | "ESCAPE" => singleByte
  | "NULL" | "ENCODING" => discard stringText
  | _ => discard columnNames

/-- One option for files with separated values. -/
def separatedOption : Reader Unit := do
  match ← needOneOf ["HEADER", "QUOTE", "ESCAPE", "FORCE"] with
  | "HEADER" => return
  | "FORCE" =>
    need (onePhrase [["NOT", "NULL"], ["QUOTE"]])
    discard (commaList ident)
  | _ =>
    allow ["AS"]
    singleByte

/-- A reader that is tried as long as it succeeds. -/
def whileFound (reader : Reader Unit) : Reader Unit := discard (many (attempt reader))

/-- One option of a copy without parentheses. -/
def bareCopyOption : Reader Unit := do
  match ← needOneOf ["BINARY", "DELIMITER", "NULL", "CSV"] with
  | "BINARY" => return
  | "DELIMITER" =>
    allow ["AS"]
    singleByte
  | "NULL" =>
    allow ["AS"]
    discard stringText
  | _ => whileFound separatedOption

/-- Rows that stand in the text, up to their mark `\.` or to its end. -/
def inlineRows : Nat → Reader Unit
  | 0 => return
  | fuel + 1 => do
    match ← get with
    | [] => return
    | lexeme :: rest =>
      set rest
      if lexeme.token = .symbol "\\" then
        if ← symbol "." then return
        skip 1
      inlineRows fuel

/-- Behind `COPY`. -/
def copyStatement (rules : Rules) : Reader Unit := do
  let queried ← isSymbolAt 0 "("
  if queried then discard (inParens rules.query)
  else
    discard objectName
    discard columnNamesIfAny
  let incoming := (← needOneOf ["FROM", "TO"]) = "FROM"
  if incoming && queried then refuse
  let inline ← keyword "STDIN"
  if !inline && !(← keyword "STDOUT") then
    allow ["PROGRAM"]
    discard stringText
  allow ["WITH"]
  if ← isSymbolAt 0 "(" then discard (inParens (commaList copyOption))
  whileFound bareCopyOption
  if inline then
    needSymbol ";"
    inlineRows ((← get).length + 1)

/-- Behind `UNLOAD`. -/
def unloadStatement (rules : Rules) : Reader Unit := do
  discard (inParens rules.query)
  needKeyword "TO"
  discard ident
  options rules "WITH"

/-- What is done with a row that a merge finds, or does not find, in its target. -/
def mergeAction (rules : Rules) (inserting : Bool) : Reader Unit := do
  match ← needOneOf ["UPDATE", "INSERT", "DELETE"] with
  | "INSERT" =>
    if !inserting then refuse
    let mysql ← among [.mysql]
    if mysql && (← isSymbolAt 0 "(") && (← isSymbolAt 1 ")") then skip 2 else discard columnNamesIfAny
    if ← both (among [.generic]) (keyword "ROW") then return
    needKeyword "VALUES"
    discard (valuesBody rules mysql)
  | word =>
    if inserting then refuse
    if word = "UPDATE" then
      needKeyword "SET"
      discard (commaList (assignment rules))

/-- The cases of a merge up to the end of the statement. -/
def mergeCases (rules : Rules) : Nat → Reader Unit
  | 0 => refuse
  | fuel + 1 => do
    if (← peekAt 0).isNone || (← isSymbolAt 0 ";") then return
    needKeyword "WHEN"
    let missing ← keyword "NOT"
    needKeyword "MATCHED"
    let bySource ← both (return missing) (keywords ["BY", "SOURCE"])
    if missing && !bySource then allow ["BY", "TARGET"]
    optionally (keyword "AND") rules.expr
    needKeyword "THEN"
    mergeAction rules (missing && !bySource)
    mergeCases rules fuel

/-- Behind `MERGE`. -/
def mergeStatement (rules : Rules) : Reader Unit := do
  let factor := tableFactor rules (valuesBody rules false)
  allow ["INTO"]
  discard factor
  needKeyword "USING"
  discard factor
  needKeyword "ON"
  discard rules.expr
  mergeCases rules ((← get).length + 1)

end Grammar
end Sql
end ShardRouting
