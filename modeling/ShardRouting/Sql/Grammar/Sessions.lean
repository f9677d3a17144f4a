import ShardRouting.Sql.Grammar.Grants

/-! Statements about a session: its settings, its transactions and cursors, and what it is shown. They are
    recognized and no more. -/

namespace ShardRouting
namespace Sql
namespace Grammar

/-! ### Transactions -/

/-- Modes of a transaction; behind a comma another one has to follow. -/
def transactionModes : Nat → Bool → Reader Unit
  | 0, _ => return
  | fuel + 1, required => do
    let found ← if ← keywords ["ISOLATION", "LEVEL"] then do
        need (onePhrase [["READ", "UNCOMMITTED"], ["READ", "COMMITTED"], ["REPEATABLE", "READ"],
          ["SERIALIZABLE"], ["SNAPSHOT"]])
        pure true
      else onePhrase [["READ", "ONLY"], ["READ", "WRITE"]]
    if found then transactionModes fuel (← symbol ",")
    else if required then refuse

def anyTransactionModes : Reader Unit := do transactionModes ((← get).length + 1) false

/-- Behind `BEGIN`. -/
def beginStatement : Reader Unit := do
  if ← among [.generic, .sqlite] then
    allowOneOf ["DEFERRED", "IMMEDIATE", "EXCLUSIVE", "TRY", "CATCH"]
  allowOneOf ["TRANSACTION", "WORK"]
  anyTransactionModes

/-- Behind `COMMIT`, `END` or `ROLLBACK`. -/
def transactionEnd : Reader Unit := do
  allowOneOf ["TRANSACTION", "WORK"]
  optionally (keyword "AND") do
    allow ["NO"]
    needKeyword "CHAIN"

/-- Behind `ROLLBACK`. -/
def rollbackStatement : Reader Unit := do
  transactionEnd
  optionally (keyword "TO") do
    allow ["SAVEPOINT"]
    discard ident

/-! ### Settings -/

/-- The values of a setting. -/
def settingValues (rules : Rules) : Reader Unit := do
  let value : Reader Unit := do
    if (← isKeywordAt 0 "SELECT") || (← isKeywordAt 0 "WITH") then discard rules.query
    else discard rules.expr
  value
  whileHolds do
    if ← symbol "," then
      value
      return true
    return false

/-- What follows the name of a setting. -/
def settingRest (rules : Rules) (name : String) (plain : Bool) : Reader Unit := do
  if Text.sameAscii name "NAMES" && (← among [.mysql, .generic]) then
    if !(← keyword "DEFAULT") then
      discard stringText
      optionally (keyword "COLLATE") stringText
  else if (← symbol "=") || (← keyword "TO") then settingValues rules
  else if Text.sameAscii name "TIMEZONE" then discard rules.expr
  else if name = "CHARACTERISTICS" then
    needKeywords ["AS", "TRANSACTION"]
    anyTransactionModes
  else if name = "TRANSACTION" && plain then
    if ← keyword "SNAPSHOT" then discard literal else anyTransactionModes
  else refuse

def setRole : Reader Unit := do
  needKeyword "ROLE"
  if !(← keyword "NONE") then discard ident

/-- Behind `SET`. -/
def setStatement (rules : Rules) : Reader Unit := do
  let modifier ← oneOf ["SESSION", "LOCAL", "HIVEVAR"]
  if modifier = some "HIVEVAR" then needSymbol ":"
  else if (← attempt setRole).isSome then return
  if ← keywords ["TIME", "ZONE"] then settingRest rules "TIMEZONE" modifier.isNone
  else if ← both (among [.generic]) (symbol "(") then
    discard (commaList ident)
    needSymbol ")"
    need (return (← symbol "=") || (← keyword "TO"))
    inParens (settingValues rules)
  else settingRest rules (dotted (← objectName)) modifier.isNone

/-! ### What is shown -/

/-- Which of the things are shown. -/
def showFilter (rules : Rules) : Reader Unit := do
  if (← oneOf ["LIKE", "ILIKE"]).isSome then discard stringText
  else if ← keyword "WHERE" then discard rules.expr
  else discard (attempt stringText)

/-- Where the things are that are shown. -/
def showPlace : Reader Unit := do
  if (← oneOf ["FROM", "IN"]).isNone then return
  match ← oneOf ["ACCOUNT", "DATABASE", "SCHEMA", "TABLE", "VIEW"] with
  | none =>
    discard objectName
    if (← oneOf ["FROM", "IN"]).isSome then discard ident
  | some word =>
    let ends := (← isKeywordAt 0 "LIMIT") || ((← isKeywordAt 0 "STARTS") && (← isKeywordAt 1 "WITH"))
    if !(ends && (word = "DATABASE" || word = "SCHEMA")) then discard (attempt objectName)

def showOptions (rules : Rules) : Reader Unit := do
  showPlace
  showFilter rules
  optionally (keywords ["STARTS", "WITH"]) literal
  optionally (keyword "LIMIT") (limitValue rules)
  optionally (keyword "FROM") literal

/-- A setting by its name, which goes on to the end of the text or to an equals sign. -/
def showSetting : Reader Unit := modify (·.dropWhile (·.token ≠ .symbol "="))

/-- Behind `SHOW`. -/
def showStatement (rules : Rules) : Reader Unit := do
  allow ["TERSE"]
  let extended ← keyword "EXTENDED"
  let full ← keyword "FULL"
  allow ["SESSION"]
  allow ["GLOBAL"]
  let external ← keyword "EXTERNAL"
  let mysql ← among [.mysql, .generic]
  if (← oneOf ["COLUMNS", "FIELDS"]).isSome then showOptions rules
  else if ← keyword "TABLES" then
    if !external then allow ["HISTORY"]
    showOptions rules
  else if (← keywords ["MATERIALIZED", "VIEWS"]) || (← keyword "VIEWS") then showOptions rules
  else if ← keyword "FUNCTIONS" then showFilter rules
  else if extended || full then refuse
  else if ← keyword "CREATE" then
    discard (needOneOf ["TABLE", "TRIGGER", "FUNCTION", "PROCEDURE", "EVENT", "VIEW"])
    discard objectName
  else if ← keyword "COLLATION" then showFilter rules
  else if (← keyword "VARIABLES") && mysql then showFilter rules
  else if (← keyword "STATUS") && mysql then showFilter rules
  else if (← oneOf ["DATABASES", "SCHEMAS"]).isSome then
    allow ["HISTORY"]
    showOptions rules
  else showSetting

/-! ### Cursors and prepared statements -/

/-- Behind `DECLARE`. -/
def declareStatement (rules : Rules) : Reader Unit := do
  discard ident
  allow ["BINARY"]
  allowOneOf ["INSENSITIVE", "ASENSITIVE"]
  if !(← keyword "SCROLL") then allow ["NO", "SCROLL"]
  needKeyword "CURSOR"
  if (← oneOf ["WITH", "WITHOUT"]).isSome then needKeyword "HOLD"
  needKeyword "FOR"
  discard rules.query

/-- Behind `FETCH`. -/
def fetchStatement : Reader Unit := do
  match ← oneOf ["NEXT", "PRIOR", "FIRST", "LAST", "ALL", "ABSOLUTE", "RELATIVE", "FORWARD", "BACKWARD"] with
  | none => discard numeral
  | some word =>
    if word = "ABSOLUTE" || word = "RELATIVE" then discard numeral
    if word = "FORWARD" || word = "BACKWARD" then
      if !(← keyword "ALL") then discard numeral
  discard (needOneOf ["FROM", "IN"])
  discard ident
  optionally (keyword "INTO") objectName

/-- Behind `CLOSE`. -/
def closeStatement : Reader Unit := do
  if !(← keyword "ALL") then discard ident

/-- Behind `PREPARE`. -/
def prepareStatement (rules : Rules) : Reader Unit := do
  discard ident
  if ← isSymbolAt 0 "(" then discard (inParens (commaList dataType))
  needKeyword "AS"
  discard rules.statement

/-- An expression that may have a name. -/
def namedExpr (rules : Rules) : Reader Unit := do
  discard rules.expr
  optionally (keyword "AS") ident

/-- Behind `EXECUTE`. -/
def executeStatement (rules : Rules) : Reader Unit := do
  discard objectName
  if ← symbol "(" then
    discard (commaListBefore ")" rules.expr)
    needSymbol ")"
  else
    match ← peekAt 0 with
    | none => return
    | some lexeme =>
      if lexeme.keyword ≠ some "USING" then discard (commaListBefore ";" rules.expr)
  optionally (keyword "INTO") (commaList ident)
  optionally (keyword "USING") (commaList (namedExpr rules))

/-! ### Channels -/

/-- Behind `UNLISTEN`. -/
def unlistenStatement : Reader Unit := do
  if !(← symbol "*") then discard ident

/-- Behind `NOTIFY`. -/
def notifyStatement : Reader Unit := do
  discard ident
  optionally (symbol ",") stringText

/-! ### Locks -/

/-- The locks behind `LOCK TABLES`. -/
def lockTables : Reader Unit := discard (commaList do
  discard ident
  discard (optionalAlias ["READ", "WRITE", "LOW_PRIORITY"].contains)
  if ← keyword "READ" then allow ["LOCAL"]
  else need (onePhrase [["WRITE"], ["LOW_PRIORITY", "WRITE"]]))

end Grammar
end Sql
end ShardRouting
