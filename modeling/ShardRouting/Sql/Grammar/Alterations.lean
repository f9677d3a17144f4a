import ShardRouting.Sql.Grammar.Definitions

/-! Statements that change or drop objects. They are recognized and no more. -/

namespace ShardRouting
namespace Sql
namespace Grammar

def cascade : Reader Unit := allowOneOf ["CASCADE", "RESTRICT"]

/-! ### Changes of tables -/

/-- Where a new column stands. -/
def columnPosition : Reader Unit := do
  if ← among [.mysql, .generic] then
    if !(← keyword "FIRST") then optionally (keyword "AFTER") ident

/-- Projections of a table, kept beside it. -/
def addProjection (rules : Rules) : Reader Unit := do
  ifNotExists
  discard ident
  inParens do
    needKeyword "SELECT"
    discard (commaList (selectItem rules))
    discard (groupClause rules)
    discard (orderClause rules)

/-- Behind `ADD`: a constraint, a projection, partitions or a column. -/
def addOperation (rules : Rules) : Reader Unit := do
  if ← tableConstraint rules then return
  if ← both (among [.generic]) (keyword "PROJECTION") then return ← addProjection rules
  ifNotExists
  let partitions ← many (given (keyword "PARTITION") rules.exprsInParens)
  if partitions.isEmpty then
    allow ["COLUMN"]
    if ← among [.postgres, .generic] then ifNotExists
    columnDefinition rules
    columnPosition

def renameOperation : Reader Unit := do
  if ← both (among [.postgres]) (keyword "CONSTRAINT") then
    discard ident
    needKeyword "TO"
    discard ident
  else if ← keyword "TO" then discard objectName
  else
    allow ["COLUMN"]
    discard ident
    needKeyword "TO"
    discard ident

/-- Behind `ENABLE` or `DISABLE`; `kinds` may stand in front of a rule or trigger. -/
def switchOperation (kinds : List (List String)) : Reader Unit := do
  if ← keywords ["ROW", "LEVEL", "SECURITY"] then return
  for kind in kinds do
    for object in ["RULE", "TRIGGER"] do
      if ← keywords (kind ++ [object]) then
        discard ident
        return
  refuse

/-- A projection, in one partition or in all of them. -/
def projectionInPartition : Reader Unit := do
  ifExists
  discard ident
  optionally (keywords ["IN", "PARTITION"]) ident

def dropOperation (rules : Rules) : Reader Unit := do
  if (← keywords ["IF", "EXISTS", "PARTITION"]) || (← keyword "PARTITION") then
    discard rules.exprsInParens
  else if ← keyword "CONSTRAINT" then
    ifExists
    discard ident
    cascade
  else if ← keywordAmong ["PRIMARY", "KEY"] [.mysql, .generic] then return
  else if ← keywordAmong ["FOREIGN", "KEY"] [.mysql, .generic] then discard ident
  else if ← keywordAmong ["PROJECTION"] [.generic] then
    ifExists
    discard ident
  else if ← keywords ["CLUSTERING", "KEY"] then return
  else
    allow ["COLUMN"]
    ifExists
    discard ident
    cascade

/-- A new type and new options of a column. -/
def retypedColumn (rules : Rules) : Reader Unit := do
  discard dataType
  whileHolds (columnOption rules)
  columnPosition

/-- Behind `ALTER`: a change of one column. -/
def alterColumn (rules : Rules) : Reader Unit := do
  allow ["COLUMN"]
  discard ident
  let postgres ← among [.postgres]
  for words in [["SET", "NOT", "NULL"], ["DROP", "NOT", "NULL"]] do
    if ← keywords words then return
  if ← keywords ["SET", "DEFAULT"] then discard rules.expr
  else if ← keywords ["DROP", "DEFAULT"] then return
  else if (← keywords ["SET", "DATA", "TYPE"]) || (← both (return postgres) (keyword "TYPE")) then
    discard dataType
    optionally (both (return postgres) (keyword "USING")) rules.expr
  else
    needKeywords ["ADD", "GENERATED"]
    if !(← keyword "ALWAYS") then allow ["BY", "DEFAULT"]
    needKeywords ["AS", "IDENTITY"]
    sequenceOptionsInParens

def partOrPartition (rules : Rules) : Reader Unit := do
  discard (needOneOf ["PART", "PARTITION"])
  discard rules.expr

/-- Operations on the parts that a table is stored in. -/
def partOperation (rules : Rules) : Reader Bool := do
  if !(← among [.generic]) then return false
  match ← oneOf ["ATTACH", "DETACH", "FREEZE", "UNFREEZE"] with
  | none => return false
  | some word =>
    partOrPartition rules
    if word = "FREEZE" || word = "UNFREEZE" then
      optionally (keyword "WITH") do
        needKeyword "NAME"
        discard ident
    return true

/-- Operations that no keyword of their own tells from others at once. -/
def furtherOperation (rules : Rules) : Reader Unit := do
  if ← both (among [.postgres, .generic]) (keywords ["OWNER", "TO"]) then discard ident
  else if ← partOperation rules then return
  else if ← keywords ["CLUSTER", "BY"] then discard rules.exprsInParens
  else if ← keywords ["SUSPEND", "RECLUSTER"] then return
  else if ← keywords ["RESUME", "RECLUSTER"] then return
  else if ← keyword "AUTO_INCREMENT" then
    discard (symbol "=")
    discard numeral
  else if ← keyword "ALGORITHM" then
    discard (symbol "=")
    discard (needOneOf ["DEFAULT", "INPLACE", "COPY", "INSTANT"])
  else need (optionsBehind rules ["SET", "TBLPROPERTIES"])

/-- One change of a table. -/
def tableOperation (rules : Rules) : Reader Unit := do
  let projections ← among [.generic]
  for word in ["CLEAR", "MATERIALIZE"] do
    if ← both (return projections) (keywords [word, "PROJECTION"]) then return ← projectionInPartition
  match ← oneOf ["ADD", "RENAME", "DISABLE", "ENABLE", "DROP", "PARTITION", "CHANGE", "MODIFY", "ALTER",
    "SWAP"] with
  | some "ADD" => addOperation rules
  | some "RENAME" => renameOperation
  | some "DISABLE" => switchOperation [[]]
  | some "ENABLE" => switchOperation [["ALWAYS"], ["REPLICA"], []]
  | some "DROP" => dropOperation rules
  | some "PARTITION" =>
    discard rules.exprsInParens
    needKeywords ["RENAME", "TO", "PARTITION"]
    discard rules.exprsInParens
  | some "CHANGE" =>
    allow ["COLUMN"]
    discard ident
    discard ident
    retypedColumn rules
  | some "MODIFY" =>
    allow ["COLUMN"]
    discard ident
    retypedColumn rules
  | some "ALTER" => alterColumn rules
  | some _ =>
    needKeyword "WITH"
    discard objectName
  | none => furtherOperation rules

def alterTable (rules : Rules) : Reader Unit := do
  ifExists
  allow ["ONLY"]
  discard objectName
  onCluster
  discard (commaList (tableOperation rules))
  if (← keyword "LOCATION") || (← keywords ["SET", "LOCATION"]) then discard ident

/-! ### Changes of other objects -/

def alterView (rules : Rules) : Reader Unit := do
  discard objectName
  discard columnNamesIfAny
  options rules "WITH"
  needKeyword "AS"
  discard rules.query

def alterType : Reader Unit := do
  discard objectName
  if ← keywords ["RENAME", "TO"] then discard ident
  else if ← keywords ["ADD", "VALUE"] then
    ifNotExists
    discard ident
    if (← oneOf ["BEFORE", "AFTER"]).isSome then discard ident
  else
    needKeywords ["RENAME", "VALUE"]
    discard ident
    needKeyword "TO"
    discard ident

/-- One option of a role that is there already. -/
def roleOption : Reader Bool := do
  if (← roleRight).isSome then return true
  match ← oneOf ["PASSWORD", "CONNECTION", "VALID"] with
  | some word =>
    roleValue word
    return true
  | none => return false

def alterRole (rules : Rules) : Reader Unit := do
  if !(← among [.postgres]) then refuse
  discard ident
  optionally (keywords ["IN", "DATABASE"]) (lenient objectName)
  match ← oneOf ["RENAME", "SET", "RESET"] with
  | some "RENAME" =>
    needKeyword "TO"
    discard ident
  | some "SET" =>
    discard objectName
    if ← keywords ["FROM", "CURRENT"] then return
    need (return (← symbol "=") || (← keyword "TO"))
    if !(← keyword "DEFAULT") then discard rules.expr
  | some _ => if !(← keyword "ALL") then discard objectName
  | none =>
    allow ["WITH"]
    let found ← many do
      match ← attempt (need roleOption) with
      | some _ => return some ()
      | none => return none
    if found.isEmpty then refuse

def alterPolicy (rules : Rules) : Reader Unit := do
  discard ident
  needKeyword "ON"
  discard objectName
  if ← keyword "RENAME" then
    needKeyword "TO"
    discard ident
  else
    optionally (keyword "TO") (commaList ident)
    optionally (keyword "USING") (inParens rules.expr)
    optionally (keywords ["WITH", "CHECK"]) (inParens rules.expr)

def alterConnector (rules : Rules) : Reader Unit := do
  discard ident
  needKeyword "SET"
  discard (optionsBehind rules ["DCPROPERTIES"])
  optionally (keyword "URL") stringText
  if (← keywords ["OWNER", "USER"]) || (← keywords ["OWNER", "ROLE"]) then discard ident

/-- Behind `ALTER`. -/
def alterStatement (rules : Rules) : Reader Unit := do
  match ← needOneOf ["VIEW", "TYPE", "TABLE", "INDEX", "ROLE", "POLICY", "CONNECTOR"] with
  | "VIEW" => alterView rules
  | "TYPE" => alterType
  | "TABLE" => alterTable rules
  | "INDEX" =>
    discard objectName
    needKeywords ["RENAME", "TO"]
    discard objectName
  | "ROLE" => alterRole rules
  | "POLICY" => alterPolicy rules
  | _ => alterConnector rules

/-! ### Drops -/

/-- Functions or procedures that are dropped. -/
def dropFunctions (rules : Rules) : Reader Unit := do
  ifExists
  discard (commaList (functionSignature rules))
  cascade

/-- Objects that are dropped by name only. -/
def dropNamed (kind : String) : Reader Unit := do
  ifExists
  discard objectNames
  let cascades ← keyword "CASCADE"
  let restricts ← keyword "RESTRICT"
  let purges ← keyword "PURGE"
  if cascades && restricts then refuse
  if kind = "ROLE" && (cascades || restricts || purges) then refuse

/-- Behind `DROP`. -/
def dropStatement (rules : Rules) : Reader Unit := do
  if ← among [.mysql, .generic] then allow ["TEMPORARY"]
  match ← needOneOf ["TABLE", "VIEW", "INDEX", "ROLE", "SCHEMA", "DATABASE", "SEQUENCE", "STAGE", "TYPE",
    "FUNCTION", "PROCEDURE", "POLICY", "CONNECTOR", "SECRET", "TRIGGER", "EXTENSION"] with
  | "FUNCTION" | "PROCEDURE" => dropFunctions rules
  | "POLICY" =>
    ifExists
    discard ident
    needKeyword "ON"
    discard objectName
    cascade
  | "CONNECTOR" =>
    ifExists
    discard ident
  | "SECRET" =>
    ifExists
    discard ident
    optionally (keyword "FROM") ident
  | "TRIGGER" =>
    if !(← among [.postgres, .generic, .mysql]) then refuse
    ifExists
    discard objectName
    optionally (keyword "ON") objectName
    cascade
  | "EXTENSION" =>
    ifExists
    discard (commaList ident)
    cascade
  | kind => dropNamed kind

/-! ### Truncation, new names and comments -/

/-- Behind `TRUNCATE`. -/
def truncateStatement (rules : Rules) : Reader Unit := do
  allow ["TABLE"]
  let postgres ← among [.postgres, .generic]
  if postgres then allow ["ONLY"]
  discard objectNames
  optionally (keyword "PARTITION") rules.exprsInParens
  if postgres then
    if !(← keywords ["RESTART", "IDENTITY"]) then allow ["CONTINUE", "IDENTITY"]
    cascade
  onCluster

/-- Behind `RENAME`. -/
def renameStatement : Reader Unit := do
  needKeyword "TABLE"
  discard (commaList do
    discard objectName
    needKeyword "TO"
    discard objectName)

/-- Behind `COMMENT`. -/
def commentStatement : Reader Unit := do
  ifExists
  needKeyword "ON"
  discard (needOneOf ["COLUMN", "TABLE", "EXTENSION", "SCHEMA", "DATABASE", "USER", "ROLE"])
  discard objectName
  needKeyword "IS"
  if !(← keyword "NULL") then discard stringText

end Grammar
end Sql
end ShardRouting
