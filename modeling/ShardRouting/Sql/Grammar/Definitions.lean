import ShardRouting.Sql.Grammar.Columns

/-! Statements that define tables, views, functions and other objects. They are recognized and no more. -/

namespace ShardRouting
namespace Sql
namespace Grammar

/-! ### Tables -/

def fileFormat : Reader Unit :=
  discard (needOneOf ["AVRO", "JSONFILE", "ORC", "PARQUET", "RCFILE", "SEQUENCEFILE", "TEXTFILE"])

/-- What separates the fields and rows of a file. A keyword whose clause does not go on ends the list. -/
def rowFormat : Reader Unit := do
  needKeyword "FORMAT"
  if ← keyword "SERDE" then
    discard stringText
    return
  allow ["DELIMITED"]
  whileHolds do
    match ← oneOf ["FIELDS", "COLLECTION", "MAP", "LINES", "NULL"] with
    | none => return false
    | some word =>
      let phrase := match word with
        | "COLLECTION" => ["ITEMS", "TERMINATED", "BY"]
        | "MAP" => ["KEYS", "TERMINATED", "BY"]
        | "NULL" => ["DEFINED", "AS"]
        | _ => ["TERMINATED", "BY"]
      if !(← keywords phrase) then return false
      discard ident
      if word = "FIELDS" then optionally (keywords ["ESCAPED", "BY"]) ident
      return true

/-- How and where the rows of a table are stored. -/
def storage (rules : Rules) : Reader Unit := whileHolds do
  match ← peekKeyword 0 with
  | some "ROW" =>
    skip 1
    rowFormat
    return true
  | some "STORED" =>
    skip 1
    needKeyword "AS"
    if ← keyword "INPUTFORMAT" then
      discard rules.expr
      needKeyword "OUTPUTFORMAT"
      discard rules.expr
    else fileFormat
    return true
  | some "LOCATION" =>
    skip 1
    discard stringText
    return true
  | _ => optionsBehind rules ["WITH", "SERDEPROPERTIES"]

/-- The columns by which a table is partitioned. -/
def partitionColumns (rules : Rules) : Reader Unit :=
  optionally (keywords ["PARTITIONED", "BY"]) (inParens (commaList (columnDefinition rules)))

/-- How the rows of a table are spread over buckets. -/
def clusteredBy (rules : Rules) : Reader Unit :=
  optionally (both (among [.generic]) (keywords ["CLUSTERED", "BY"])) do
    discard columnNames
    optionally (keywords ["SORTED", "BY"]) (inParens (commaList (orderItem rules)))
    needKeyword "INTO"
    discard numeral
    needKeyword "BUCKETS"

/-- The engine of a table, behind its keyword. -/
def engine : Reader Unit := do
  needSymbol "="
  match (← take).token with
  | .word .. => if ← isSymbolAt 0 "(" then discard columnNames
  | _ => refuse

/-- `= name` behind a keyword. -/
def equalsName : Reader Unit := do
  needSymbol "="
  match (← take).token with
  | .word .. => return
  | _ => refuse

/-- A whole number of at most 32 bits. -/
def smallNatural : Reader Unit := do
  match (← take).token with
  | .number digits _ => if (Number.readUnsigned (UInt32.size - 1) digits.toList).isNone then refuse
  | _ => refuse

/-- How the rows of a table are partitioned and sorted. -/
def tableLayout (rules : Rules) : Reader Unit := do
  optionally (both (among [.generic]) (keywords ["PRIMARY", "KEY"])) rules.expr
  optionally (keywords ["ORDER", "BY"]) do
    if ← symbol "(" then
      if !(← isSymbolAt 0 ")") then discard (commaList rules.expr)
      needSymbol ")"
    else discard rules.expr
  optionally (both (among [.postgres, .generic]) (keywords ["PARTITION", "BY"])) rules.expr
  if ← among [.generic] then
    optionally (keywords ["CLUSTER", "BY"]) (commaList ident)
    options rules "OPTIONS"

/-- What stands behind the layout of a table. -/
def tableEnding (rules : Rules) : Reader Unit := do
  optionally (keywords ["DEFAULT", "CHARSET"]) equalsName
  optionally (keyword "COLLATE") equalsName
  optionally (keywords ["ON", "COMMIT"]) do
    if !((← keywords ["DELETE", "ROWS"]) || (← keywords ["PRESERVE", "ROWS"])) then needKeyword "DROP"
  allow ["STRICT"]
  inlineComment
  if ← keyword "AS" then discard rules.query
  else if (← among [.mysql]) && (← isKeywordAt 0 "SELECT") then discard rules.query

def createTable (rules : Rules) : Reader Unit := do
  ifNotExists
  discard objectName
  onCluster
  if (← oneOf ["LIKE", "ILIKE"]).isSome then lenient objectName
  optionally (keyword "CLONE") (lenient objectName)
  columnsIfAny rules
  allow ["WITHOUT", "ROWID"]
  partitionColumns rules
  clusteredBy rules
  storage rules
  options rules "WITH"
  options rules "TBLPROPERTIES"
  optionally (keyword "ENGINE") engine
  optionally (keyword "AUTO_INCREMENT") do
    discard (symbol "=")
    smallNatural
  tableLayout rules
  tableEnding rules

def createExternalTable (rules : Rules) : Reader Unit := do
  needKeyword "TABLE"
  ifNotExists
  discard objectName
  columnsIfAny rules
  partitionColumns rules
  storage rules
  options rules "TBLPROPERTIES"

def createVirtualTable : Reader Unit := do
  needKeyword "TABLE"
  ifNotExists
  discard objectName
  needKeyword "USING"
  discard ident
  discard columnNamesIfAny

/-! ### Views -/

/-- A name behind which a host may stand. -/
def grantee : Reader Unit := do
  let name ← objectName
  if ← both (among [.mysql, .generic]) (return name.length = 1) then
    optionally (symbol "@") ident

/-- How a view is run, and with whose rights. -/
def viewParameters : Reader Unit := do
  optionally (keyword "ALGORITHM") do
    needSymbol "="
    discard (needOneOf ["UNDEFINED", "MERGE", "TEMPTABLE"])
  optionally (keyword "DEFINER") do
    needSymbol "="
    grantee
  optionally (keywords ["SQL", "SECURITY"]) (needOneOf ["DEFINER", "INVOKER"])

def viewColumn (rules : Rules) : Reader Unit := do
  discard ident
  if ← among [.generic] then
    if (← isKeywordAt 0 "OPTIONS") || (← isKeywordAt 0 "COMMENT") then discard (columnOption rules)

def createView (rules : Rules) : Reader Unit := do
  allow ["MATERIALIZED"]
  needKeyword "VIEW"
  if ← among [.sqlite, .generic] then ifNotExists
  discard objectName
  if ← symbol "(" then
    if !(← symbol ")") then
      discard (commaItems false (viewColumn rules))
      needSymbol ")"
  options rules "WITH"
  optionally (keywords ["CLUSTER"]) do
    needKeyword "BY"
    discard columnNamesIfAny
  if ← among [.generic] then
    options rules "OPTIONS"
    optionally (keyword "TO") objectName
    optionally (keyword "COMMENT") do
      needSymbol "="
      commentText
  needKeyword "AS"
  discard rules.query
  if ← among [.generic] then allow ["WITH", "NO", "SCHEMA", "BINDING"]

/-! ### Functions, triggers and procedures -/

/-- An argument of a function. A type that is a plain name is the name of the argument. -/
def functionArgument (rules : Rules) : Reader Unit := do
  allowOneOf ["IN", "OUT", "INOUT"]
  match ← typeName with
  | .custom _ => discard dataType
  | _ => pure ()
  if ← keyword "DEFAULT" then discard rules.expr
  else optionally (symbol "=") rules.expr

/-- The parts of a function behind its type; no part comes twice. -/
def functionParts (rules : Rules) : Nat → List String → Reader Unit
  | 0, _ => return
  | fuel + 1, seen => do
    let part (kind : String) (reader : Reader Unit) : Reader Unit := do
      if seen.contains kind then refuse
      reader
      functionParts rules fuel (kind :: seen)
    if ← keyword "AS" then
      part "body" do
        match ← peekToken 0 with
        | some (.string (.dollar _) _) => skip 1
        | _ => discard stringText
    else if ← keyword "LANGUAGE" then part "language" (discard ident)
    else if (← oneOf ["IMMUTABLE", "STABLE", "VOLATILE"]).isSome then part "behavior" (return)
    else if ← keywords ["CALLED", "ON", "NULL", "INPUT"] then part "null" (return)
    else if ← keywords ["RETURNS", "NULL", "ON", "NULL", "INPUT"] then part "null" (return)
    else if ← keyword "STRICT" then part "null" (return)
    else if ← keyword "PARALLEL" then
      part "parallel" (discard (needOneOf ["UNSAFE", "RESTRICTED", "SAFE"]))
    else if ← keyword "RETURN" then part "body" (discard rules.expr)
    else return

def createFunction (rules : Rules) : Reader Unit := do
  if !(← among [.postgres, .generic]) then refuse
  discard objectName
  needSymbol "("
  if !(← isSymbolAt 0 ")") then discard (commaList (functionArgument rules))
  needSymbol ")"
  optionally (keyword "RETURNS") dataType
  functionParts rules 7 []

/-- A function by its name and, in parentheses, its arguments. -/
def functionSignature (rules : Rules) : Reader Unit := do
  discard objectName
  if ← symbol "(" then
    if !(← symbol ")") then
      discard (commaList (functionArgument rules))
      needSymbol ")"

def triggerEvent : Reader Unit := do
  if (← needOneOf ["INSERT", "UPDATE", "DELETE", "TRUNCATE"]) = "UPDATE" then
    optionally (keyword "OF") (commaList ident)

/-- A name for the rows before or after a change. Either keyword is taken even where nothing follows. -/
def transitionRows : Reader Bool := do
  if (← oneOf ["OLD", "NEW"]).isNone then return false
  if !(← keyword "TABLE") then return false
  allow ["AS"]
  discard objectName
  return true

def createTrigger (rules : Rules) : Reader Unit := do
  if !(← among [.postgres, .generic, .mysql]) then refuse
  discard objectName
  if (← needOneOf ["BEFORE", "AFTER", "INSTEAD"]) = "INSTEAD" then needKeyword "OF"
  triggerEvent
  whileHolds do
    if ← keyword "OR" then
      triggerEvent
      return true
    return false
  needKeyword "ON"
  discard objectName
  optionally (keyword "FROM") (lenient objectName)
  constraintCharacteristics
  optionally (keyword "REFERENCING") (whileHolds transitionRows)
  needKeyword "FOR"
  allow ["EACH"]
  discard (needOneOf ["ROW", "STATEMENT"])
  optionally (keyword "WHEN") rules.expr
  needKeyword "EXECUTE"
  discard (needOneOf ["FUNCTION", "PROCEDURE"])
  functionSignature rules

def createMacro (rules : Rules) : Reader Unit := do
  if !(← among [.generic]) then refuse
  discard objectName
  needSymbol "("
  if !(← isSymbolAt 0 ")") then
    discard (commaList do
      discard ident
      if (← symbol ":=") || (← symbol "=>") then discard rules.expr)
  needSymbol ")"
  needKeyword "AS"
  if ← keyword "TABLE" then discard rules.query else discard rules.expr

/-- The parameters of a procedure up to the closing parenthesis. -/
def parametersBefore : Nat → Reader Unit
  | 0 => refuse
  | fuel + 1 => do
    if let some (.word ..) ← peekToken 0 then
      discard ident
      discard dataType
    let comma ← symbol ","
    if ← symbol ")" then return
    if comma then parametersBefore fuel else refuse

def createProcedure (rules : Rules) : Reader Unit := do
  discard objectName
  if ← symbol "(" then
    if !(← symbol ")") then parametersBefore ((← get).length + 1)
  needKeywords ["AS", "BEGIN"]
  discard (statementsOf rules.statement ((← get).length + 1) false)
  needKeyword "END"

/-! ### Other objects -/

def createPolicy (rules : Rules) : Reader Unit := do
  discard ident
  needKeyword "ON"
  discard objectName
  optionally (keyword "AS") (needOneOf ["PERMISSIVE", "RESTRICTIVE"])
  optionally (keyword "FOR") (needOneOf ["ALL", "SELECT", "INSERT", "UPDATE", "DELETE"])
  optionally (keyword "TO") (commaList ident)
  optionally (keyword "USING") (inParens rules.expr)
  optionally (keywords ["WITH", "CHECK"]) (inParens rules.expr)

/-- A secret, which may have a name and a place. -/
def createSecret : Reader Unit := do
  ifNotExists
  if !(← isSymbolAt 0 "(") then
    let placed ← keyword "IN"
    lenient ident
    if !placed then optionally (keyword "IN") (lenient ident)
  inParens do
    needKeyword "TYPE"
    discard ident
    optionally (symbol ",") (commaList do
      discard ident
      discard ident)

def createExtension : Reader Unit := do
  ifNotExists
  discard ident
  optionally (keyword "WITH") do
    optionally (keyword "SCHEMA") ident
    optionally (keyword "VERSION") ident
    allow ["CASCADE"]

def createIndex (rules : Rules) : Reader Unit := do
  allow ["CONCURRENTLY"]
  let conditional ← keywords ["IF", "NOT", "EXISTS"]
  if conditional || !(← keyword "ON") then
    discard objectName
    needKeyword "ON"
  discard objectName
  optionally (keyword "USING") ident
  discard (inParens (commaList (orderItem rules)))
  optionally (keyword "INCLUDE") (inParens (commaList ident))
  nullsDistinct
  optionally (both (among [.postgres, .generic]) (keyword "WITH")) rules.exprsInParens
  optionally (keyword "WHERE") rules.expr

def createSchema : Reader Unit := do
  ifNotExists
  if ← keyword "AUTHORIZATION" then discard ident
  else
    discard objectName
    optionally (keyword "AUTHORIZATION") ident

def createDatabase : Reader Unit := do
  ifNotExists
  discard objectName
  whileHolds do
    if (← oneOf ["LOCATION", "MANAGEDLOCATION"]).isNone then return false
    discard stringText
    return true

/-- Rights of a role that are granted or, behind `NO`, denied. -/
def roleRights : List String :=
  ["LOGIN", "INHERIT", "BYPASSRLS", "CREATEDB", "CREATEROLE", "SUPERUSER", "REPLICATION"]

/-- A right of a role, granted or denied. -/
def roleRight : Reader (Option String) := do
  for right in roleRights do
    if (← oneOf [right, "NO" ++ right]).isSome then return some right
  return none

/-- A limit on connections, a password or an end of validity, behind its first keyword. -/
def roleValue (word : String) : Reader Unit := do
  match word with
  | "PASSWORD" => if !(← keyword "NULL") then discard literal
  | "CONNECTION" =>
    needKeyword "LIMIT"
    discard numeral
  | _ =>
    needKeyword "UNTIL"
    discard literal

/-- The options of a role; none of them comes twice. -/
def roleOptions : Nat → List String → Reader Unit
  | 0, _ => return
  | fuel + 1, seen => do
    let option (kind : String) (reader : Reader Unit) : Reader Unit := do
      if seen.contains kind then refuse
      reader
      roleOptions fuel (kind :: seen)
    if let some right ← roleRight then return ← option right (pure ())
    match ← oneOf ["PASSWORD", "CONNECTION", "VALID", "IN", "ROLE", "ADMIN", "USER"] with
    | none => return
    | some "IN" => option ("IN " ++ (← needOneOf ["ROLE", "GROUP"])) (discard (commaList ident))
    | some word =>
      if ["ROLE", "ADMIN", "USER"].contains word then option word (discard (commaList ident))
      else option word (roleValue word)

def createRole : Reader Unit := do
  ifNotExists
  discard objectNames
  allow ["WITH"]
  if ← among [.postgres] then roleOptions 20 []

def createSequence : Reader Unit := do
  ifNotExists
  discard objectName
  optionally (keyword "AS") dataType
  sequenceOptions
  optionally (keywords ["OWNED", "BY"]) objectName

/-- The attributes of a type up to the closing parenthesis. -/
def attributesBefore : Nat → Reader Unit
  | 0 => refuse
  | fuel + 1 => do
    discard ident
    discard dataType
    optionally (keyword "COLLATE") objectName
    let comma ← symbol ","
    if ← symbol ")" then return
    if comma then attributesBefore fuel else refuse

def createType : Reader Unit := do
  discard objectName
  needKeyword "AS"
  if ← both (among [.postgres]) (keyword "ENUM") then
    needSymbol "("
    discard (commaListBefore ")" ident)
    needSymbol ")"
  else if ← symbol "(" then
    if !(← symbol ")") then attributesBefore ((← get).length + 1)

def createConnector (rules : Rules) : Reader Unit := do
  ifNotExists
  discard ident
  optionally (keyword "TYPE") stringText
  optionally (keyword "URL") stringText
  inlineComment
  discard (optionsBehind rules ["WITH", "DCPROPERTIES"])

/-! ### Definitions -/

/-- What kind of object is defined, where it may not take the place of an older one. -/
def createOther (rules : Rules) : Reader Unit := do
  if ← keywords ["UNIQUE", "INDEX"] then return ← createIndex rules
  match ← needOneOf ["EXTENSION", "INDEX", "VIRTUAL", "SCHEMA", "DATABASE", "ROLE", "SEQUENCE", "TYPE",
    "PROCEDURE", "CONNECTOR"] with
  | "EXTENSION" => createExtension
  | "INDEX" => createIndex rules
  | "VIRTUAL" => createVirtualTable
  | "SCHEMA" => createSchema
  | "DATABASE" => createDatabase
  | "ROLE" => createRole
  | "SEQUENCE" => createSequence
  | "TYPE" => createType
  | "PROCEDURE" => createProcedure rules
  | _ => createConnector rules

/-- Behind `CREATE`. -/
def createStatement (rules : Rules) : Reader Unit := do
  let replacing ← keywords ["OR", "REPLACE"]
  allow ["OR", "ALTER"]
  allow ["LOCAL"]
  allow ["GLOBAL"]
  allow ["TRANSIENT"]
  allowOneOf ["TEMP", "TEMPORARY"]
  viewParameters
  if (← isKeywordAt 0 "MATERIALIZED") || (← isKeywordAt 0 "VIEW") then return ← createView rules
  if ← keywords ["CONSTRAINT", "TRIGGER"] then return ← createTrigger rules
  match ← oneOf ["TABLE", "POLICY", "EXTERNAL", "FUNCTION", "TRIGGER", "MACRO", "SECRET"] with
  | some "TABLE" => createTable rules
  | some "POLICY" => createPolicy rules
  | some "EXTERNAL" => createExternalTable rules
  | some "FUNCTION" => createFunction rules
  | some "TRIGGER" => createTrigger rules
  | some "MACRO" => createMacro rules
  | some _ => createSecret
  | none => if replacing then refuse else createOther rules

end Grammar
end Sql
end ShardRouting
