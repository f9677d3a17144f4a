import ShardRouting.Sql.Grammar.Queries

/-! Columns and constraints of tables, and the lists of options behind them. Statements that define
    objects are recognized and no more, so these readers give no trees. -/

namespace ShardRouting
namespace Sql
namespace Grammar

/-! ### Options -/

/-- Names in parentheses, with a direction behind each of them. -/
def sortedNames : Reader Unit := discard (inParens (commaList do
  discard ident
  allowOneOf ["ASC", "DESC"]))

/-- How the rows of a table are spread over ranges. -/
def rangePartition (rules : Rules) : Reader Unit := inParens do
  discard ident
  needKeyword "RANGE"
  allowOneOf ["LEFT", "RIGHT"]
  needKeywords ["FOR", "VALUES"]
  discard rules.exprsInParens

/-- `name = value`, or what stands for a layout of the rows. -/
def settingOption (rules : Rules) : Reader Unit := do
  let layout ← among [.generic]
  match layout, ← peekKeyword 0 with
  | true, some "HEAP" => skip 1
  | true, some "PARTITION" =>
    skip 1
    rangePartition rules
  | true, some "CLUSTERED" =>
    skip 1
    if ← keywords ["COLUMNSTORE", "INDEX"] then
      optionally (keyword "ORDER") columnNames
    else
      needKeyword "INDEX"
      sortedNames
  | _, _ =>
    discard ident
    needSymbol "="
    discard rules.expr

/-- Options in parentheses behind a keyword, if it is there. -/
def options (rules : Rules) (word : String) : Reader Unit :=
  optionally (keyword word) do
    needSymbol "("
    discard (commaListBefore ")" (settingOption rules))
    needSymbol ")"

/-- As `options` behind several keywords, with at least one option. -/
def optionsBehind (rules : Rules) (words : List String) : Reader Bool := do
  if ← keywords words then
    discard (inParens (commaList (settingOption rules)))
    return true
  return false

/-- A comment as a string in single quotes or between dollar tags. -/
def commentText : Reader Unit := do
  match (← take).token with
  | .string .single _ | .string (.dollar _) _ => return
  | _ => refuse

/-- A comment behind its keyword, if it is there. -/
def inlineComment : Reader Unit :=
  optionally (keyword "COMMENT") do
    discard (symbol "=")
    commentText

def onCluster : Reader Unit := optionally (keywords ["ON", "CLUSTER"]) ident

/-! ### Constraints -/

/-- One more characteristic of a constraint; each kind comes at most once. -/
def characteristics : Nat → Bool → Bool → Bool → Reader Unit
  | 0, _, _, _ => return
  | fuel + 1, deferrable, initially, enforced => do
    if ← both (return !deferrable) (keywords ["NOT", "DEFERRABLE"]) then
      characteristics fuel true initially enforced
    else if ← both (return !deferrable) (keyword "DEFERRABLE") then
      characteristics fuel true initially enforced
    else if ← both (return !initially) (keyword "INITIALLY") then
      discard (needOneOf ["DEFERRED", "IMMEDIATE"])
      characteristics fuel deferrable true enforced
    else if ← both (return !enforced) (keyword "ENFORCED") then
      characteristics fuel deferrable initially true
    else if ← both (return !enforced) (keywords ["NOT", "ENFORCED"]) then
      characteristics fuel deferrable initially true
    else return

/-- When a constraint is checked, and whether it is. -/
def constraintCharacteristics : Reader Unit := characteristics 4 false false false

/-- What becomes of rows whose key goes away. -/
def referentialAction : Reader Unit := do
  if (← oneOf ["RESTRICT", "CASCADE"]).isSome then return
  for words in [["SET", "NULL"], ["NO", "ACTION"], ["SET", "DEFAULT"]] do
    if ← keywords words then return
  refuse

/-- The actions on a change of the key; each event comes at most once. -/
def referentialActions : Nat → List String → Reader Unit
  | 0, _ => return
  | fuel + 1, events => do
    for event in events do
      if ← keywords ["ON", event] then
        referentialAction
        return ← referentialActions fuel (events.erase event)

/-- A reference to a table behind its keyword. -/
def reference : Reader Unit := do
  discard objectName
  discard columnNamesIfAny
  referentialActions 3 ["DELETE", "UPDATE"]
  constraintCharacteristics

def indexType : Reader Bool := do
  if ← keyword "USING" then
    discard (needOneOf ["BTREE", "HASH"])
    return true
  return false

/-- The columns of an index and the options behind them. -/
def indexedColumns : Reader Unit := do
  discard indexType
  discard columnNames
  whileHolds do
    if ← indexType then return true
    if ← keyword "COMMENT" then
      discard stringText
      return true
    return false
  constraintCharacteristics

/-- `NULLS [NOT] DISTINCT`, if it is there. -/
def nullsDistinct : Reader Unit :=
  optionally (keyword "NULLS") do
    allow ["NOT"]
    needKeyword "DISTINCT"

/-- A constraint of a whole table, which may have a name. -/
def tableConstraint (rules : Rules) : Reader Bool := do
  let named ← keyword "CONSTRAINT"
  if named then discard ident
  let indexes ← among [.generic, .mysql]
  match ← peekKeyword 0 with
  | some "UNIQUE" =>
    skip 1
    if (← oneOf ["KEY", "INDEX"]).isSome && !indexes then refuse
    nullsDistinct
    discard (attempt ident)
    indexedColumns
    return true
  | some "PRIMARY" =>
    skip 1
    needKeyword "KEY"
    discard (attempt ident)
    indexedColumns
    return true
  | some "FOREIGN" =>
    skip 1
    needKeyword "KEY"
    discard columnNames
    needKeyword "REFERENCES"
    reference
    return true
  | some "CHECK" =>
    skip 1
    discard (inParens rules.expr)
    return true
  | some word =>
    if indexes && !named && (word = "INDEX" || word = "KEY") then
      skip 1
      if !(← isKeywordAt 0 "USING") then discard (attempt ident)
      discard indexType
      discard columnNames
      return true
    if indexes && (word = "FULLTEXT" || word = "SPATIAL") then
      if named then refuse
      skip 1
      allowOneOf ["KEY", "INDEX"]
      discard (attempt ident)
      discard columnNames
      return true
    if named then refuse else return false
  | none => if named then refuse else return false

/-! ### Columns -/

/-- A number with a sign, or a placeholder, behind the first of the keywords that is there. -/
def numeralBehind (words : List (List String)) : Reader Unit := do
  for phrase in words do
    if ← keywords phrase then
      discard signedNumeral
      return

/-- The options of a sequence, in their order. -/
def sequenceOptions : Reader Unit := do
  numeralBehind [["INCREMENT", "BY"], ["INCREMENT"]]
  for bound in ["MINVALUE", "MAXVALUE"] do
    if ← keyword bound then discard signedNumeral else allow ["NO", bound]
  numeralBehind [["START", "WITH"], ["START"]]
  numeralBehind [["CACHE"]]
  if !(← keywords ["NO", "CYCLE"]) then allow ["CYCLE"]

def sequenceOptionsInParens : Reader Unit := do
  if ← isSymbolAt 0 "(" then inParens sequenceOptions

/-- Behind `GENERATED`. -/
def generatedOption (rules : Rules) : Reader Bool := do
  for words in [["ALWAYS", "AS", "IDENTITY"], ["BY", "DEFAULT", "AS", "IDENTITY"]] do
    if ← keywords words then
      sequenceOptionsInParens
      return true
  if !(← keywords ["ALWAYS", "AS"]) then return false
  if !(← isSymbolAt 0 "(") then return false
  discard (inParens rules.expr)
  if ← keyword "STORED" then return true
  if ← among [.postgres] then refuse
  allow ["VIRTUAL"]
  return true

/-- A keyword that counts only in some dialects, and is taken in all of them. -/
def keywordAmong (words : List String) (dialects : List Dialect) : Reader Bool := do
  if ← keywords words then among dialects else return false

/-- One option of a column. -/
def columnOption (rules : Rules) : Reader Bool := do
  if ← keywords ["CHARACTER", "SET"] then
    discard objectName
    return true
  if ← keywords ["NOT", "NULL"] then return true
  if ← keyword "COMMENT" then
    commentText
    return true
  if ← keyword "NULL" then return true
  if ← keyword "DEFAULT" then
    discard rules.expr
    return true
  for word in ["MATERIALIZED", "ALIAS"] do
    if ← both (among [.generic]) (keyword word) then
      discard rules.expr
      return true
  if ← both (among [.generic]) (keyword "EPHEMERAL") then
    if !((← isSymbolAt 0 ",") || (← isSymbolAt 0 ")")) then discard rules.expr
    return true
  for words in [["PRIMARY", "KEY"], ["UNIQUE"]] do
    if ← keywords words then
      constraintCharacteristics
      return true
  if ← keyword "REFERENCES" then
    reference
    return true
  if ← keyword "CHECK" then
    discard (inParens rules.expr)
    return true
  if ← keywordAmong ["AUTO_INCREMENT"] [.mysql, .generic] then return true
  if ← keywordAmong ["AUTOINCREMENT"] [.sqlite, .generic] then return true
  if ← keywordAmong ["ASC"] [.sqlite, .generic] then return true
  if ← keywordAmong ["DESC"] [.sqlite, .generic] then return true
  if ← keywordAmong ["ON", "UPDATE"] [.mysql, .generic] then
    discard rules.expr
    return true
  if ← keyword "GENERATED" then return ← generatedOption rules
  if ← both (among [.generic]) (isKeywordAt 0 "OPTIONS") then
    options rules "OPTIONS"
    return true
  if ← keywordAmong ["AS"] [.mysql, .sqlite, .generic] then
    discard (inParens rules.expr)
    allowOneOf ["STORED", "VIRTUAL"]
    return true
  if ← keywordAmong ["IDENTITY"] [.generic] then
    if ← isSymbolAt 0 "(" then
      inParens do
        discard signedNumeral
        needSymbol ","
        discard signedNumeral
    return true
  if ← both (among [.sqlite, .generic]) (keywords ["ON", "CONFLICT"]) then
    discard (needOneOf ["ROLLBACK", "ABORT", "FAIL", "IGNORE", "REPLACE"])
    return true
  return false

/-- Words that may follow the name of a column that has no type. -/
def typelessWords : List String :=
  ["CONSTRAINT", "PRIMARY", "NOT", "UNIQUE", "CHECK", "DEFAULT", "COLLATE", "REFERENCES", "GENERATED", "AS"]

/-- Whether a column has a type; in one dialect it need not. -/
def hasType : Reader Bool := do
  if !(← among [.sqlite]) then return true
  match ← peekAt 0 with
  | none => return false
  | some lexeme => match lexeme.token with
    | .word .. => return !lexeme.keyword.any typelessWords.contains
    | _ => return false

def columnDefinition (rules : Rules) : Reader Unit := do
  discard ident
  optionally hasType dataType
  optionally (keyword "COLLATE") objectName
  whileHolds do
    if ← keyword "CONSTRAINT" then
      discard ident
      if ← columnOption rules then return true else refuse
    if ← columnOption rules then return true
    if ← both (among [.mysql, .generic]) (keyword "COLLATE") then
      discard objectName
      return true
    return false

/-- Columns and constraints up to the closing parenthesis. -/
def columnsBefore (rules : Rules) : Nat → Reader Unit
  | 0 => refuse
  | fuel + 1 => do
    if !(← tableConstraint rules) then
      match ← peekToken 0 with
      | some (.word ..) => columnDefinition rules
      | _ => refuse
    let comma ← symbol ","
    if ← symbol ")" then return
    if comma then columnsBefore rules fuel else refuse

/-- The columns and constraints of a table, in parentheses, if there are any. -/
def columnsIfAny (rules : Rules) : Reader Unit := do
  if !(← symbol "(") then return
  if ← symbol ")" then return
  columnsBefore rules ((← get).length + 1)

end Grammar
end Sql
end ShardRouting
