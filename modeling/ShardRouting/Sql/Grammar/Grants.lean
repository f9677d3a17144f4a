import ShardRouting.Sql.Grammar.Alterations

/-! Statements that grant privileges and take them back. They are recognized and no more. -/

namespace ShardRouting
namespace Sql
namespace Grammar

/-- The first of the phrases that comes next, as its words. -/
def onePhrase (phrases : List (List String)) : Reader Bool := do
  for words in phrases do
    if ← keywords words then return true
  return false

/-- Privileges of one or more words that nothing follows. -/
def plainPrivileges : List (List String) :=
  [["IMPORTED", "PRIVILEGES"], ["ADD", "SEARCH", "OPTIMIZATION"], ["ATTACH", "LISTING"], ["ATTACH", "POLICY"],
    ["BIND", "SERVICE", "ENDPOINT"], ["EVOLVE", "SCHEMA"], ["IMPORT", "SHARE"], ["MANAGE", "VERSIONS"],
    ["MANAGE", "RELEASES"], ["OVERRIDE", "SHARE", "RESTRICTIONS"],
    ["PURCHASE", "DATA", "EXCHANGE", "LISTING"], ["RESOLVE", "ALL"], ["READ", "SESSION"], ["APPLYBUDGET"],
    ["AUDIT"], ["CONNECT"], ["DELETE"], ["FAILOVER"], ["OPERATE"], ["OWNERSHIP"], ["READ"], ["REPLICATE"],
    ["TEMPORARY"], ["TRIGGER"], ["TRUNCATE"], ["USAGE"]]

/-- What may be applied to an object. -/
def appliedPhrases : List (List String) :=
  [["AGGREGATION", "POLICY"], ["AUTHENTICATION", "POLICY"], ["JOIN", "POLICY"], ["MASKING", "POLICY"],
    ["PACKAGES", "POLICY"], ["PASSWORD", "POLICY"], ["PROJECTION", "POLICY"], ["ROW", "ACCESS", "POLICY"],
    ["SESSION", "POLICY"], ["TAG"]]

/-- What may be created. -/
def createdPhrases : List (List String) :=
  [["APPLICATION", "PACKAGE"], ["COMPUTE", "POOL"], ["DATA", "EXCHANGE", "LISTING"], ["EXTERNAL", "VOLUME"],
    ["FAILOVER", "GROUP"], ["NETWORK", "POLICY"], ["ORGANIZATION", "LISTING"], ["REPLICATION", "GROUP"],
    ["ACCOUNT"], ["APPLICATION"], ["DATABASE"], ["INTEGRATION"], ["ROLE"], ["SHARE"], ["USER"], ["WAREHOUSE"]]

/-- What may be executed. -/
def executedPhrases : List (List String) :=
  [["DATA", "METRIC", "FUNCTION"], ["MANAGED", "ALERT"], ["MANAGED", "TASK"], ["TASK"], ["ALERT"]]

/-- What may be managed. -/
def managedPhrases : List (List String) :=
  [["ACCOUNT", "SUPPORT", "CASES"], ["EVENT", "SHARING"], ["GRANTS"], ["LISTING", "AUTO", "FULFILLMENT"],
    ["ORGANIZATION", "SUPPORT", "CASES"], ["USER", "SUPPORT", "CASES"], ["WAREHOUSES"]]

/-- What may be modified. -/
def modifiedPhrases : List (List String) :=
  [["LOG", "LEVEL"], ["TRACE", "LEVEL"], ["SESSION", "LOG", "LEVEL"], ["SESSION", "TRACE", "LEVEL"]]

/-- What may be monitored. -/
def monitoredPhrases : List (List String) := [["EXECUTION"], ["SECURITY"], ["USAGE"]]

def privilege : Reader Unit := do
  if ← onePhrase plainPrivileges then return
  if ← keywords ["DATABASE", "ROLE"] then return ← discard objectName
  match ← needOneOf ["APPLY", "CREATE", "EXECUTE", "MANAGE", "MODIFY", "MONITOR", "ROLE", "INSERT",
    "REFERENCES", "SELECT", "UPDATE"] with
  | "APPLY" => need (onePhrase appliedPhrases)
  | "CREATE" => discard (onePhrase createdPhrases)
  | "EXECUTE" => discard (onePhrase executedPhrases)
  | "MANAGE" => need (onePhrase managedPhrases)
  | "MODIFY" => discard (onePhrase modifiedPhrases)
  | "MONITOR" => discard (onePhrase monitoredPhrases)
  | "ROLE" => discard ident
  | _ => discard columnNamesIfAny

/-- Privileges with commas between them; a comma may stand behind the last one. -/
def privilegeList : Nat → Reader Unit
  | 0 => refuse
  | fuel + 1 => do
    privilege
    if ← symbol "," then
      let ends := match ← peekAt 0 with
        | none => true
        | some lexeme => lexeme.keyword = some "ON" || match lexeme.token with
          | .symbol text => [")", ";", "]", "\x7d"].contains text
          | _ => false
      if !ends then privilegeList fuel

/-- A part of an object's name, or all objects. -/
def nameOrAll : Reader Unit := do
  if !(← symbol "*") then discard ident

/-- The name of an object, any part of which may stand for all. -/
def objectPattern : Reader Unit := do
  nameOrAll
  whileHolds do
    if ← symbol "." then
      nameOrAll
      return true
    return false

/-- What is granted, and on which objects. -/
def grantedRights : Reader Unit := do
  if ← keyword "ALL" then allow ["PRIVILEGES"]
  else privilegeList ((← get).length + 1)
  optionally (keyword "ON") do
    if ← onePhrase [["ALL", "TABLES", "IN", "SCHEMA"], ["ALL", "SEQUENCES", "IN", "SCHEMA"]] then
      discard objectNames
    else
      allowOneOf ["SEQUENCE", "DATABASE", "SCHEMA", "TABLE", "VIEW", "WAREHOUSE", "INTEGRATION"]
      discard (commaList objectPattern)

/-- Who is given a privilege. Behind `PUBLIC` no more names are read. -/
def grantees : Nat → Bool → Reader Unit
  | 0, _ => refuse
  | fuel + 1, everybody => do
    let everybody ← if ← onePhrase [["ROLE"], ["USER"], ["SHARE"], ["GROUP"]] then pure false
      else if ← keyword "PUBLIC" then pure true
      else if ← onePhrase [["DATABASE", "ROLE"], ["APPLICATION", "ROLE"], ["APPLICATION"]] then pure false
      else pure everybody
    if !everybody then
      grantee
      optionally (symbol ":") ident
    if ← symbol "," then grantees fuel everybody

def grantedBy : Reader Unit := optionally (keywords ["GRANTED", "BY"]) ident

/-- Behind `GRANT`. -/
def grantStatement : Reader Unit := do
  grantedRights
  needKeyword "TO"
  grantees ((← get).length + 1) false
  allow ["WITH", "GRANT", "OPTION"]
  grantedBy

/-- Behind `REVOKE`. -/
def revokeStatement : Reader Unit := do
  grantedRights
  needKeyword "FROM"
  grantees ((← get).length + 1) false
  grantedBy
  cascade

end Grammar
end Sql
end ShardRouting
