/-! Settings of the router, as a configuration file gives them. Every field but the names of tables has
    a default. -/

namespace ShardRouting

/-- How statements are read and how far ranges are routed. -/
structure RouterSettings where
  dialect : String := "mysql"
  /-- The schema of tables written without one. -/
  defaultSchema : Option String := none
  maxBetweenSpan : Nat := 1024
  recursionLimit : Nat := 512
  deriving DecidableEq, Repr

structure LoggingSettings where
  level : String := "info"
  filePath : Option String := none
  logToConsole : Bool := true
  format : String := "compact"
  /-- Levels of single log targets. -/
  targets : List (String × String) := []
  deriving DecidableEq, Repr

/-- The sharding of one logical table. Without schema it holds in every schema; without key the table is
    not sharded. -/
structure RuleSettings where
  schema : Option String := none
  table : String
  shardKey : Option String := none
  tableShards : Nat := 1
  schemaShards : Nat := 1
  tableFormat : String := "\x7btable\x7d_\x7bindex\x7d"
  schemaFormat : String := "\x7bschema\x7d_\x7bindex\x7d"
  indexWidth : Nat := 0
  deriving DecidableEq, Repr

/-- A manual route of one table: a physical table, or a value for the rule engine. -/
structure OverrideEntry where
  schema : Option String := none
  table : String
  physicalSchema : Option String := none
  physicalTable : Option String := none
  value : Option String := none
  deriving DecidableEq, Repr

structure OverrideSettings where
  disableSqlRouting : Bool := false
  routes : List OverrideEntry := []
  deriving DecidableEq, Repr

/-- An allocator of ids: it fetches ranges of `step` ids and keeps `cacheDepth` of them. -/
structure SequenceSettings where
  schema : String
  table : String
  step : Nat := 100
  cacheDepth : Nat := 3
  timeoutMs : Nat := 3000
  deriving DecidableEq, Repr

structure Settings where
  router : RouterSettings := {}
  logging : LoggingSettings := {}
  rules : List RuleSettings := []
  overrides : OverrideSettings := {}
  sequences : List SequenceSettings := []
  deriving DecidableEq, Repr

/-- `schema.table`, or the table alone. -/
def qualified (schema : Option String) (table : String) : String :=
  match schema with
  | some schema => schema ++ "." ++ table
  | none => table

def RuleSettings.qualifiedName (rule : RuleSettings) : String := qualified rule.schema rule.table

end ShardRouting
