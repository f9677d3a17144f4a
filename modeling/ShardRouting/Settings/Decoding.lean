import ShardRouting.Settings.Toml.Document
import ShardRouting.Settings.Validation

/-! Reading settings from configuration data. A section is a table of named fields, or the list of its
    fields in order. Unknown fields are ignored; a missing field has its default; no data of the wrong
    type or out of range is taken. -/

namespace ShardRouting
namespace Decode

/-- Readers of data fail without a reason. -/
abbrev Reader (α : Type) := Datum → Option α

def string : Reader String
  | .string s => some s
  | _ => none

def bool : Reader Bool
  | .bool b => some b
  | _ => none

/-- A number from zero up to `limit`. -/
def natural (limit : Nat) : Reader Nat
  | .integer n => if 0 ≤ n ∧ n ≤ limit then some n.toNat else none
  | _ => none

/-- Numbers of 32 bits. -/
def small : Reader Nat := natural (UInt32.size - 1)

/-- Numbers of 64 bits. -/
def large : Reader Nat := natural (UInt64.size - 1)

def optional (read : Reader α) : Reader (Option α)
  | .null => some none
  | datum => (read datum).map some

def each (read : Reader α) : List Datum → Option (List α)
  | [] => some []
  | item :: items => do
    let a ← read item
    let as ← each read items
    return a :: as

def list (read : Reader α) : Reader (List α)
  | .list items => each read items
  | _ => none

def eachField (read : Reader α) : List (String × Datum) → Option (List (String × α))
  | [] => some []
  | (name, datum) :: fields => do
    let a ← read datum
    let rest ← eachField read fields
    return if rest.any (·.1 = name) then rest else (name, a) :: rest

/-- A table with fields of any name; of several fields with one name the last. -/
def dictionary (read : Reader α) : Reader (List (String × α))
  | .table fields => eachField read fields
  | _ => none

/-- The fields of a section under the names in `names`, at most one for each. -/
def section? (names : List String) : Datum → Option (List (Option Datum))
  | .table fields => some (names.map (Datum.field? fields))
  | .list items =>
    if items.length ≤ names.length then
      some (items.map some ++ List.replicate (names.length - items.length) none)
    else
      none
  | _ => none

def required (read : Reader α) : Option Datum → Option α
  | some datum => read datum
  | none => none

def withDefault (default : α) (read : Reader α) : Option Datum → Option α
  | some datum => read datum
  | none => some default

def router (datum : Datum) : Option RouterSettings := do
  let d : RouterSettings := {}
  match ← section? ["dialect", "default_schema", "max_between_span", "recursion_limit"] datum with
  | [dialect, defaultSchema, maxBetweenSpan, recursionLimit] =>
    return {
      dialect := ← withDefault d.dialect string dialect
      defaultSchema := ← withDefault none (optional string) defaultSchema
      maxBetweenSpan := ← withDefault d.maxBetweenSpan large maxBetweenSpan
      recursionLimit := ← withDefault d.recursionLimit large recursionLimit }
  | _ => none

def logging (datum : Datum) : Option LoggingSettings := do
  let d : LoggingSettings := {}
  match ← section? ["level", "file_path", "log_to_console", "format", "targets"] datum with
  | [level, filePath, logToConsole, format, targets] =>
    return {
      level := ← withDefault d.level string level
      filePath := ← withDefault none (optional string) filePath
      logToConsole := ← withDefault d.logToConsole bool logToConsole
      format := ← withDefault d.format string format
      targets := ← withDefault [] (dictionary string) targets }
  | _ => none

def rule (datum : Datum) : Option RuleSettings := do
  let names := ["schema", "table", "shard_key", "table_shards", "schema_shards", "table_format",
    "schema_format", "index_width"]
  match ← section? names datum with
  | [schema, table, shardKey, tableShards, schemaShards, tableFormat, schemaFormat, indexWidth] =>
    let d : RuleSettings := { table := "" }
    return {
      schema := ← withDefault none (optional string) schema
      table := ← required string table
      shardKey := ← withDefault none (optional string) shardKey
      tableShards := ← withDefault d.tableShards small tableShards
      schemaShards := ← withDefault d.schemaShards small schemaShards
      tableFormat := ← withDefault d.tableFormat string tableFormat
      schemaFormat := ← withDefault d.schemaFormat string schemaFormat
      indexWidth := ← withDefault d.indexWidth large indexWidth }
  | _ => none

def overrideEntry (datum : Datum) : Option OverrideEntry := do
  match ← section? ["schema", "table", "physical_schema", "physical_table", "value"] datum with
  | [schema, table, physicalSchema, physicalTable, value] =>
    return {
      schema := ← withDefault none (optional string) schema
      table := ← required string table
      physicalSchema := ← withDefault none (optional string) physicalSchema
      physicalTable := ← withDefault none (optional string) physicalTable
      value := ← withDefault none (optional string) value }
  | _ => none

def overrides (datum : Datum) : Option OverrideSettings := do
  match ← section? ["disable_sql_routing", "routes"] datum with
  | [disabled, routes] =>
    return {
      disableSqlRouting := ← withDefault false bool disabled
      routes := ← withDefault [] (list overrideEntry) routes }
  | _ => none

def sequence (datum : Datum) : Option SequenceSettings := do
  match ← section? ["schema", "table", "step", "cache_depth", "timeout_ms"] datum with
  | [schema, table, step, cacheDepth, timeoutMs] =>
    let d : SequenceSettings := { schema := "", table := "" }
    return {
      schema := ← required string schema
      table := ← required string table
      step := ← withDefault d.step small step
      cacheDepth := ← withDefault d.cacheDepth small cacheDepth
      timeoutMs := ← withDefault d.timeoutMs large timeoutMs }
  | _ => none

def sharding (datum : Datum) : Option (List RuleSettings) := do
  match ← section? ["rules"] datum with
  | [rules] => withDefault [] (list rule) rules
  | _ => none

def settings (datum : Datum) : Option Settings := do
  match ← section? ["router", "logging", "sharding", "overrides", "sequences"] datum with
  | [routerData, loggingData, shardingData, overridesData, sequencesData] =>
    return {
      router := ← withDefault {} router routerData
      logging := ← withDefault {} logging loggingData
      rules := ← withDefault [] sharding shardingData
      overrides := ← withDefault {} overrides overridesData
      sequences := ← withDefault [] (list sequence) sequencesData }
  | _ => none

end Decode

/-- Settings from the text of a TOML file, normalized and checked. -/
def Settings.ofToml (text : String) : Except SettingsFault Settings :=
  match Toml.parse text with
  | none => .error (.unparsable "not a TOML document")
  | some fields => match Decode.settings (.table fields) with
    | none => .error (.unparsable "a setting is missing, of the wrong type or out of range")
    | some settings => settings.finalize

end ShardRouting
