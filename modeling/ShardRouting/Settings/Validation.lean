import ShardRouting.Settings.Basic
import ShardRouting.Text.Blank
import ShardRouting.Text.Case
import ShardRouting.Text.Substitute

/-! Checking settings. Names that are compared are written small first; then the sections are checked in
    their order, and the first fault is the answer. -/

namespace ShardRouting

/-- What is wrong with some settings, or with the file that holds them. -/
inductive SettingsFault where
  | unreadable (reason : String)
  | unparsable (reason : String)
  | dialect (name : String)
  | betweenSpan
  | recursionLimit
  | level (name : String)
  | format (name : String)
  | targetLevel (level target : String)
  | ruleTable
  | ruleShards (rule : String)
  | ruleKeyEmpty (rule : String)
  | ruleKeyMissing (rule : String)
  | ruleSchemaFormat (rule : String)
  | duplicateRule (rule : String)
  | overrideBoth (table : String)
  | overrideNeither (table : String)
  | overrideSchema (table : String)
  | sequenceName
  | sequenceField (schema table field : String)
  deriving DecidableEq, Repr

namespace Settings

def dialectNames : List String := ["mysql", "postgres", "generic", "sqlite"]
def levelNames : List String := ["error", "warn", "info", "debug", "trace"]
def formatNames : List String := ["compact", "json"]

end Settings

namespace SettingsFault
open Settings

def oneOf (names : List String) : String := "Must be one of: " ++ ", ".intercalate names

def message : SettingsFault → String
  | unreadable reason => "Failed to read config file: " ++ reason
  | unparsable reason => "Failed to parse config file: " ++ reason
  | dialect name => "Invalid SQL dialect '" ++ name ++ "'. " ++ oneOf dialectNames
  | betweenSpan => "max_between_span cannot be 0"
  | recursionLimit => "recursion_limit cannot be 0"
  | level name => "Invalid log level '" ++ name ++ "'. " ++ oneOf levelNames
  | format name => "Invalid log format '" ++ name ++ "'. " ++ oneOf formatNames
  | targetLevel name target =>
    "Invalid log level '" ++ name ++ "' for target '" ++ target ++ "'. " ++ oneOf levelNames
  | ruleTable => "Sharding rule table name cannot be empty"
  | ruleShards rule => "Sharding rule '" ++ rule ++ "': table_shards and schema_shards must be greater than 0"
  | ruleKeyEmpty rule => "Sharding rule '" ++ rule ++ "': shard_key cannot be empty"
  | ruleKeyMissing rule => "Sharding rule '" ++ rule ++ "' has more than one shard but no shard_key"
  | ruleSchemaFormat rule =>
    "Sharding rule '" ++ rule ++ "': schema_format uses \x7bschema\x7d but the rule has no schema"
  | duplicateRule rule => "Duplicate sharding rule for table '" ++ rule ++ "'"
  | overrideBoth table => "Route override for '" ++ table ++ "' sets both physical_table and value"
  | overrideNeither table => "Route override for '" ++ table ++ "' needs either physical_table or value"
  | overrideSchema table => "Route override for '" ++ table ++ "' sets physical_schema without physical_table"
  | sequenceName => "Sequence schema and table cannot be empty"
  | sequenceField schema table field =>
    "Sequence '" ++ schema ++ "." ++ table ++ "': " ++ field ++ " must be greater than 0"

end SettingsFault

/-- Fails with `fault` unless the condition holds. -/
def ensure (condition : Bool) (fault : ε) : Except ε Unit :=
  if condition then .ok () else .error fault

theorem ensure_eq_ok_iff {condition : Bool} {fault : ε} {u : Unit} :
    ensure condition fault = .ok u ↔ condition = true := by
  cases condition <;> simp [ensure]

def RuleSettings.validate (rule : RuleSettings) : Except SettingsFault Unit := do
  let name := rule.qualifiedName
  ensure (!Text.isBlankText rule.table) .ruleTable
  ensure (rule.tableShards ≠ 0 && rule.schemaShards ≠ 0) (.ruleShards name)
  match rule.shardKey with
  | some key => ensure (!Text.isBlankText key) (.ruleKeyEmpty name)
  | none => ensure (rule.tableShards ≤ 1 && rule.schemaShards ≤ 1) (.ruleKeyMissing name)
  let usesSchema := Text.occurs "\x7bschema\x7d".toList rule.schemaFormat.toList
  ensure (!(1 < rule.schemaShards && rule.schema.isNone && usesSchema)) (.ruleSchemaFormat name)

def OverrideEntry.validate (entry : OverrideEntry) : Except SettingsFault Unit :=
  match entry.physicalTable, entry.value with
  | some _, some _ => .error (.overrideBoth entry.table)
  | none, none => .error (.overrideNeither entry.table)
  | none, some _ => ensure entry.physicalSchema.isNone (.overrideSchema entry.table)
  | some _, none => .ok ()

def SequenceSettings.validate (sequence : SequenceSettings) : Except SettingsFault Unit := do
  let fault := SettingsFault.sequenceField sequence.schema sequence.table
  ensure (!Text.isBlankText sequence.schema && !Text.isBlankText sequence.table) .sequenceName
  ensure (sequence.step ≠ 0) (fault "step")
  ensure (sequence.cacheDepth ≠ 0) (fault "cache_depth")
  ensure (sequence.timeoutMs ≠ 0) (fault "timeout_ms")

/-- The key under which a rule is looked up. -/
def tableKey (schema : Option String) (table : String) : Option String × String :=
  (schema.map Text.lower, Text.lower table)

namespace Settings

/-- Each rule is sound, and no two have the same key; `seen` holds the keys of the rules before. -/
def validateRules (seen : List (Option String × String)) : List RuleSettings → Except SettingsFault Unit
  | [] => .ok ()
  | rule :: rules => do
    rule.validate
    let key := tableKey rule.schema rule.table
    ensure (!seen.contains key) (.duplicateRule rule.qualifiedName)
    validateRules (key :: seen) rules

def validateAll (check : α → Except SettingsFault Unit) : List α → Except SettingsFault Unit
  | [] => .ok ()
  | a :: as => do
    check a
    validateAll check as

def validate (settings : Settings) : Except SettingsFault Unit := do
  ensure (dialectNames.contains settings.router.dialect) (.dialect settings.router.dialect)
  ensure (settings.router.maxBetweenSpan ≠ 0) .betweenSpan
  ensure (settings.router.recursionLimit ≠ 0) .recursionLimit
  ensure (levelNames.contains settings.logging.level) (.level settings.logging.level)
  ensure (formatNames.contains settings.logging.format) (.format settings.logging.format)
  validateAll (fun (target, level) => ensure (levelNames.contains level) (.targetLevel level target))
    settings.logging.targets
  validateRules [] settings.rules
  validateAll OverrideEntry.validate settings.overrides.routes
  validateAll SequenceSettings.validate settings.sequences

/-- Names written small. -/
def normalize (settings : Settings) : Settings :=
  { settings with
    router := { settings.router with
      dialect := Text.lower settings.router.dialect
      defaultSchema := settings.router.defaultSchema.map Text.lower }
    logging := { settings.logging with
      level := Text.lower settings.logging.level
      format := Text.lower settings.logging.format } }

/-- Normalized settings, if they are sound. -/
def finalize (settings : Settings) : Except SettingsFault Settings := do
  let settings := settings.normalize
  settings.validate
  return settings

end Settings
end ShardRouting
