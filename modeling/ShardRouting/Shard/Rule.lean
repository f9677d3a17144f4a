import ShardRouting.Settings.Validation
import ShardRouting.Shard.Engine

/-! Modulo rules. A rule maps each value of a logical table to one of its table shards, and each table
    shard to one of its schema shards; templates write the physical names. -/

namespace ShardRouting

/-- A modulo rule. Its names are small, and it has at least one shard of each kind. -/
structure ShardRule where
  schema : Option String
  table : String
  shardKey : Option String
  tableShards : Nat
  schemaShards : Nat
  tableFormat : String
  schemaFormat : String
  indexWidth : Nat
  tableShards_pos : 0 < tableShards
  schemaShards_pos : 0 < schemaShards
  deriving DecidableEq, Repr

namespace ShardRule

/-- A rule with one schema shard and the default templates. No shards count as one. -/
def make (schema : Option String) (table : String) (shardKey : Option String) (tableShards : Nat) :
    ShardRule where
  schema := schema.map Text.lower
  table := Text.lower table
  shardKey := shardKey.map Text.lower
  tableShards := max 1 tableShards
  schemaShards := 1
  tableFormat := "\x7btable\x7d_\x7bindex\x7d"
  schemaFormat := "\x7bschema\x7d_\x7bindex\x7d"
  indexWidth := 0
  tableShards_pos := by omega
  schemaShards_pos := by omega

def withSchemaShards (rule : ShardRule) (schemaShards : Nat) : ShardRule :=
  { rule with schemaShards := max 1 schemaShards, schemaShards_pos := by omega }

def withFormats (rule : ShardRule) (tableFormat schemaFormat : String) : ShardRule :=
  { rule with tableFormat, schemaFormat }

def withIndexWidth (rule : ShardRule) (indexWidth : Nat) : ShardRule := { rule with indexWidth }

/-- The rule that some settings describe, without a check of them. -/
def describe (settings : RuleSettings) : ShardRule :=
  (make settings.schema settings.table settings.shardKey settings.tableShards
    |>.withSchemaShards settings.schemaShards
    |>.withFormats settings.tableFormat settings.schemaFormat).withIndexWidth settings.indexWidth

def ofSettings (settings : RuleSettings) : Except ShardingError ShardRule := do
  let name := settings.qualifiedName
  ensure (!Text.isBlankText settings.table) (.invalidRule .emptyTable)
  ensure (settings.tableShards ≠ 0 && settings.schemaShards ≠ 0) (.invalidRule (.noShard name))
  ensure (settings.shardKey.isSome || (settings.tableShards ≤ 1 && settings.schemaShards ≤ 1))
    (.invalidRule (.noKey name))
  return describe settings

/-- Every value lands in the same place. -/
def isSingle (rule : ShardRule) : Bool := rule.tableShards = 1 && rule.schemaShards = 1

def config (rule : ShardRule) : TableConfig :=
  match rule.shardKey with
  | some key => .sharded key
  | none => .unsharded

/-- Fills a template: the schema first, then the table, then the index, each everywhere it stands. -/
def render (rule : ShardRule) (format schema table : String) (index : Nat) : String :=
  let format := Text.replace format "\x7bschema\x7d" schema
  let format := Text.replace format "\x7btable\x7d" table
  Text.replace format "\x7bindex\x7d" (Number.padded rule.indexWidth index)

/-- The destination of a table as it was written. Without schema of its own the table has the schema of
    the rule; no value counts as index zero. -/
def resolve (rule : ShardRule) (schema : Option String) (table : String) (value : Option ShardValue) :
    Except ShardingError Destination :=
  match schema.or rule.schema with
  | none => .error (.routeFailed ("no schema available to route table '" ++ table ++ "'"))
  | some schema =>
    let tableIndex := match value with
      | some value => value.bucket rule.tableShards
      | none => 0
    let schemaIndex := tableIndex % rule.schemaShards
    .ok {
      schema := if rule.schemaShards = 1 then schema else rule.render rule.schemaFormat schema table schemaIndex
      table := if rule.tableShards = 1 then table else rule.render rule.tableFormat schema table tableIndex }

def key (rule : ShardRule) : Option String × String := (rule.schema, rule.table)

end ShardRule

/-- Rules in the order they were added, no two with the same key. -/
structure RuleSet where
  rules : List ShardRule := []

namespace RuleSet

def empty : RuleSet := {}

/-- The rule under a key, if there is one. -/
def at? (set : RuleSet) (key : Option String × String) : Option ShardRule := set.rules.find? (·.key = key)

def add (set : RuleSet) (rule : ShardRule) : Except ShardingError RuleSet :=
  match set.at? rule.key with
  | some _ => .error (.invalidRule (.duplicate rule.table))
  | none => .ok { rules := set.rules ++ [rule] }

def addAll (set : RuleSet) : List RuleSettings → Except ShardingError RuleSet
  | [] => .ok set
  | settings :: rest => do
    let rule ← ShardRule.ofSettings settings
    let set ← set.add rule
    set.addAll rest

/-- The rules that some settings describe. -/
def ofSettings (settings : List RuleSettings) : Except ShardingError RuleSet := empty.addAll settings

/-- The rule of a table: the one of its schema, else the one without schema. -/
def find? (set : RuleSet) (schema : Option String) (table : String) : Option ShardRule :=
  let fallback := set.at? (none, Text.lower table)
  match schema with
  | some schema => (set.at? (some (Text.lower schema), Text.lower table)).or fallback
  | none => fallback

def config (set : RuleSet) (schema : Option String) (table : String) : Option TableConfig :=
  (set.find? schema table).map ShardRule.config

/-- Without value only the tables with a single destination have an answer. -/
def route (set : RuleSet) (schema : Option String) (table : String) (value : Option ShardValue) :
    Except ShardingError (Option Destination) :=
  match set.find? schema table with
  | none => .ok none
  | some rule =>
    if value.isNone && !rule.isSingle then .ok none else (rule.resolve schema table value).map some

/-- The rules as an engine; they ask nothing of the context. -/
def engine (set : RuleSet) : RuleEngine where
  config := fun _ schema table => set.config schema table
  route := fun _ schema table value => set.route schema table value

end RuleSet
end ShardRouting
