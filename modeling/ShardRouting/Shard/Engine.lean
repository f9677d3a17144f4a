import ShardRouting.Shard.Destination
import ShardRouting.Shard.Error
import ShardRouting.Shard.Value

/-! The contract of a rule engine: which column of a logical table decides on its shard, and where a
    shard value of that table lives. -/

namespace ShardRouting

/-- Attributes that the caller hands to every question of one routing. -/
abbrev RouteContext := List (String × String)

/-- The value of an attribute; of several entries the last one counts. -/
def RouteContext.attribute? (context : RouteContext) (name : String) : Option String :=
  (context.reverse.find? fun (key, _) => key = name).map (·.2)

/-- What the engine knows of a logical table: `sharded` by a column, or known and left where it is. -/
inductive TableConfig where
  | sharded (key : String)
  | unsharded
  deriving DecidableEq, Repr

/-- A rule engine answers by its arguments alone. Asked without value, `route` answers for tables that
    need none. -/
structure RuleEngine where
  config : RouteContext → Option String → String → Option TableConfig
  route : RouteContext → Option String → String → Option ShardValue → Except ShardingError (Option Destination)

/-- The shard key of a table that the engine shards. -/
def RuleEngine.shardKey? (engine : RuleEngine) (context : RouteContext) (schema : Option String)
    (table : String) : Option String :=
  match engine.config context schema table with
  | some (.sharded key) => some key
  | _ => none

end ShardRouting
