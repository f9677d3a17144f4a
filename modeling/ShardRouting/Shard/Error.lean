/-! Errors of rule engines, override stores and sequences. -/

namespace ShardRouting

/-- Why a rule, an override or a sequence is refused. -/
inductive RuleFault where
  | emptyTable
  | noShard (rule : String)
  | noKey (rule : String)
  | duplicate (table : String)
  | noPhysicalSchema (table : String)
  | notOneTarget (table : String)
  | sequence (schema table : String)
  | other (text : String)
  deriving DecidableEq, Repr

def RuleFault.message : RuleFault → String
  | emptyTable => "table name cannot be empty"
  | noShard rule => "rule '" ++ rule ++ "' must have at least one table and schema shard"
  | noKey rule => "rule '" ++ rule ++ "' has more than one shard but no shard_key"
  | duplicate table => "duplicate rule for table '" ++ table ++ "'"
  | noPhysicalSchema table => "route override for '" ++ table ++ "' has no physical schema"
  | notOneTarget table =>
    "route override for '" ++ table ++ "' needs exactly one of physical_table or value"
  | sequence schema table =>
    "sequence '" ++ schema ++ "." ++ table ++ "' needs positive step, cache_depth and timeout_ms"
  | other text => text

inductive ShardingError where
  | invalidRule (fault : RuleFault)
  | routeFailed (reason : String)
  | noAvailableIdRange (reason : String)
  | timeout (reason : String)
  deriving DecidableEq, Repr

def ShardingError.message : ShardingError → String
  | invalidRule fault => "Invalid sharding rule: " ++ fault.message
  | routeFailed reason => "Route failed: " ++ reason
  | noAvailableIdRange reason => "No available id range: " ++ reason
  | timeout reason => "Timed out: " ++ reason

end ShardRouting
