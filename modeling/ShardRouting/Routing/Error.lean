import ShardRouting.Routing.Source
import ShardRouting.Shard.Error
import ShardRouting.Sql.Scan

/-! Why a statement cannot be routed, or a prepared one not be run. Messages quote the statement. -/

namespace ShardRouting

/-- Why a predicate on a shard key decides on no shard. -/
inductive PredicateFault where
  /-- An operator `NOT` stands around it. -/
  | underNot
  /-- It is negated itself. -/
  | negated
  | emptyList
  | boundsNotIntegers
  | emptyRange
  | wideRange (span : Int) (limit : Nat)
  /-- Only equalities, lists and ranges hold shard values. -/
  | operator (name column : String)
  deriving DecidableEq, Repr

def PredicateFault.message : PredicateFault → String
  | underNot => "it is under 'not'"
  | negated => "it contains 'not'"
  | emptyList => "the 'in' list is empty"
  | boundsNotIntegers => "its bounds are not integers"
  | emptyRange => "its range is empty"
  | wideRange span limit =>
    "its range of " ++ toString span ++ " values exceeds the limit of " ++ toString limit
  | operator name column => "operator '" ++ name ++ "' cannot route shard key '" ++ column ++ "'"

/-- Why no destination was found for a table. -/
inductive RouteFault where
  /-- The rule engine sends the value nowhere. -/
  | unroutable (table : String) (value : ShardValue)
  /-- The rule engine sends the value of the override nowhere. -/
  | unroutableOverride (table : String) (value : ShardValue)
  /-- No predicate speaks of the shard key. -/
  | noPredicate (column : String)
  /-- Predicates speak of the shard key, but without a value that counts. -/
  | noValue (column table : String)
  deriving DecidableEq, Repr

/-- Why parameters do not fit the tables of a routed statement. -/
inductive CrossingFault where
  | unbound (source : ValueSource)
  | notInteger (value : ShardValue)
  | range (low high : Int64)
  | moved (value : ShardValue) (table : String) (found expected : Destination)
  | lost (value : ShardValue) (table : String)
  deriving DecidableEq, Repr

def CrossingFault.message : CrossingFault → String
  | unbound source => "parameter " ++ source.display ++ " is not bound"
  | notInteger value => "range bound " ++ value.display ++ " is not an integer"
  | range low high =>
    "range [" ++ toString low.toInt ++ ", " ++ toString high.toInt ++ "] cannot be routed"
  | moved value table found expected =>
    "value " ++ value.display ++ " routes table '" ++ table ++ "' to '" ++ found.display ++
      "' instead of '" ++ expected.display ++ "'"
  | lost value table => "value " ++ value.display ++ " does not route table '" ++ table ++ "'"

inductive RoutingError where
  | statement (fault : Sql.StatementFault)
  | predicate (text : String) (fault : PredicateFault)
  /-- The expression `text` gives no shard value. -/
  | valueType (text column : String)
  /-- The column may belong to more than one table. -/
  | ambiguous (column : String)
  /-- The values of one table disagree. -/
  | conflict (table : String) (first second : Destination) (value : ShardValue)
  | notFound (fault : RouteFault)
  | crossing (fault : CrossingFault) (tables : List RoutedTable) (params : Params)
  | unknownDialect (name : String)
  | engine (error : ShardingError)
  deriving DecidableEq, Repr

/-- The statement, as messages quote it. -/
def sourceText (sql : String) : String := "source sql is [" ++ sql ++ "]"

def RouteFault.message (sql : String) : RouteFault → String
  | unroutable table value =>
    "no route for table '" ++ table ++ "' and shard value " ++ value.display ++ ", " ++ sourceText sql
  | unroutableOverride table value =>
    "override value " ++ value.display ++ " does not route table '" ++ table ++ "', " ++ sourceText sql
  | noPredicate column =>
    "No shard value was configured for shard key '" ++ column ++ "' in sql [" ++ sql ++ "]"
  | noValue column table =>
    "SQL routing is disabled or the value of shard key '" ++ column ++ "' could not be resolved, " ++
      "and no route override was registered for table '" ++ table ++ "'; " ++ sourceText sql

def RoutingError.message (sql : String) : RoutingError → String
  | statement fault => "Failed to parse sql [" ++ sql ++ "]: " ++ fault.message
  | predicate text fault =>
    "Unsupported expression: shard key expression '" ++ text ++ "' is not supported for " ++
      fault.message ++ ", " ++ sourceText sql
  | valueType text column =>
    "Unsupported value type: expression '" ++ text ++ "' is not supported for shard key '" ++ column ++
      "', " ++ sourceText sql
  | ambiguous column =>
    "Ambiguous shard key: shard key '" ++ column ++ "' is ambiguous in this scope, " ++ sourceText sql
  | conflict table first second value =>
    "Conflicting route: table '" ++ table ++ "' is routed to both '" ++ first.display ++ "' and '" ++
      second.display ++ "' (shard value " ++ value.display ++ "), " ++ sourceText sql
  | notFound fault => "Route not found: " ++ fault.message sql
  | crossing fault tables params =>
    "Crossing prepared statement: " ++ fault.message ++ "; " ++ sourceText sql ++ ", routed tables " ++
      (Json.array (tables.map RoutedTable.json)).compact ++ ", parameters " ++ params.json.compact
  | unknownDialect name => "Invalid router configuration: unknown SQL dialect '" ++ name ++ "'"
  | engine error => "Rule engine error: " ++ error.message

end ShardRouting
