import ShardRouting.Routing.Param
import ShardRouting.Shard.Destination

/-! Routed tables and the values that routed them. -/

namespace ShardRouting

/-- Where a shard value comes from. -/
inductive ValueSource where
  | literal (value : ShardValue)
  | param (key : ParamKey)
  deriving DecidableEq, Repr

namespace ValueSource

/-- The value of a source under some parameters. -/
def value? (params : Params) : ValueSource → Option ShardValue
  | literal value => some value
  | param key => params.get? key

/-- The source as it is named to the caller. -/
def display : ValueSource → String
  | literal value => value.display
  | param key => key.display

def json : ValueSource → Json
  | literal value => .object [("literal", value.json)]
  | param key => .object [("param", key.json)]

end ValueSource

/-- A predicate that took part in the routing of a table. -/
inductive RouteSource where
  /-- An equality, one item of a list, or the value of a column in an inserted row. -/
  | value (source : ValueSource)
  /-- All integers between two bounds, both included. -/
  | range (low high : ValueSource)
  deriving DecidableEq, Repr

def RouteSource.json : RouteSource → Json
  | value source => .object [("value", source.json)]
  | range low high => .object [("range", .object [("low", low.json), ("high", high.json)])]

/-- A table as the statement names it, with its schema or the default schema, and where it is sent.
    There are no sources when neither values nor parameters decided on the route. -/
structure RoutedTable where
  schema : Option String
  table : String
  route : Destination
  sources : List RouteSource := []
  deriving DecidableEq, Repr

def RoutedTable.json (routed : RoutedTable) : Json :=
  .object ([("schema", .ofOption .string routed.schema), ("table", .string routed.table),
    ("route", routed.route.json)] ++
    if routed.sources.isEmpty then [] else [("sources", .array (routed.sources.map RouteSource.json))])

/-- The integers from `low` to `high`, both included. -/
def integersBetween (low high : Int64) : List ShardValue :=
  (List.range (high.toInt - low.toInt + 1).toNat).map fun (i : Nat) => .int (Int64.ofInt (low.toInt + i))

end ShardRouting
