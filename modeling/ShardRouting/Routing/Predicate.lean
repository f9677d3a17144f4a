import ShardRouting.Routing.Progress
import ShardRouting.Routing.Value

/-! Predicates on shard keys. An equality, a list and a range route the table that their column is bound
    to; each value must agree with those before it. All other predicates on a shard key are refused, and
    so is every predicate under `NOT`. -/

namespace ShardRouting
namespace Walk

/-- The bound table that a column stands for. -/
def boundTable (column : ColumnRef) : Walk (Option (Nat × Binding)) := do
  match (← get).scope.resolve column.key with
  | .unknown => return none
  | .bound index binding => return some (index, binding)
  | .ambiguous => throw (.ambiguous column.display)

/-- Writes down what is known of a bound table. -/
def updateTable (index : Nat) (binding : Binding) : Walk Unit :=
  modify fun progress => { progress with scope := progress.scope.update index binding }

/-- The first route of a table stands; any other must lead to the same place. -/
def acceptRoute (binding : Binding) (route : Destination) (value : ShardValue) : Walk Binding := do
  match binding.route with
  | some first =>
    if first.same route then return binding
    else throw (.conflict binding.table.value first route value)
  | none =>
    tell (.routed binding.table.value route)
    addSchema route.schema
    return { binding with route := some route }

/-- Routes a table by a value, unless values in statements are disabled. -/
def routeValue (setting : Setting) (binding : Binding) (value : ShardValue) : Walk Binding := do
  if setting.overrides.sqlRoutingDisabled then
    tell (.ignored binding.table.value value)
    return binding
  else
    match ← ask setting binding.schema binding.table.value (some value) with
    | some route => acceptRoute binding route value
    | none => throw (.notFound (.unroutable binding.table.value value))

def routeValues (setting : Setting) (binding : Binding) : List ShardValue → Walk Binding
  | [] => return binding
  | value :: values => do routeValues setting (← routeValue setting binding value) values

/-- Sources are kept only while values in statements count. -/
def addSource (setting : Setting) (source : RouteSource) (binding : Binding) : Binding :=
  if setting.overrides.sqlRoutingDisabled then binding
  else { binding with sources := binding.sources ++ [source] }

/-- The value of an expression that stands by a column. -/
def readFor (setting : Setting) (column : ColumnRef) (e : Sql.Expr) : Walk Reading :=
  match readValue setting.scan setting.params e with
  | .ok reading => return reading
  | .error part => throw (.valueType part.text column.display)

/-- Routes a table by the value of one expression. -/
def routeItem (setting : Setting) (column : ColumnRef) (binding : Binding) (e : Sql.Expr) : Walk Binding := do
  match ← readFor setting column e with
  | .known value source =>
    let binding ← routeValue setting binding value
    return addSource setting (.value source) binding
  | .unbound key =>
    tell (.deferredValue column.display key)
    return addSource setting (.value (.param key)) binding

def routeItems (setting : Setting) (column : ColumnRef) (binding : Binding) : List Sql.Expr → Walk Binding
  | [] => return binding
  | e :: es => do routeItems setting column (← routeItem setting column binding e) es

def refuse (text : String) (fault : PredicateFault) : Walk α := throw (.predicate text fault)

/-- The predicate `column = right`. -/
def onEquality (setting : Setting) (underNot : Bool) (column : ColumnRef) (right : Sql.Expr) :
    Walk Unit := do
  match ← boundTable column with
  | none => return ()
  | some (index, binding) =>
    if underNot then refuse (column.display ++ " = " ++ right.text) .underNot
    updateTable index (← routeItem setting column (binding.see column.display) right)

/-- The predicate `column IN (items)`, or its negation when `negated` is set. -/
def onInList (setting : Setting) (underNot : Bool) (column : ColumnRef) (negated : Bool)
    (items : List Sql.Expr) : Walk Unit := do
  match ← boundTable column with
  | none => return ()
  | some (index, binding) =>
    if negated then refuse (column.display ++ " NOT IN (..)") .negated
    if underNot then refuse (column.display ++ " IN (..)") .underNot
    if items.isEmpty then refuse (column.display ++ " IN ()") .emptyList
    updateTable index (← routeItems setting column (binding.see column.display) items)

/-- The integers of a range, if both its bounds are integers and it is neither empty nor too wide. -/
def rangeOf (limit : Nat) (text : String) (low high : ShardValue) : Walk (List ShardValue) := do
  match low.toWord?, high.toWord? with
  | some low, some high =>
    if high < low then refuse text .emptyRange
    let span := high.toInt - low.toInt + 1
    if span > limit then refuse text (.wideRange span limit)
    return integersBetween low high
  | _, _ => refuse text .boundsNotIntegers

/-- Routes a table by every integer of a range, once both bounds are known. -/
def routeRange (setting : Setting) (text : String) (binding : Binding) (low high : Reading) :
    Walk Binding := do
  match low, high with
  | .known low lowSource, .known high highSource =>
    let values ← rangeOf setting.options.maxBetweenSpan text low high
    let binding ← routeValues setting binding values
    return addSource setting (.range lowSource highSource) binding
  | low, high =>
    tell (.deferredRange text)
    return addSource setting (.range low.source high.source) binding

/-- The predicate `column BETWEEN low AND high`, or its negation when `negated` is set. -/
def onBetween (setting : Setting) (underNot : Bool) (column : ColumnRef) (negated : Bool)
    (low high : Sql.Expr) : Walk Unit := do
  match ← boundTable column with
  | none => return ()
  | some (index, binding) =>
    let text := column.display ++ " BETWEEN " ++ low.text ++ " AND " ++ high.text
    if negated then refuse ("NOT " ++ text) .negated
    if underNot then refuse text .underNot
    let low ← readFor setting column low
    let high ← readFor setting column high
    updateTable index (← routeRange setting text (binding.see column.display) low high)

/-- A predicate that no value can be read from. -/
def onOther (left : Sql.Expr) (operator text : String) : Walk Unit := do
  match ColumnRef.ofExpr? left with
  | none => return ()
  | some column =>
    match (← get).scope.resolve column.key with
    | .unknown => return ()
    | _ => refuse text (.operator operator column.display)

end Walk
end ShardRouting
