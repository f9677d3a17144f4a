import ShardRouting.Routing.Progress
import ShardRouting.Routing.Relocation

/-! The beginning and the end of scopes: binding the sharded tables of a statement, and deciding on the
    route of each bound table when all its predicates are known. -/

namespace ShardRouting
open Sql
namespace Walk

/-- Binds a table that the rule engine shards; `depth` counts the scopes that are open. -/
def bindTable (setting : Setting) (depth : Nat) (slot : Slot) (name : ObjectName) (alias_ : Option String) :
    Walk Unit := do
  match name.split? with
  | none => return ()
  | some (schema, table) =>
    let schema := (schema.map Ident.value).or setting.options.defaultSchema
    match setting.engine.shardKey? setting.context schema table.value with
    | none => return ()
    | some key =>
      tell (.bound table.value key depth)
      let (scope, many) := (← get).scope.register { slot, schema, table, alias_, key }
      modify fun progress => { progress with scope }
      many.forM fun key => tell (.ambiguous key)

/-- Binds the numbered tables of a statement, the first of which has number `index`. -/
def bindFactors (setting : Setting) (depth : Nat) (index : Nat) : List Factor → Walk Unit
  | [] => return ()
  | factor :: factors => do
    bindTable setting depth (.factor index) factor.name (factor.alias_.map fun alias_ => alias_.name.value)
    bindFactors setting depth (index + 1) factors

/-- The route of a table that no value decided on: where the engine sends it without value, else its
    override. -/
def fallbackRoute (setting : Setting) (binding : Binding) : Walk Destination := do
  let table := binding.table.value
  match ← ask setting binding.schema table none with
  | some route =>
    tell (.routedByDefault table route)
    return route
  | none => match setting.overrides.find? binding.schema table with
    | some (.route route) =>
      tell (.overridden table route)
      return route
    | some (.value value) =>
      tell (.overriddenBy table value)
      match ← ask setting binding.schema table (some value) with
      | some route => return route
      | none => throw (.notFound (.unroutableOverride table value))
    | none =>
      if binding.seenKey.isNone then throw (.notFound (.noPredicate binding.column))
      else throw (.notFound (.noValue binding.column table))

/-- The final route of a bound table. A fallback takes no account of parameters, so it has no sources. -/
def settle (setting : Setting) (binding : Binding) : Walk RoutedTable := do
  let schema := binding.schema
  let table := binding.table.value
  match binding.route with
  | some route => return { schema, table, route, sources := binding.sources }
  | none =>
    let route ← fallbackRoute setting binding
    addSchema route.schema
    return { schema, table, route }

/-- A table without alias keeps its logical name as alias when its name changes and columns are qualified
    with it. -/
def aliasFor (scan : Scan) (binding : Binding) (route : Destination) : Option Ident :=
  if binding.alias_.isNone && !Text.sameAscii route.table binding.table.value &&
      scan.isQualifier binding.table.value then
    some binding.table
  else none

/-- Settles the tables of a scope in order. Aliases are given only where `aliases` is set. -/
def closeScope (setting : Setting) (aliases : Bool) : List Binding → Walk (List Relocation)
  | [] => return []
  | binding :: bindings => do
    let routed ← settle setting binding
    addRouted routed
    let alias_ := if aliases then aliasFor setting.scan binding routed.route else none
    let relocations ← closeScope setting aliases bindings
    return { slot := binding.slot, route := routed.route, alias_ } :: relocations

end Walk
end ShardRouting
