import ShardRouting.Routing.Validation
import ShardRouting.Routing.Walk
import ShardRouting.Shard.Rule

/-! The router. It reads a statement, sends every sharded table of it to one physical table by the values
    found in its predicates, and writes the statement anew. -/

namespace ShardRouting

structure Router where
  engine : RuleEngine
  options : RouterOptions := {}

/-- A statement with its tables where they belong. -/
structure Routed where
  statement : Sql.Statement
  /-- The physical schemas that the statement touches, in order. -/
  schemas : List String
  tables : List RoutedTable

/-- The text of a routed statement. -/
def Routed.text (routed : Routed) : String := routed.statement.text

/-- What came of a call, and what happened until then. -/
structure Outcome (α : Type) where
  result : Except RoutingError α
  events : List Event

namespace Outcome

/-- The lines that a call leaves in the log. -/
def records (outcome : Outcome α) : List Log.Record := outcome.events.filterMap Event.record?

/-- Runs a step from the beginning. -/
def ofWalk (step : Walk α) (finish : α → Progress → β) : Outcome β :=
  match step.run {} with
  | .ok a progress => { result := .ok (finish a progress), events := progress.log.reverse }
  | .error error progress => { result := .error error, events := progress.log.reverse }

end Outcome

namespace Router

/-- The router that some settings describe. -/
def ofSettings (settings : Settings) : Except RoutingError Router := do
  match RouterOptions.ofSettings? settings.router with
  | none => throw (.unknownDialect settings.router.dialect)
  | some options => match RuleSet.ofSettings settings.rules with
    | .ok rules => return { engine := rules.engine, options }
    | .error error => throw (.engine error)

/-- What the routing of one statement works with. -/
def setting (router : Router) (context : RouteContext) (overrides : Overrides) (scan : Sql.Scan)
    (params : Params) : Setting :=
  { engine := router.engine, options := router.options, context, overrides, scan, params }

/-- Routes a statement that is read already. -/
def routeStatement (setting : Setting) (statement : Sql.Statement) : Outcome Routed :=
  .ofWalk (Walk.walkStatement setting 0 statement) fun statement progress =>
    { statement, schemas := progress.schemas, tables := progress.routed }

/-- A text that holds another number of statements, or one of another kind, is worth a warning. -/
def rejection (sql : String) : Sql.StatementFault → List Event
  | .malformed => []
  | .count found => [.rejectedCount sql found]
  | .otherKind => [.rejectedKind sql]

/-- Routes the one statement of a text. -/
def route (router : Router) (sql : String) (params : Params := .empty) (context : RouteContext := [])
    (overrides : Overrides := .empty) : Outcome Routed :=
  match Sql.readStatement router.options.dialect router.options.recursionLimit sql with
  | .error fault => { result := .error (.statement fault), events := rejection sql fault }
  | .ok (statement, scan) =>
    let outcome := routeStatement (router.setting context overrides scan params) statement
    match outcome.result with
    | .ok routed =>
      { outcome with events := outcome.events ++ [.written sql routed.text routed.schemas] }
    | .error _ => outcome

/-- Checks parameters against a statement that was routed from the text `sql`. -/
def validate (router : Router) (sql : String) (routed : Routed) (params : Params)
    (context : RouteContext := []) : Outcome Unit :=
  .ofWalk (Walk.validate (router.setting context .empty {} params) sql routed.tables params) fun _ _ => ()

end Router
end ShardRouting
