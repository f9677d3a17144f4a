import ShardRouting.Routing.Error
import ShardRouting.Routing.Event
import ShardRouting.Routing.Options
import ShardRouting.Routing.Scope
import ShardRouting.Shard.Override

/-! The state that the routing of a statement threads through its tree. -/

namespace ShardRouting

/-- Everything that stays the same while one statement is routed. -/
structure Setting where
  engine : RuleEngine
  overrides : Overrides := .empty
  context : RouteContext := []
  options : RouterOptions := {}
  scan : Sql.Scan := {}
  params : Params := {}

/-- How far the routing has come: the open scope, the physical schemas in use, each once and in order,
    the tables of the closed scopes, and the events so far, the newest first. -/
structure Progress where
  scope : Scope := {}
  schemas : List String := []
  routed : List RoutedTable := []
  log : List Event := []
  deriving DecidableEq, Repr

/-- Adds a name to a sorted list, unless it is there. -/
def insertName (name : String) : List String → List String
  | [] => [name]
  | other :: rest =>
    if name = other then other :: rest
    else if name < other then name :: other :: rest
    else other :: insertName name rest

/-- A step of the routing. -/
abbrev Walk := EStateM RoutingError Progress

namespace Walk

def tell (event : Event) : Walk Unit := modify fun progress => { progress with log := event :: progress.log }

def addSchema (schema : String) : Walk Unit :=
  modify fun progress => { progress with schemas := insertName schema progress.schemas }

def addRouted (routed : RoutedTable) : Walk Unit :=
  modify fun progress => { progress with routed := progress.routed ++ [routed] }

/-- Asks the rule engine where a table is sent. -/
def ask (setting : Setting) (schema : Option String) (table : String) (value : Option ShardValue) :
    Walk (Option Destination) := do
  tell (.asked schema table value)
  match setting.engine.route setting.context schema table value with
  | .ok route => return route
  | .error error => throw (.engine error)

/-- Runs a step in a scope of its own and gives that scope with the result. -/
def inScope (step : Walk α) : Walk (α × Scope) := do
  let outer := (← get).scope
  modify fun progress => { progress with scope := {} }
  let result ← step
  let inner := (← get).scope
  modify fun progress => { progress with scope := outer }
  return (result, inner)

end Walk
end ShardRouting
