import ShardRouting.Command.Args
import ShardRouting.Routing.Router

/-! Routing the statement of an invocation, and the report on it. -/

namespace ShardRouting
namespace Command

/-- Why there is no report. -/
inductive Failure where
  | settings (fault : SettingsFault)
  | routing (error : RoutingError)
  | sharding (error : ShardingError)
  deriving DecidableEq, Repr

namespace Failure

def message (sql : String) : Failure → String
  | settings fault => "Configuration error: " ++ fault.message
  | routing error => error.message sql
  | sharding error => error.message

/-- What lies behind a failure, if that is told apart. -/
def cause? : Failure → Option String
  | routing (.engine error) => some error.message
  | _ => none

end Failure

/-- What the program tells of a routed statement. -/
structure Report where
  sql : String
  schemas : List String
  tables : List RoutedTable
  /-- The parameters that the route was checked against, as text. -/
  validated : Option (List (String × String)) := none
  deriving DecidableEq, Repr

namespace Report

def tableLine (routed : RoutedTable) : String :=
  "  " ++ qualified routed.schema routed.table ++ " -> " ++ routed.route.display ++ "\n"

def text (report : Report) : String :=
  report.sql ++ "\n" ++
    (if report.schemas.isEmpty then "" else "schemas: " ++ ", ".intercalate report.schemas ++ "\n") ++
    String.join (report.tables.map tableLine) ++
    (match report.validated with
      | some bindings =>
        "validated: " ++ ", ".intercalate (bindings.map fun (key, value) => key ++ "=" ++ value) ++ "\n"
      | none => "")

def json (report : Report) : Json :=
  .object ([("sql", .string report.sql), ("schemas", .array (report.schemas.map .string)),
    ("tables", .array (report.tables.map RoutedTable.json))] ++
    match report.validated with
      | some bindings => [("validated", .object (bindings.map fun (key, value) => (key, .string value)))]
      | none => [])

def render (report : Report) : Layout → String
  | .text => report.text
  | .json => report.json.pretty

end Report

def rulesTarget : String := "ddal_sharding::rule"

def reportTarget : String := "ddal_cli::report"

def loadedRecord (rules : Nat) : Log.Record :=
  ⟨.debug, rulesTarget, "Loaded " ++ toString rules ++ " sharding rules"⟩

def overridesRecord (overrides : Nat) (disabled : Bool) : Log.Record :=
  ⟨.debug, reportTarget, "Routing with " ++ toString overrides ++ " override(s), sql routing disabled: " ++
    (if disabled then "true" else "false")⟩

/-- The router and the overrides of an invocation. The schema of the invocation stands in place of the
    default schema. Also gives the log until then. -/
def prepare (invocation : Invocation) (settings : Settings) :
    Except Failure (Router × OverrideStore) × List Log.Record :=
  match RouterOptions.ofSettings? settings.router with
  | none => (.error (.routing (.unknownDialect settings.router.dialect)), [])
  | some options =>
    let options := { options with defaultSchema := invocation.schema.or options.defaultSchema }
    match RuleSet.ofSettings settings.rules with
    | .error error => (.error (.sharding error), [])
    | .ok rules =>
      let loaded := loadedRecord rules.rules.length
      match OverrideStore.ofSettings settings.overrides options.defaultSchema with
      | .error error => (.error (.sharding error), [loaded])
      | .ok store =>
        let disabled := invocation.disableSqlRouting || store.sqlRoutingDisabled
        (.ok ({ engine := rules.engine, options }, store.disable disabled),
          [loaded, overridesRecord store.size disabled])

/-- Routes the statement, and checks the parameters to validate if there are any. -/
def routeAndCheck (invocation : Invocation) (router : Router) (store : OverrideStore) :
    Except Failure Report × List Log.Record :=
  let sql := invocation.sql
  let outcome := router.route sql (.ofList invocation.params) [] store
  match outcome.result with
  | .error error => (.error (.routing error), outcome.records)
  | .ok routed =>
    let report : Report := { sql := routed.text, schemas := routed.schemas, tables := routed.tables }
    if invocation.validate.isEmpty then (.ok report, outcome.records)
    else
      let params := Params.ofList invocation.validate
      let check := router.validate sql routed params
      let records := outcome.records ++ check.records
      match check.result with
      | .error error => (.error (.routing error), records)
      | .ok _ =>
        let bindings := params.sorted.map fun (key, value) => (key, value.display)
        (.ok { report with validated := some bindings }, records)

/-- The report of an invocation, and the log of its making. -/
def execute (invocation : Invocation) (settings : Settings) : Except Failure Report × List Log.Record :=
  match prepare invocation settings with
  | (.error failure, records) => (.error failure, records)
  | (.ok (router, store), records) =>
    let (result, more) := routeAndCheck invocation router store
    (result, records ++ more)

end Command
end ShardRouting
