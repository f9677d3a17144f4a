import ShardRouting.Routing.Progress

/-! Checking parameters against a routed statement. A statement that was routed once may run with other
    parameters, as long as these send every table to where the statement has it. -/

namespace ShardRouting
namespace Walk

/-- The tables and parameters that a check is about. -/
structure Check where
  setting : Setting
  tables : List RoutedTable
  params : Params

namespace Check

def fail (check : Check) (fault : CrossingFault) : Walk α :=
  throw (.crossing fault check.tables check.params)

def valueOf (check : Check) (source : ValueSource) : Walk ShardValue :=
  match source.value? check.params with
  | some value => return value
  | none => check.fail (.unbound source)

def integerOf (check : Check) (source : ValueSource) : Walk Int64 := do
  let value ← check.valueOf source
  match value.toWord? with
  | some n => return n
  | none => check.fail (.notInteger value)

/-- A value must lead to where the table already is. -/
def value (check : Check) (routed : RoutedTable) (value : ShardValue) : Walk Unit := do
  match ← ask check.setting routed.schema routed.table (some value) with
  | some route =>
    if route.same routed.route then return ()
    else check.fail (.moved value routed.table route routed.route)
  | none => check.fail (.lost value routed.table)

def source (check : Check) (routed : RoutedTable) : RouteSource → Walk Unit
  | .value source => do check.value routed (← check.valueOf source)
  | .range low high => do
    let low ← check.integerOf low
    let high ← check.integerOf high
    let span := high.toInt - low.toInt + 1
    if span < 1 ∨ span > check.setting.options.maxBetweenSpan then check.fail (.range low high)
    (integersBetween low high).forM (check.value routed)

def table (check : Check) (routed : RoutedTable) : Walk Unit := routed.sources.forM (check.source routed)

end Check

/-- No parameters at all are accepted as they are. -/
def validate (setting : Setting) (sql : String) (tables : List RoutedTable) (params : Params) :
    Walk Unit := do
  if params.isEmpty then return ()
  else
    let check : Check := { setting, tables, params }
    tables.forM check.table
    tell (.validated sql tables.length)

end Walk
end ShardRouting
