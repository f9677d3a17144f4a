import ShardRouting.Settings.Basic
import ShardRouting.Sql.Dialect

/-! What a router has to know besides its rule engine. -/

namespace ShardRouting

structure RouterOptions where
  dialect : Dialect := .mysql
  /-- The schema of tables written without one. -/
  defaultSchema : Option String := none
  /-- The largest number of values in a range. -/
  maxBetweenSpan : Nat := 1024
  /-- How deep a statement may nest. -/
  recursionLimit : Nat := 512
  deriving DecidableEq, Repr

/-- The options that some settings describe, unless they name no dialect. -/
def RouterOptions.ofSettings? (settings : RouterSettings) : Option RouterOptions :=
  (Dialect.ofName? settings.dialect).map fun dialect =>
    { dialect
      defaultSchema := settings.defaultSchema
      maxBetweenSpan := settings.maxBetweenSpan
      recursionLimit := settings.recursionLimit }

end ShardRouting
