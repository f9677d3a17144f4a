import ShardRouting.Log.Record

/-! Which log records are written. A filter has one level for all targets and levels for those that begin
    with certain names, the longest of which decides. -/

namespace ShardRouting
namespace Log

def Level.all : List Level := [.error, .warn, .info, .debug, .trace]

/-- Levels are named in small letters. -/
def Level.ofName? (name : String) : Option Level :=
  Level.all.find? fun level => Text.lower level.name = name

structure Filter where
  level : Level
  /-- Levels of targets by the beginning of their names; of equal names the last one counts. -/
  targets : List (String × Level)
  deriving DecidableEq, Repr

namespace Filter

/-- The filter of some settings. The SQL reader is quiet unless it is named. -/
def ofNames (level : String) (targets : List (String × String)) : Filter where
  level := (Level.ofName? level).getD .error
  targets := ("sqlparser", .warn) :: (sortedTargets targets).filterMap fun (target, name) =>
    (Level.ofName? name).map fun level => (target, level)

/-- The longest name that a target begins with, and its level. -/
def find? (filter : Filter) (target : String) : Option (String × Level) :=
  filter.targets.foldl (fun best (name, level) =>
    let longer := match best with
      | some (other, _) => other.length ≤ name.length
      | none => true
    if name.toList.isPrefixOf target.toList && longer then some (name, level) else best) none

/-- A record passes if it is no more detailed than the level of its target. -/
def passes (filter : Filter) (record : Record) : Bool :=
  let level := match filter.find? record.target with
    | some (_, level) => level
    | none => filter.level
  record.level.rank ≤ level.rank

end Filter
end Log
end ShardRouting
