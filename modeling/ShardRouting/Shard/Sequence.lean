import ShardRouting.Settings.Basic
import ShardRouting.Settings.Validation
import ShardRouting.Shard.Error

/-! Parameters of an allocator of ids. -/

namespace ShardRouting

/-- The logical table whose ids a sequence allocates, in small letters. -/
structure SequenceKey where
  schema : String
  table : String
  deriving DecidableEq, Repr

def SequenceKey.make (schema table : String) : SequenceKey := ⟨Text.lower schema, Text.lower table⟩

def SequenceKey.display (key : SequenceKey) : String := key.schema ++ "." ++ key.table

structure SequenceOptions where
  key : SequenceKey
  step : Nat
  cacheDepth : Nat
  timeoutMs : Nat
  deriving DecidableEq, Repr

/-- The parameters must be positive. -/
def SequenceOptions.ofSettings (settings : SequenceSettings) : Except ShardingError SequenceOptions := do
  ensure (settings.step ≠ 0 && settings.cacheDepth ≠ 0 && settings.timeoutMs ≠ 0)
    (.invalidRule (.sequence settings.schema settings.table))
  return {
    key := SequenceKey.make settings.schema settings.table
    step := settings.step
    cacheDepth := settings.cacheDepth
    timeoutMs := settings.timeoutMs }

end ShardRouting
