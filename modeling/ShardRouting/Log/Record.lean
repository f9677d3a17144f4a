import ShardRouting.Log.Level

/-! Log records, before a filter or a format is applied to them. -/

namespace ShardRouting
namespace Log

/-- One line of a log; `target` names the part of the program that speaks. -/
structure Record where
  level : Level
  target : String
  message : String
  deriving DecidableEq, Repr

end Log
end ShardRouting
