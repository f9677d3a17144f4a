import ShardRouting.Text.Case

/-! Log levels, line formats, and the filter that decides which records are written. -/

namespace ShardRouting
namespace Log

inductive Level where
  | error
  | warn
  | info
  | debug
  | trace
  deriving DecidableEq, Repr

namespace Level

/-- Higher ranks are more detailed. -/
def rank : Level → Nat
  | error => 1
  | warn => 2
  | info => 3
  | debug => 4
  | trace => 5

def name : Level → String
  | error => "ERROR"
  | warn => "WARN"
  | info => "INFO"
  | debug => "DEBUG"
  | trace => "TRACE"

end Level

/-- How log lines are written. -/
inductive Format where
  | compact
  | json
  deriving DecidableEq, Repr

/-- Any name but those of JSON lines means the compact format. -/
def Format.ofName (name : String) : Format :=
  let small := Text.lower name
  if small = "json" ∨ small = "jsonl" then .json else .compact

/-- The targets with their levels, in order. -/
def sortedTargets (targets : List (String × String)) : List (String × String) :=
  targets.mergeSort fun a b => a.1 < b.1 || (a.1 = b.1 && !(b.2 < a.2))

/-- The filter of a log as text: its level, a quiet SQL reader, then the levels of single targets. -/
def filterDirectives (level : String) (targets : List (String × String)) : String :=
  ",".intercalate
    (level :: "sqlparser=warn" :: (sortedTargets targets).map fun (target, level) => target ++ "=" ++ level)

end Log
end ShardRouting
