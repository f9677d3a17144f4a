import ShardRouting.Sql.Grammar.Types
import ShardRouting.Sql.Grammar.Rules

/-! Parts of dates and times, and intervals. -/

namespace ShardRouting
namespace Sql
namespace Grammar

/-- Units of intervals. -/
def intervalUnits : List String :=
  ["YEAR", "YEARS", "MONTH", "MONTHS", "WEEK", "WEEKS", "DAY", "DAYS", "HOUR", "HOURS", "MINUTE", "MINUTES",
    "SECOND", "SECONDS", "CENTURY", "DECADE", "DOW", "DOY", "EPOCH", "ISODOW", "ISOYEAR", "JULIAN",
    "MICROSECOND", "MICROSECONDS", "MILLENIUM", "MILLENNIUM", "MILLISECOND", "MILLISECONDS", "NANOSECOND",
    "NANOSECONDS", "QUARTER", "TIMEZONE", "TIMEZONE_HOUR", "TIMEZONE_MINUTE"]

/-- Parts of a date or time that are no units of intervals. -/
def furtherParts : List String :=
  ["DAYOFWEEK", "DAYOFYEAR", "DATE", "DATETIME", "ISOWEEK", "TIME", "TIMEZONE_ABBR", "TIMEZONE_REGION"]

/-- The name of a part of a date or time. -/
def momentPart : Reader String := do
  match ← peekKeyword 0 with
  | some word =>
    if word = "WEEK" then
      skip 1
      if ← both (among [.generic]) (symbol "(") then
        let day ← ident
        needSymbol ")"
        return "WEEK(" ++ day.text ++ ")"
      return "WEEK"
    else if intervalUnits.contains word ∨ furtherParts.contains word then
      skip 1
      return word
    else freePart
  | none => freePart
where
  /-- Any name or string, where such parts are allowed. -/
  freePart : Reader String := do
    match ← peekToken 0 with
    | some (.word ..) | some (.string .single _) =>
      if ← among [.postgres, .generic] then return (← ident).text else refuse
    | _ => refuse

/-- The first keyword of an interval is gone; its value, unit and precisions follow. -/
def interval (rules : Rules) : Reader Expr := do
  let needsUnit ← among [.mysql]
  let value ← if needsUnit then rules.expr else rules.primary
  let atUnit := (← peekKeyword 0).any intervalUnits.contains
  if needsUnit && !atUnit then refuse
  let unit ← if atUnit then pure (some (← momentPart)) else pure none
  let head : List Piece := [.words "INTERVAL ", .aside value]
  if unit = some "SECOND" then
    let precisions ← precisionAndScale
    let precisions := ", ".intercalate (precisions.splitOn ",")
    return .form (head ++ [.words (" SECOND" ++ (if precisions.isEmpty then "" else " " ++ precisions))])
  else
    let spaced (text : String) := if text.isEmpty then "" else " " ++ text
    let leading ← precision
    let range ← if ← keyword "TO" then do
        let last ← momentPart
        let digits ← if last = "SECOND" then precision else pure ""
        pure (" TO " ++ last ++ spaced digits)
      else pure ""
    return .form (head ++ [.words (spaced (unit.getD "") ++ spaced leading ++ range)])

end Grammar
end Sql
end ShardRouting
