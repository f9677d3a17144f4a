import ShardRouting.Log.Record
import ShardRouting.Routing.Source
import ShardRouting.Text.Quoted

/-! What happens while a statement is routed, in order: the questions put to the rule engine and the
    decisions taken. All but the questions have a line in the log. -/

namespace ShardRouting

inductive Event where
  /-- The rule engine is asked for the destination of a table. -/
  | asked (schema : Option String) (table : String) (value : Option ShardValue)
  | bound (table key : String) (depth : Nat)
  | ambiguous (key : String)
  /-- A value is a parameter that is not bound. -/
  | deferredValue (column : String) (param : ParamKey)
  /-- A bound of a range is a parameter that is not bound. -/
  | deferredRange (text : String)
  /-- The value does not count, because values in statements are disabled. -/
  | ignored (table : String) (value : ShardValue)
  | routed (table : String) (route : Destination)
  | routedByDefault (table : String) (route : Destination)
  | overridden (table : String) (route : Destination)
  | overriddenBy (table : String) (value : ShardValue)
  | written (sql result : String) (schemas : List String)
  | validated (sql : String) (tables : Nat)
  | rejectedCount (sql : String) (found : Nat)
  | rejectedKind (sql : String)
  deriving DecidableEq, Repr

namespace Event

/-- Names in braces, each between quotes. -/
def namesText (names : List String) : String :=
  "\x7b" ++ ", ".intercalate (names.map Text.quote) ++ "\x7d"

/-- The log target of an event, by what it is about. -/
def walkTarget : String := "ddal_sql::router::walker"

/-- The line that an event leaves in the log. -/
def record? : Event → Option Log.Record
  | asked .. => none
  | bound table key depth =>
    some ⟨.debug, walkTarget, "Bound table '" ++ table ++ "' with shard key '" ++ key ++
      "' at scope depth " ++ toString depth⟩
  | ambiguous key =>
    some ⟨.debug, "ddal_sql::router::scope", "Shard key reference '" ++ key ++
      "' is ambiguous in this scope"⟩
  | deferredValue column param =>
    some ⟨.debug, walkTarget, "Deferred routing of '" ++ column ++ "': parameter " ++ param.display ++
      " is not bound"⟩
  | deferredRange text =>
    some ⟨.debug, walkTarget, "Deferred routing of '" ++ text ++
      "': a range bound is an unbound parameter"⟩
  | ignored table value =>
    some ⟨.debug, walkTarget, "SQL routing disabled: table '" ++ table ++ "' shard value " ++
      value.display ++ " is not routed"⟩
  | routed table route =>
    some ⟨.debug, walkTarget, "Routed table '" ++ table ++ "' to '" ++ route.display ++ "'"⟩
  | routedByDefault table route =>
    some ⟨.debug, walkTarget, "Table '" ++ table ++ "' resolved by its default route '" ++
      route.display ++ "'"⟩
  | overridden table route =>
    some ⟨.debug, walkTarget, "Table '" ++ table ++ "' resolved by override '" ++ route.display ++ "'"⟩
  | overriddenBy table value =>
    some ⟨.debug, walkTarget, "Table '" ++ table ++ "' routed by override value " ++ value.display⟩
  | written sql result schemas =>
    some ⟨.debug, "ddal_sql::router", "Routed sql [" ++ sql ++ "] to [" ++ result ++
      "] across schemas " ++ namesText schemas⟩
  | validated sql tables =>
    some ⟨.debug, "ddal_sql::router::validator", "Validated " ++ toString tables ++
      " routed tables for sql [" ++ sql ++ "]"⟩
  | rejectedCount sql found =>
    some ⟨.warn, "ddal_sql::parser", "Rejected sql with " ++ toString found ++ " statements: " ++ sql⟩
  | rejectedKind sql =>
    some ⟨.warn, "ddal_sql::parser", "Rejected unsupported statement kind: " ++ sql⟩

end Event
end ShardRouting
