/-! Untyped configuration data, as a TOML or JSON document holds it. -/

namespace ShardRouting

inductive Datum where
  | null
  | bool (value : Bool)
  | integer (value : Int)
  | string (text : String)
  | list (items : List Datum)
  | table (fields : List (String × Datum))
  /-- A number with fraction, or a date or time: no setting takes one. -/
  | other
  deriving Inhabited

/-- The value of a field; of several fields with one name the last. -/
def Datum.field? (fields : List (String × Datum)) (name : String) : Option Datum :=
  (fields.reverse.find? (·.1 = name)).map (·.2)

end ShardRouting
