import ShardRouting.Text.Case

/-! The SQL dialects that statements may be written in. -/

namespace ShardRouting

inductive Dialect where
  | mysql
  | postgres
  | generic
  | sqlite
  deriving DecidableEq, Repr, Inhabited

namespace Dialect

/-- Dialects are named without regard to the case of ASCII letters. -/
def ofName? (name : String) : Option Dialect :=
  let small := String.ofList (name.toList.map Char.toLower)
  if small = "mysql" then some .mysql
  else if small = "postgres" ∨ small = "postgresql" then some .postgres
  else if small = "generic" then some .generic
  else if small = "sqlite" then some .sqlite
  else none

def name : Dialect → String
  | mysql => "mysql"
  | postgres => "postgres"
  | generic => "generic"
  | sqlite => "sqlite"

theorem ofName?_name (dialect : Dialect) : ofName? dialect.name = some dialect := by
  cases dialect <;> decide +kernel

end Dialect
end ShardRouting
