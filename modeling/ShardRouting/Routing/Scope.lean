import ShardRouting.Routing.Source
import ShardRouting.Sql.Tree.Text
import ShardRouting.Text.Case
import ShardRouting.Text.Substitute

/-! Scopes. A selection, an insertion, an update and a deletion each bind the sharded tables they name.
    Columns refer to a bound table by the key it is sharded by, alone or behind the name of the table and
    its schema. A reference that two tables may claim is ambiguous. -/

namespace ShardRouting

/-- Where a bound table stands in its statement. -/
inductive Slot where
  /-- The table with this number in the list of tables, counted from the left. -/
  | factor (index : Nat)
  /-- The table that rows are inserted into. -/
  | target
  deriving DecidableEq, Repr

/-- A sharded table in a scope, with what the predicates have told of it so far. -/
structure Binding where
  slot : Slot
  /-- The schema it is written with, or the default schema. -/
  schema : Option String
  table : Sql.Ident
  alias_ : Option String
  key : String
  /-- The shard key, once a predicate has spoken of it. -/
  seenKey : Option String := none
  route : Option Destination := none
  sources : List RouteSource := []
  deriving DecidableEq, Repr

namespace Binding

/-- The name that columns of the table are qualified with. -/
def qualifier (binding : Binding) : String := binding.alias_.getD binding.table.value

/-- The shard key behind the name of its table. -/
def column (binding : Binding) : String := binding.qualifier ++ "." ++ binding.key

/-- How columns may refer to the shard key, from the longest form to the shortest, in small letters. -/
def lookupKeys (binding : Binding) : List String :=
  let key := Text.lower binding.key
  let qualified := Text.lower binding.qualifier ++ "." ++ key
  let full := binding.schema.map fun schema => Text.lower schema ++ "." ++ qualified
  full.toList ++ [qualified, key]

/-- A predicate has spoken of the shard key. -/
def see (binding : Binding) (column : String) : Binding :=
  { binding with seenKey := some (Text.lower (Text.afterLast '.' column)) }

end Binding

/-- Who answers to a key. -/
inductive Claim where
  | one (index : Nat)
  | many
  deriving DecidableEq, Repr

/-- The tables of a scope in the order they were bound, and the keys they answer to. -/
structure Scope where
  bindings : List Binding := []
  claims : List (String × Claim) := []
  deriving DecidableEq, Repr

/-- What a reference stands for in a scope. -/
inductive Resolution where
  | unknown
  | bound (index : Nat) (binding : Binding)
  | ambiguous
  deriving DecidableEq, Repr

namespace Scope

def empty : Scope := {}

def claim? (scope : Scope) (key : String) : Option Claim :=
  (scope.claims.find? (·.1 = key)).map (·.2)

/-- The claim of one more table to a key that has `before` as its claim. -/
def contest (index : Nat) : Option Claim → Claim
  | none => .one index
  | some (.one other) => if other = index then .one index else .many
  | some .many => .many

/-- One more claim to a key, and whether it makes the key ambiguous. -/
def addClaim (scope : Scope) (index : Nat) (key : String) : Scope × Bool :=
  let claim := contest index (scope.claim? key)
  ({ scope with claims := (key, claim) :: scope.claims.filter (·.1 ≠ key) }, claim = .many)

/-- Claims to several keys, and those among them that are ambiguous now. -/
def addClaims (scope : Scope) (index : Nat) : List String → Scope × List String
  | [] => (scope, [])
  | key :: keys =>
    let (scope, many) := scope.addClaim index key
    let (scope, rest) := scope.addClaims index keys
    (scope, if many then key :: rest else rest)

/-- Binds a table under all its keys. Also gives the keys that are ambiguous now. -/
def register (scope : Scope) (binding : Binding) : Scope × List String :=
  { scope with bindings := scope.bindings ++ [binding] }.addClaims scope.bindings.length binding.lookupKeys

def resolve (scope : Scope) (key : String) : Resolution :=
  match scope.claim? key with
  | none => .unknown
  | some .many => .ambiguous
  | some (.one index) => match scope.bindings[index]? with
    | some binding => .bound index binding
    | none => .unknown

/-- Writes down what is known of a bound table. -/
def update (scope : Scope) (index : Nat) (binding : Binding) : Scope :=
  { scope with bindings := scope.bindings.set index binding }

end Scope

/-- A column as the left side of a predicate names it. -/
structure ColumnRef where
  /-- Its last three parts in small letters. -/
  key : String
  /-- The column as it is written. -/
  display : String
  deriving DecidableEq, Repr

namespace ColumnRef

def ofExpr? : Sql.Expr → Option ColumnRef
  | .ident name => some ⟨Text.lower name.value, name.text⟩
  | .column parts =>
    let last := parts.drop (parts.length - 3)
    some ⟨".".intercalate (last.map fun part => Text.lower part.value), Sql.dotted parts⟩
  | _ => none

/-- A column in the list of an insertion. -/
def ofName (name : Sql.Ident) : ColumnRef := ⟨Text.lower name.value, name.value⟩

end ColumnRef
end ShardRouting
