import ShardRouting.Shard.Value

/-! Parameters of prepared statements: the keys by which a statement names them, and the values bound to
    them. -/

namespace ShardRouting

/-- A placeholder counted from one, or a named one. -/
inductive ParamKey where
  | index (n : Nat)
  | name (name : String)
  deriving DecidableEq, Repr

namespace ParamKey

/-- The largest position. -/
def maxIndex : Nat := UInt64.size - 1

def isSigil (c : Char) : Bool := c = ':' || c = '@' || c = '$' || c = '?'

/-- `1`, `?1` and `$1` are positions; anything else is a name, without the signs in front of it. -/
def ofText (raw : String) : ParamKey :=
  let trimmed := Text.trimChars raw.toList
  match Number.readUnsigned maxIndex trimmed with
  | some n => .index n
  | none =>
    let rest := trimmed.dropWhile isSigil
    match Number.readUnsigned maxIndex rest with
    | some n =>
      if trimmed.head?.any fun c => c = '$' || c = '?' then .index n else .name (String.ofList rest)
    | none => .name (String.ofList rest)

def display : ParamKey → String
  | index n => toString n
  | name s => ":" ++ s

def json : ParamKey → Json
  | index n => .number (toString n)
  | name s => .string s

end ParamKey

/-- Values bound to parameters, each key at most once. -/
structure Params where
  entries : List (ParamKey × ShardValue) := []
  deriving DecidableEq, Repr

namespace Params

def empty : Params := {}

def isEmpty (params : Params) : Bool := params.entries.isEmpty

/-- Binds a key, in place of what was bound to it. -/
def bind (params : Params) (key : ParamKey) (value : ShardValue) : Params :=
  { entries := params.entries.filter (·.1 ≠ key) ++ [(key, value)] }

def ofList (bindings : List (ParamKey × ShardValue)) : Params :=
  bindings.foldl (fun params (key, value) => params.bind key value) empty

def get? (params : Params) (key : ParamKey) : Option ShardValue :=
  (params.entries.find? (·.1 = key)).map (·.2)

/-- The entries with their keys as text, in the order of these texts. -/
def sorted (params : Params) : List (String × ShardValue) :=
  (params.entries.map fun (key, value) => (key.display, value)).mergeSort (fun a b => !(b.1 < a.1))

def json (params : Params) : Json := .object (params.sorted.map fun (key, value) => (key, value.json))

@[simp] theorem get?_empty (key : ParamKey) : empty.get? key = none := rfl

theorem get?_bind_self (params : Params) (key : ParamKey) (value : ShardValue) :
    (params.bind key value).get? key = some value := by
  have hnone : params.entries.find? (fun _ => false) = none := by
    rw [List.find?_eq_none]
    simp
  simp [get?, bind, List.find?_append, List.find?_filter, hnone]

theorem get?_bind_of_ne (params : Params) {key other : ParamKey} (value : ShardValue) (h : other ≠ key) :
    (params.bind key value).get? other = params.get? other := by
  have hp : (fun a : ParamKey × ShardValue => !decide (a.1 = key) && decide (a.1 = other)) =
      fun a => decide (a.1 = other) := by
    funext a
    by_cases ha : a.1 = other
    · simp [ha, h]
    · simp [ha]
  have hk : ¬key = other := fun hk => h hk.symm
  simp [get?, bind, List.find?_append, List.find?_filter, hp, hk]

end Params
end ShardRouting
