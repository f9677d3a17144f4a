import ShardRouting.Settings.Validation
import ShardRouting.Shard.Engine

/-! Manual routes of logical tables, for statements that carry no usable shard value: the contract of overrides, and the
    store in memory that keeps it. -/

namespace ShardRouting

/-- What replaces the missing value: a destination, or a value for the rule engine. -/
inductive RouteOverride where
  | route (destination : Destination)
  | value (value : ShardValue)
  deriving DecidableEq, Repr

/-- Overrides answer by their arguments alone. When `sqlRoutingDisabled` is set, the values found in statements decide
    nothing. -/
structure Overrides where
  find? : Option String → String → Option RouteOverride
  sqlRoutingDisabled : Bool := false

/-- No table has an override. -/
def Overrides.empty : Overrides where
  find? _ _ := none

/-- Overrides under their keys, each key at most once. -/
structure OverrideStore where
  entries : List ((Option String × String) × RouteOverride) := []
  sqlRoutingDisabled : Bool := false
  deriving DecidableEq, Repr

namespace OverrideStore

def empty : OverrideStore := {}

def at? (store : OverrideStore) (key : Option String × String) : Option RouteOverride :=
  (store.entries.find? (·.1 = key)).map (·.2)

def erase (store : OverrideStore) (key : Option String × String) : OverrideStore :=
  { store with entries := store.entries.filter (·.1 ≠ key) }

/-- Writes an entry in place of the one under its key. -/
def set (store : OverrideStore) (schema : Option String) (table : String) (entry : RouteOverride) :
    OverrideStore :=
  let rest := store.erase (tableKey schema table)
  { rest with entries := (tableKey schema table, entry) :: rest.entries }

/-- Takes out the entry of exactly this schema and table. -/
def remove (store : OverrideStore) (schema : Option String) (table : String) :
    Option RouteOverride × OverrideStore :=
  (store.at? (tableKey schema table), store.erase (tableKey schema table))

def disable (store : OverrideStore) (disabled : Bool) : OverrideStore :=
  { store with sqlRoutingDisabled := disabled }

def size (store : OverrideStore) : Nat := store.entries.length

/-- The entry of a table: the one of its schema, else the one without schema. -/
def find? (store : OverrideStore) (schema : Option String) (table : String) : Option RouteOverride :=
  let fallback := store.at? (tableKey none table)
  match schema with
  | some schema => (store.at? (tableKey (some schema) table)).or fallback
  | none => fallback

/-- The store as a router asks it. -/
def overrides (store : OverrideStore) : Overrides where
  find? := store.find?
  sqlRoutingDisabled := store.sqlRoutingDisabled

instance : Coe OverrideStore Overrides := ⟨overrides⟩

/-- Adds one entry. A physical table lies in its physical schema, else in the schema of the entry, else in
    the default schema. -/
def addEntry (store : OverrideStore) (defaultSchema : Option String) (entry : OverrideEntry) :
    Except ShardingError OverrideStore :=
  match entry.physicalTable, entry.value with
  | some table, none =>
    match (entry.physicalSchema.or entry.schema).or defaultSchema with
    | some schema => .ok (store.set entry.schema entry.table (.route ⟨schema, table⟩))
    | none => .error (.invalidRule (.noPhysicalSchema entry.table))
  | none, some value => .ok (store.set entry.schema entry.table (.value (.ofText value)))
  | _, _ => .error (.invalidRule (.notOneTarget entry.table))

def addEntries (store : OverrideStore) (defaultSchema : Option String) :
    List OverrideEntry → Except ShardingError OverrideStore
  | [] => .ok store
  | entry :: entries => do
    let store ← store.addEntry defaultSchema entry
    store.addEntries defaultSchema entries

/-- The store that some settings describe. -/
def ofSettings (settings : OverrideSettings) (defaultSchema : Option String) :
    Except ShardingError OverrideStore :=
  (empty.disable settings.disableSqlRouting).addEntries defaultSchema settings.routes

end OverrideStore
end ShardRouting
