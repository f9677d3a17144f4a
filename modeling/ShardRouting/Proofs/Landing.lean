import ShardRouting.Proofs.References
import ShardRouting.Proofs.Weighing

/-! Where references land. A bound reference is listed among the routed tables, in its turn, and gets a name
    for the destination of that table; every other reference keeps its name. -/

namespace ShardRouting
open Sql

/-! ### References and destinations -/

/-- The table that a reference means: a missing schema is the default schema. -/
def Sql.Reference.logical? (defaultSchema : Option String) (reference : Reference) :
    Option (Option String × String) :=
  reference.name.split?.map fun (schema, table) => ((schema.map Ident.value).or defaultSchema, table.value)

/-- The engine shards the table of a reference. -/
def Sql.Reference.sharded (setting : Setting) (reference : Reference) : Bool :=
  match reference.logical? setting.options.defaultSchema with
  | some (schema, table) => (setting.engine.shardKey? setting.context schema table).isSome
  | none => false

def Sql.Reference.bound (setting : Setting) (reference : Reference) : Bool :=
  reference.walked && reference.sharded setting

/-- A name stands for a destination, a missing schema being the default schema. -/
def Addresses (defaultSchema : Option String) (name : ObjectName) (route : Destination) : Prop :=
  ∃ schema table, name.split? = some (schema, table) ∧ table.value = route.table ∧
    match schema with
    | some schema => schema.value = route.schema
    | none => ∃ default, defaultSchema = some default ∧ Text.sameAscii default route.schema = true

theorem ne_nil_of_split? {name : ObjectName} {parts : Option Ident × Ident} (h : name.split? = some parts) :
    name ≠ [] := by
  rintro rfl
  cases h

/-- Only the last two parts of a name count. -/
theorem split?_cons (part : Ident) {parts : ObjectName} (h : 2 ≤ parts.length) :
    ObjectName.split? (part :: parts) = parts.split? := by
  have hlength : 2 ≤ parts.reverse.length := by rwa [List.length_reverse]
  unfold ObjectName.split?
  rw [List.reverse_cons]
  match parts.reverse, hlength with
  | _ :: _ :: _, _ => rfl

theorem length_renameQualified (route : Destination) : ∀ name : ObjectName,
    (renameQualified route name).length = name.length
  | [] | [_] | [_, _] => rfl
  | _ :: schema :: table :: parts =>
    congrArg (· + 1) (length_renameQualified route (schema :: table :: parts))

theorem split?_renameQualified (route : Destination) : ∀ name : ObjectName, 2 ≤ name.length →
    ∃ schema table, (renameQualified route name).split? = some (some schema, table) ∧
      schema.value = route.schema ∧ table.value = route.table
  | [schema, table], _ => ⟨{ schema with value := route.schema }, { table with value := route.table }, rfl, rfl, rfl⟩
  | part :: schema :: table :: parts, _ => by
    have hlength : 2 ≤ (renameQualified route (schema :: table :: parts)).length := by
      simp [length_renameQualified]
    obtain ⟨s, t, hsplit, hschema, htable⟩ :=
      split?_renameQualified route (schema :: table :: parts) (by simp)
    exact ⟨s, t, (split?_cons part hlength).trans hsplit, hschema, htable⟩

/-- A renamed table is named for its destination. -/
theorem rename_addresses (defaultSchema : Option String) (route : Destination) {name : ObjectName}
    (h : name ≠ []) : Addresses defaultSchema (rename defaultSchema route name) route := by
  match name, h with
  | [table], _ =>
    simp only [rename]
    split
    · rename_i hdefault
      refine ⟨none, _, rfl, rfl, ?_⟩
      unfold isDefaultSchema at hdefault
      split at hdefault
      · exact ⟨_, rfl, hdefault⟩
      · cases hdefault
    · exact ⟨_, _, rfl, rfl, rfl⟩
  | first :: second :: rest, _ =>
    obtain ⟨schema, table, hsplit, hschema, htable⟩ :=
      split?_renameQualified route (first :: second :: rest) (by simp)
    exact ⟨_, _, hsplit, htable, hschema⟩

/-! ### Landing -/

/-- References, the names that stand in their places after the routing, and the routed tables: those that
    `moves` are the tables one by one. -/
inductive Landed (setting : Setting) (moves : Reference → Bool) :
    List Reference → List ObjectName → List RoutedTable → Prop
  | nil : Landed setting moves [] [] []
  | moved {reference : Reference} {name : ObjectName} {table : RoutedTable} {references : List Reference}
    {names : List ObjectName} {tables : List RoutedTable} (h : moves reference = true)
    (hlogical : reference.logical? setting.options.defaultSchema = some (table.schema, table.table))
    (hname : Addresses setting.options.defaultSchema name table.route)
    (hrest : Landed setting moves references names tables) :
    Landed setting moves (reference :: references) (name :: names) (table :: tables)
  | kept {reference : Reference} {references : List Reference} {names : List ObjectName}
    {tables : List RoutedTable} (h : moves reference = false)
    (hrest : Landed setting moves references names tables) :
    Landed setting moves (reference :: references) (reference.name :: names) tables

namespace Landed

variable {setting : Setting} {moves demanded : Reference → Bool} {references references' : List Reference}
  {names names' : List ObjectName} {tables tables' : List RoutedTable}

theorem append (h : Landed setting moves references names tables)
    (h' : Landed setting moves references' names' tables') :
    Landed setting moves (references ++ references') (names ++ names') (tables ++ tables') := by
  induction h with
  | nil => exact h'
  | moved hmoves hlogical hname _ ih => exact .moved hmoves hlogical hname ih
  | kept hmoves _ ih => exact .kept hmoves ih

/-- References none of which moves keep their names. -/
theorem still (h : ∀ reference ∈ references, moves reference = false) :
    Landed setting moves references (references.map Reference.name) [] := by
  induction references with
  | nil => exact .nil
  | cons reference references ih =>
    obtain ⟨hfirst, hrest⟩ := List.forall_mem_cons.mp h
    exact .kept hfirst (ih hrest)

theorem congr (h : Landed setting moves references names tables)
    (hmoves : ∀ reference ∈ references, demanded reference = moves reference) :
    Landed setting demanded references names tables := by
  induction h with
  | nil => exact .nil
  | moved hfirst hlogical hname _ ih =>
    obtain ⟨hhead, htail⟩ := List.forall_mem_cons.mp hmoves
    exact .moved (hhead.trans hfirst) hlogical hname (ih htail)
  | kept hfirst _ ih =>
    obtain ⟨hhead, htail⟩ := List.forall_mem_cons.mp hmoves
    exact .kept (hhead.trans hfirst) (ih htail)

theorem length_tables (h : Landed setting moves references names tables) :
    tables.length = references.countP moves := by
  induction h with
  | nil => rfl
  | moved hmoves _ _ _ ih => simp [hmoves, ih]
  | kept hmoves _ ih => simp [hmoves, ih]

theorem length_names (h : Landed setting moves references names tables) : names.length = references.length := by
  induction h with
  | nil => rfl
  | moved _ _ _ _ ih => simp [ih]
  | kept _ _ ih => simp [ih]

/-- As many as before can be counted by a weaker test only where it says the same. -/
theorem forall_of_countP_eq (hle : ∀ reference, moves reference = true → demanded reference = true)
    (h : references.countP demanded = references.countP moves) :
    ∀ reference ∈ references, demanded reference = true → moves reference = true := by
  induction references with
  | nil => simp
  | cons reference references ih =>
    have hrest : references.countP moves ≤ references.countP demanded :=
      List.countP_mono_left fun other _ => hle other
    rw [List.countP_cons, List.countP_cons] at h
    have hhead : demanded reference = true → moves reference = true := by
      intro hdemanded
      by_contra hmoves
      rw [if_pos hdemanded, if_neg hmoves] at h
      omega
    refine List.forall_mem_cons.mpr ⟨hhead, ih ?_⟩
    by_cases hmoves : moves reference = true
    · rw [if_pos hmoves, if_pos (hle reference hmoves)] at h
      omega
    · rw [if_neg hmoves, if_neg (mt hhead hmoves)] at h
      omega

/-- More references can move only if they all moved already. -/
theorem demanded_iff (h : Landed setting moves references names tables)
    (hle : ∀ reference, moves reference = true → demanded reference = true) :
    Landed setting demanded references names tables ↔
      ∀ reference ∈ references, demanded reference = true → moves reference = true := by
  constructor
  · intro h'
    exact forall_of_countP_eq hle (h'.length_tables.symm.trans h.length_tables)
  · intro hback
    exact h.congr fun reference hreference =>
      Bool.eq_iff_iff.mpr ⟨hback reference hreference, hle reference⟩

/-- Fewer references can move only if they are all that moved. -/
theorem narrowed_iff (h : Landed setting moves references names tables)
    (hle : ∀ reference, demanded reference = true → moves reference = true) :
    Landed setting demanded references names tables ↔
      ∀ reference ∈ references, moves reference = true → demanded reference = true := by
  constructor
  · intro h'
    exact forall_of_countP_eq hle (h.length_tables.symm.trans h'.length_tables)
  · intro hback
    exact h.congr fun reference hreference =>
      Bool.eq_iff_iff.mpr ⟨hle reference, hback reference hreference⟩

/-- The table of a reference that moves is the one with as many tables before it as references move. -/
theorem at_index (h : Landed setting moves references names tables) {i : Nat} {reference : Reference}
    (hi : references[i]? = some reference) :
    ∃ name, names[i]? = some name ∧
      (moves reference = true → ∃ table, tables[(references.take i).countP moves]? = some table ∧
        reference.logical? setting.options.defaultSchema = some (table.schema, table.table) ∧
        Addresses setting.options.defaultSchema name table.route) ∧
      (moves reference = false → name = reference.name) := by
  induction h generalizing i with
  | nil => cases hi
  | moved hmoves hlogical hname hrest ih =>
    cases i with
    | zero =>
      cases hi
      exact ⟨_, rfl, fun _ => ⟨_, rfl, hlogical, hname⟩, fun h => absurd (hmoves.symm.trans h) (by simp)⟩
    | succ i =>
      obtain ⟨name, hi', hmoved, hkept⟩ := ih hi
      refine ⟨name, hi', fun h => ?_, hkept⟩
      simpa [hmoves] using hmoved h
  | kept hmoves hrest ih =>
    cases i with
    | zero =>
      cases hi
      exact ⟨_, rfl, fun h => absurd (hmoves.symm.trans h) (by simp), fun _ => rfl⟩
    | succ i =>
      obtain ⟨name, hi', hmoved, hkept⟩ := ih hi
      refine ⟨name, hi', fun h => ?_, hkept⟩
      simpa [hmoves] using hmoved h

end Landed

end ShardRouting
