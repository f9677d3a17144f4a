import Mathlib.Data.List.Nodup
import Mathlib.Tactic.MkIffOfInductiveProp
import ShardRouting.Proofs.Claiming

/-! Names with points in them. A column and the shard key of a table are compared as texts, their parts joined by
    points. So a column that stands for a table is the key of the table part by part exactly if it has as many points in
    each part as the key has. A point inside a name does not differ from one between two names. -/

namespace ShardRouting
open Sql

/-! ### Joined texts -/

/-- The number of points in a text. -/
def Text.points (s : String) : Nat := s.toList.count '.'

namespace Text

theorem eq_nil_of_append_point {rest b d : List Char} (h : '.' :: b = rest ++ '.' :: d) (hpoints : rest.count '.' = 0) :
    rest = [] := by
  cases rest with
  | nil => rfl
  | cons c rest =>
    obtain ⟨rfl, -⟩ := List.cons.inj h
    simp at hpoints

/-- A text is cut at a point in only one way, given how many points stand before it. -/
theorem append_point_inj {a b c d : List Char} (h : a ++ '.' :: b = c ++ '.' :: d)
    (hpoints : a.count '.' = c.count '.') : a = c ∧ b = d := by
  rcases List.append_eq_append_iff.mp h with ⟨rest, rfl, hrest⟩ | ⟨rest, rfl, hrest⟩
  · rw [List.count_append] at hpoints
    obtain rfl := eq_nil_of_append_point hrest (by omega)
    exact ⟨(List.append_nil a).symm, (List.cons.inj hrest).2⟩
  · rw [List.count_append] at hpoints
    obtain rfl := eq_nil_of_append_point hrest (by omega)
    exact ⟨List.append_nil c, (List.cons.inj hrest).2.symm⟩

theorem join_cons_cons (part next : String) (parts : List String) :
    (".".intercalate (part :: next :: parts)).toList =
      part.toList ++ '.' :: (".".intercalate (next :: parts)).toList := by
  have hpoint : ".".toList = ['.'] := rfl
  rw [String.intercalate_cons_cons, String.toList_append, String.toList_append, hpoint, List.append_assoc,
    List.singleton_append]

theorem points_append (s t : String) : points (s ++ t) = points s + points t := by
  rw [points, String.toList_append, List.count_append]
  rfl

@[simp] theorem points_point : points "." = 1 := rfl

/-- Joined parts keep their points and get one between any two. -/
theorem points_join (part next : String) (parts : List String) :
    points (".".intercalate (part :: next :: parts)) = points part + 1 + points (".".intercalate (next :: parts)) := by
  rw [String.intercalate_cons_cons, points_append, points_append, points_point]

theorem map_points_eq_replicate {parts : List String} (h : ∀ part ∈ parts, points part = 0) :
    parts.map points = List.replicate parts.length 0 := List.map_eq_replicate_iff.mpr h

/-- Parts without points are counted by the points between them. -/
theorem points_join_of_none {parts : List String} (hparts : parts ≠ []) (h : ∀ part ∈ parts, points part = 0) :
    points (".".intercalate parts) + 1 = parts.length := by
  induction parts with
  | nil => exact absurd rfl hparts
  | cons part parts ih =>
    obtain ⟨hpart, hrest⟩ := List.forall_mem_cons.mp h
    cases parts with
    | nil => rw [String.intercalate_singleton, hpart, List.length_singleton]
    | cons next parts =>
      have hjoin := ih (List.cons_ne_nil next parts) hrest
      rw [points_join, hpart, List.length_cons, ← hjoin]
      omega

theorem points_join_congr {parts others : List String} (h : parts.map points = others.map points) :
    points (".".intercalate parts) = points (".".intercalate others) := by
  induction parts generalizing others with
  | nil => rw [List.map_eq_nil_iff.mp h.symm]
  | cons part parts ih =>
    cases others with
    | nil => cases h
    | cons other others =>
      obtain ⟨hfirst, hrest⟩ := List.cons.inj h
      have hjoin := ih hrest
      cases parts with
      | nil =>
        obtain rfl := List.map_eq_nil_iff.mp hrest.symm
        rw [String.intercalate_singleton, String.intercalate_singleton, hfirst]
      | cons next parts =>
        cases others with
        | nil => cases hrest
        | cons following others => rw [points_join, points_join, hfirst, hjoin]

/-- Parts that have as many points as others, one by one, are joined to the same text only if they are the same. -/
theorem eq_of_join {parts others : List String} (hpoints : parts.map points = others.map points)
    (h : ".".intercalate parts = ".".intercalate others) : parts = others := by
  induction parts generalizing others with
  | nil => exact (List.map_eq_nil_iff.mp hpoints.symm).symm
  | cons part parts ih =>
    cases others with
    | nil => cases hpoints
    | cons other others =>
      obtain ⟨hfirst, hrest⟩ := List.cons.inj hpoints
      cases parts with
      | nil =>
        obtain rfl := List.map_eq_nil_iff.mp hrest.symm
        rw [String.intercalate_singleton, String.intercalate_singleton] at h
        rw [h]
      | cons next parts =>
        cases others with
        | nil => cases hrest
        | cons following others =>
          have hchars := congrArg String.toList h
          rw [join_cons_cons, join_cons_cons] at hchars
          obtain ⟨hpart, hjoined⟩ := append_point_inj hchars hfirst
          rw [String.toList_inj.mp hpart, ih hrest (String.toList_inj.mp hjoined)]

end Text

/-! ### Parts of columns and keys -/

/-- The identifiers of a column. -/
def Sql.Expr.columnParts : Expr → List Ident
  | .ident name => [name]
  | .column parts => parts
  | _ => []

/-- The last identifiers of a column, at most three, in small letters. -/
def ColumnRef.path (parts : List Ident) : List String :=
  (parts.drop (parts.length - 3)).map fun part => Text.lower part.value

theorem ColumnRef.path_ne_nil {parts : List Ident} (h : parts ≠ []) : ColumnRef.path parts ≠ [] := by
  have hpos := List.length_pos_iff.mpr h
  rw [← List.length_pos_iff, ColumnRef.path, List.length_map, List.length_drop]
  omega

theorem ColumnRef.key_eq {e : Expr} {column : ColumnRef} (h : ColumnRef.ofExpr? e = some column) :
    column.key = ".".intercalate (ColumnRef.path e.columnParts) := by
  unfold ColumnRef.ofExpr? at h
  split at h
  · cases h
    exact String.intercalate_singleton.symm
  · cases h
    rfl
  · cases h

namespace Binding

/-- The shard key part by part, alone or behind the name of its table and its schema, in small letters. -/
def paths (binding : Binding) : List (List String) :=
  let column := [Text.lower binding.qualifier, Text.lower binding.key]
  (binding.schema.map fun schema => Text.lower schema :: column).toList ++ [column, [Text.lower binding.key]]

/-- A column names the shard key of a table part by part. Its last identifier is the key, the one before that, if there
    is one, the alias of the table or else its name, and the one before that its schema, whatever the case. -/
@[mk_iff]
structure Named (binding : Binding) (parts : List Ident) : Prop where
  key : (parts.reverse[0]?).map (fun part => Text.lower part.value) = some (Text.lower binding.key)
  table : ∀ part, parts.reverse[1]? = some part → Text.lower part.value = Text.lower binding.qualifier
  schema : ∀ part, parts.reverse[2]? = some part → some (Text.lower part.value) = binding.schema.map Text.lower

theorem lookupKeys_eq (binding : Binding) : binding.lookupKeys = binding.paths.map ".".intercalate := by
  unfold lookupKeys paths
  cases binding.schema with
  | none => simp [String.intercalate_cons_cons, String.intercalate_singleton]
  | some schema => simp [String.intercalate_cons_cons, String.intercalate_singleton, String.append_assoc]

theorem ne_nil_of_mem_paths {binding : Binding} {path : List String} (h : path ∈ binding.paths) : path ≠ [] := by
  rintro rfl
  unfold paths at h
  cases hschema : binding.schema <;> simp [hschema] at h

/-- The forms of the key have fewer and fewer points, so their number tells which form a text is. -/
theorem path_unique {binding : Binding} {path other : List String} (hpath : path ∈ binding.paths)
    (hother : other ∈ binding.paths)
    (h : Text.points (".".intercalate path) = Text.points (".".intercalate other)) : path = other := by
  have hfewer : (binding.paths.map fun path => Text.points (".".intercalate path)).Pairwise (· > ·) := by
    unfold paths
    cases binding.schema with
    | none => simp [Text.points_append]
    | some schema =>
      simp [Text.points_append]
      omega
  exact List.inj_on_of_nodup_map (hfewer.imp Nat.ne_of_gt) hpath hother h

theorem named_iff_path {binding : Binding} {parts : List Ident} (hparts : parts ≠ []) :
    binding.Named parts ↔ ColumnRef.path parts ∈ binding.paths := by
  obtain ⟨back, rfl⟩ : ∃ back, parts = back.reverse := ⟨parts.reverse, (List.reverse_reverse parts).symm⟩
  have hpath : ColumnRef.path back.reverse = ((back.take 3).map fun part => Text.lower part.value).reverse := by
    rw [ColumnRef.path, List.length_reverse, ← List.reverse_take, List.map_reverse]
  rw [named_iff, List.reverse_reverse, hpath]
  unfold paths
  match back, hparts with
  | [key], _ => cases binding.schema <;> simp
  | [key, table], _ => cases binding.schema <;> simp [and_comm]
  | key :: table :: schema :: rest, _ =>
    cases binding.schema with
    | none => simp
    | some _ =>
      simp
      tauto

end Binding

/-! ### Resolution -/

/-- A column stands for a table by a text that it shares with one form of the key of the table. -/
theorem Binding.exists_path {binding : Binding} {parts : List Ident}
    (h : ".".intercalate (ColumnRef.path parts) ∈ binding.lookupKeys) :
    ∃ path ∈ binding.paths, ".".intercalate path = ".".intercalate (ColumnRef.path parts) := by
  rw [Binding.lookupKeys_eq] at h
  exact List.mem_map.mp h

/-- A column that shares a text with a form of the key is that form if it has the points of any form. -/
theorem Binding.mem_paths {binding : Binding} {parts : List Ident}
    (h : ".".intercalate (ColumnRef.path parts) ∈ binding.lookupKeys)
    (hpoints : (ColumnRef.path parts).map Text.points ∈ binding.paths.map (List.map Text.points)) :
    ColumnRef.path parts ∈ binding.paths := by
  obtain ⟨path, hpath, hjoin⟩ := exists_path h
  obtain ⟨other, hother, hsame⟩ := List.mem_map.mp hpoints
  have hmany : Text.points (".".intercalate path) = Text.points (".".intercalate other) := by
    rw [hjoin, Text.points_join_congr hsame]
  obtain rfl := path_unique hpath hother hmany
  rwa [Text.eq_of_join hsame hjoin] at hpath

/-- A column that stands for a table names its key part by part exactly if its last three identifiers have their points
    where a form of the key has them; so it does where neither has any. -/
theorem named_iff_points {bindings : List Binding} {e : Expr} {column : ColumnRef} {index : Nat} {binding : Binding}
    (hparts : e.columnParts ≠ []) (hcolumn : ColumnRef.ofExpr? e = some column)
    (h : (Scope.ofBindings bindings).resolve column.key = .bound index binding) :
    bindings[index]? = some binding ∧
      (binding.Named e.columnParts ↔
        (ColumnRef.path e.columnParts).map Text.points ∈ binding.paths.map (List.map Text.points)) ∧
      ((∀ part ∈ ColumnRef.path e.columnParts, Text.points part = 0) →
        (∀ path ∈ binding.paths, ∀ part ∈ path, Text.points part = 0) → binding.Named e.columnParts) := by
  obtain ⟨-, -, hbound⟩ := Scope.resolve_ofBindings bindings column.key
  obtain ⟨-, hbinding, hkey⟩ := (hbound index binding).mp h
  rw [ColumnRef.key_eq hcolumn] at hkey
  have hiff : binding.Named e.columnParts ↔
      (ColumnRef.path e.columnParts).map Text.points ∈ binding.paths.map (List.map Text.points) := by
    rw [Binding.named_iff_path hparts]
    exact ⟨List.mem_map_of_mem, Binding.mem_paths hkey⟩
  refine ⟨hbinding, hiff, fun hcolumn hforms => ?_⟩
  obtain ⟨path, hpath, hjoin⟩ := Binding.exists_path hkey
  have hlength : (ColumnRef.path e.columnParts).length = path.length := by
    rw [← Text.points_join_of_none (ColumnRef.path_ne_nil hparts) hcolumn,
      ← Text.points_join_of_none (Binding.ne_nil_of_mem_paths hpath) (hforms path hpath), hjoin]
  refine hiff.mpr (List.mem_map.mpr ⟨path, hpath, ?_⟩)
  rw [Text.map_points_eq_replicate (hforms path hpath), Text.map_points_eq_replicate hcolumn, hlength]

namespace Sample

/-- `app.orders`, sharded by `uid`. -/
def ordersByUid : Binding :=
  { slot := .factor 0, schema := some "app", table := ⟨"orders", none⟩, alias_ := none, key := "uid" }

/-- The scope of a statement that names `app.orders` alone. -/
def overOrders : Scope := .ofBindings [ordersByUid]

/-- The column `Orders.uid`. -/
def twoNames : Expr := .column [⟨"Orders", none⟩, ⟨"uid", some '"'⟩]

/-- One name in quotes with a point in it. -/
def oneName : Expr := .ident ⟨"orders.uid", some '"'⟩

end Sample

/-- A column of two names is the shard key behind the name of its table. -/
theorem named_iff_points_orders :
    Sample.twoNames.columnParts ≠ [] ∧
      ∃ column, ColumnRef.ofExpr? Sample.twoNames = some column ∧
        Sample.overOrders.resolve column.key = .bound 0 Sample.ordersByUid ∧
        Sample.ordersByUid.Named Sample.twoNames.columnParts := by
  have hparts : Sample.twoNames.columnParts ≠ [] := List.cons_ne_nil _ _
  obtain ⟨column, hcolumn, hbound⟩ : ∃ column, ColumnRef.ofExpr? Sample.twoNames = some column ∧
      Sample.overOrders.resolve column.key = .bound 0 Sample.ordersByUid := ⟨_, rfl, by decide +kernel⟩
  obtain ⟨-, hnamed, -⟩ := named_iff_points hparts hcolumn hbound
  exact ⟨hparts, column, hcolumn, hbound, hnamed.mpr (by decide +kernel)⟩

/-- A column of one name is taken for the shard key behind the name of its table. -/
theorem point_in_name_taken :
    (∃ column, ColumnRef.ofExpr? Sample.oneName = some column ∧
        Sample.overOrders.resolve column.key = .bound 0 Sample.ordersByUid ∧
        ¬Sample.ordersByUid.Named Sample.oneName.columnParts) ∧
      ¬∀ (bindings : List Binding) (e : Expr) (column : ColumnRef) (index : Nat) (binding : Binding),
        ColumnRef.ofExpr? e = some column → (Scope.ofBindings bindings).resolve column.key = .bound index binding →
          binding.Named e.columnParts := by
  obtain ⟨column, hcolumn, hbound⟩ : ∃ column, ColumnRef.ofExpr? Sample.oneName = some column ∧
      Sample.overOrders.resolve column.key = .bound 0 Sample.ordersByUid := ⟨_, rfl, by decide +kernel⟩
  have hnot : ¬Sample.ordersByUid.Named Sample.oneName.columnParts := fun hnamed =>
    absurd hnamed.key (by decide +kernel)
  exact ⟨⟨column, hcolumn, hbound, hnot⟩, fun hall => hnot (hall _ _ column _ _ hcolumn hbound)⟩

end ShardRouting
