import ShardRouting.Proofs.Agreement
import ShardRouting.Proofs.Commuting

/-! The order of what is said has no part in where tables are sent: neither that of the sides of `AND` and `OR`
    nor that of the tables of a selection. Which of several values is met first decides only on the case of
    letters in a destination. -/

namespace ShardRouting
open Sql Walk

variable {setting : Setting} {statement : Statement} {routed again : Routed} {swapped : List Nat → Bool}
  {order : List Nat → List Nat}

/-! ### Case -/

/-- A name with its ASCII letters in small. -/
def Sql.ObjectName.folded (name : ObjectName) : ObjectName :=
  name.map fun part => { part with value := String.ofList (part.value.toList.map Char.toLower) }

theorem ofList_toLower {s t : String} (h : Text.sameAscii s t = true) :
    String.ofList (t.toList.map Char.toLower) = String.ofList (s.toList.map Char.toLower) := by
  rw [Text.sameAscii_iff.mp h]

theorem folded_renameQualified {route route' : Destination} (h : route.same route' = true) :
    ∀ name : ObjectName, (renameQualified route' name).folded = (renameQualified route name).folded
  | [] => rfl
  | [_] => rfl
  | [schema, table] => by
    obtain ⟨hschema, htable⟩ := Destination.same_iff.mp h
    simp only [renameQualified, ObjectName.folded, List.map_cons, List.map_nil, ofList_toLower hschema,
      ofList_toLower htable]
  | part :: second :: third :: rest => by
    have hrest := folded_renameQualified h (second :: third :: rest)
    simp only [ObjectName.folded, renameQualified, List.map_cons] at hrest ⊢
    rw [hrest]

theorem isDefaultSchema_same {s t : String} (h : Text.sameAscii s t = true) (defaultSchema : Option String) :
    isDefaultSchema defaultSchema t = isDefaultSchema defaultSchema s := by
  cases defaultSchema with
  | none => rfl
  | some default => simp only [isDefaultSchema, Text.sameAscii, Text.sameAscii_iff.mp h]

theorem folded_rename {route route' : Destination} (h : route.same route' = true) (defaultSchema : Option String)
    (name : ObjectName) : (rename defaultSchema route' name).folded = (rename defaultSchema route name).folded := by
  obtain ⟨hschema, htable⟩ := Destination.same_iff.mp h
  unfold rename
  split
  · rw [isDefaultSchema_same hschema]
    split <;>
      simp only [ObjectName.folded, List.map_cons, List.map_nil, ofList_toLower hschema, ofList_toLower htable]
  · exact folded_renameQualified h _

/-- Destinations that are the same are spelled alike without regard to case. -/
def Spelling.folded (setting : Setting) (turning : Prop) : Spelling setting turning where
  spell := ObjectName.folded
  near _ _ hnear name := folded_rename hnear.1 setting.options.defaultSchema name

/-! ### Turning -/

theorem turned_suits (setting : Setting) (swapped : List Nat → Bool) (order : List Nat → List Nat) :
    ({ swapped, order } : Alteration).Suits setting True False :=
  ⟨rfl, fun hstill => absurd trivial hstill, fun _ _ _ _ => rfl, fun _ _ _ _ h => (nomatch h)⟩

/-- The scripts of a statement and of a turned statement read the same sources. -/
theorem turned_steps (setting : Setting) (statement : Statement) (swapped : List Nat → Bool)
    (order : List Nat → List Nat) :
    Resembles setting True (fun piece piece' => piece'.source? setting.scan = piece.source? setting.scan)
      statement.steps (statement.altered { swapped, order }).steps :=
  (Statement.steps_altered statement (turned_suits setting swapped order)).mono fun _ _ h => h.source_bare not_false

/-- A table of a turned statement, which is sent where it was sent before but for the case of letters. -/
structure Kept (first again : RoutedTable) : Prop where
  schema : again.schema = first.schema
  table : again.table = first.table
  route : first.route.same again.route = true

theorem Resembles.turned {statement statement' : Statement}
    (hsteps : Resembles setting True (fun piece piece' => piece'.source? setting.scan = piece.source? setting.scan)
      statement.steps statement'.steps)
    (h : (Router.routeStatement setting statement).result = .ok routed) :
    ∃ again, (Router.routeStatement setting statement').result = .ok again ∧
      Matched True Kept routed.tables again.tables := by
  obtain ⟨again, hagain, htables⟩ := hsteps.routed (S := Eq)
    (fun _ _ source hsame hsource => ⟨source, hsame.trans hsource, rfl⟩)
    (fun _ _ hsame => hsame ▸ ⟨rfl, id⟩) h
  exact ⟨again, hagain, htables.imp fun _ _ hrerouted => ⟨hrerouted.schema, hrerouted.table, hrerouted.route⟩⟩

/-- Whether a statement is routed does not depend on the order of the sides of `AND` and `OR` and of the tables of its
    selections. When it is routed, each table is sent to the same place but for the case of letters, and the same
    schemas are touched but for the case of letters. -/
theorem turned_routed_alike :
    ((∃ routed, (Router.routeStatement setting statement).result = .ok routed) ↔
      ∃ again, (Router.routeStatement setting (statement.altered { swapped, order })).result = .ok again) ∧
    ∀ routed again, (Router.routeStatement setting statement).result = .ok routed →
      (Router.routeStatement setting (statement.altered { swapped, order })).result = .ok again →
        again.statement.altered { named := ObjectName.folded } =
          routed.statement.altered { swapped, order, named := ObjectName.folded } ∧
        (∃ tables, List.Forall₂ Kept routed.tables tables ∧ tables.Perm again.tables) ∧
        (∀ schema ∈ routed.schemas, ∃ other ∈ again.schemas, Text.sameAscii schema other = true) ∧
        ∀ other ∈ again.schemas, ∃ schema ∈ routed.schemas, Text.sameAscii schema other = true := by
  have hsteps := turned_steps setting statement swapped order
  refine ⟨⟨?_, ?_⟩, fun routed again h hagain => ?_⟩
  · rintro ⟨routed, h⟩
    obtain ⟨again, hagain, -⟩ := hsteps.turned h
    exact ⟨again, hagain⟩
  · rintro ⟨again, hagain⟩
    obtain ⟨routed, h, -⟩ := (hsteps.symm fun _ _ hsame => hsame.symm).turned hagain
    exact ⟨routed, h⟩
  · obtain ⟨other, hother, htables⟩ := hsteps.turned h
    cases hother.symm.trans hagain
    refine ⟨?_, ?_, ?_, ?_⟩
    · exact routeStatement_altered (turned_suits setting swapped order) h hagain (.folded setting True)
    · obtain ⟨tables, hpairs, hperm, -⟩ := htables
      exact ⟨tables, hpairs, hperm⟩
    · rw [routeStatement_schemas h, routeStatement_schemas hagain]
      intro schema hschema
      obtain ⟨table, htable, rfl⟩ := mem_schemasOf.mp hschema
      obtain ⟨other, hother, hkept⟩ := htables.left_mem htable
      exact ⟨_, mem_schemasOf.mpr ⟨other, hother, rfl⟩, (Destination.same_iff.mp hkept.route).1⟩
    · rw [routeStatement_schemas h, routeStatement_schemas hagain]
      intro schema hschema
      obtain ⟨other, hother, rfl⟩ := mem_schemasOf.mp hschema
      obtain ⟨table, htable, hkept⟩ := htables.right_mem hother
      exact ⟨_, mem_schemasOf.mpr ⟨table, htable, rfl⟩, (Destination.same_iff.mp hkept.route).1⟩

namespace Sample

/-- `SELECT total FROM orders, items WHERE id IN (4) AND shipped`. -/
def paired : Statement :=
  .query (query (.select (select [orders, .table [⟨"items", none⟩] [] none []]
    (.binary (.inList id false [literal "4"]) .and (.ident ⟨"shipped", none⟩)))))

/-- `SELECT total FROM items, orders WHERE shipped AND id IN (4)`. -/
def turned : Statement :=
  .query (query (.select (select [.table [⟨"items", none⟩] [] none [], orders]
    (.binary (.ident ⟨"shipped", none⟩) .and (.inList id false [literal "4"])))))

end Sample

theorem turned_routed_alike_paired :
    ∃ routed again, (Router.routeStatement (Sample.under []) Sample.paired).result = .ok routed ∧
      Sample.paired.altered { swapped := fun _ => true, order := fun _ => [1] } = Sample.turned ∧
      (Router.routeStatement (Sample.under []) Sample.turned).result = .ok again ∧ routed.schemas = ["main"] ∧
      again.statement.altered { named := ObjectName.folded } = routed.statement.altered
        { swapped := fun _ => true, order := fun _ => [1], named := ObjectName.folded } ∧
      (∃ tables, List.Forall₂ Kept routed.tables tables ∧ tables.Perm again.tables) ∧
      ∃ other ∈ again.schemas, Text.sameAscii "main" other = true := by
  obtain ⟨routed, h, hschemas⟩ : ∃ routed,
      (Router.routeStatement (Sample.under []) Sample.paired).result = .ok routed ∧
        routed.schemas = ["main"] := ⟨_, rfl, rfl⟩
  obtain ⟨again, hagain⟩ : ∃ again,
      (Router.routeStatement (Sample.under []) Sample.turned).result = .ok again := ⟨_, rfl⟩
  have hturned : Sample.paired.altered { swapped := fun _ => true, order := fun _ => [1] } = Sample.turned := rfl
  obtain ⟨hstatement, htables, hkept, -⟩ := turned_routed_alike.2 routed again h (hturned ▸ hagain)
  refine ⟨routed, again, h, hturned, hagain, hschemas, hstatement, htables, ?_⟩
  exact hkept "main" (by simp [hschemas])

end ShardRouting
