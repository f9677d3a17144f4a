import ShardRouting.Proofs.Agreement
import ShardRouting.Proofs.Coverage

/-! Where the tables of a statement end up. A bound reference gets the name of its own destination and every
    other one keeps its name. No sharded table is left behind unless it stands where the walk passes over. -/

namespace ShardRouting
open Sql Walk

variable {setting : Setting} {statement : Statement} {routed : Routed}

/-- The references of a routed statement land on its tables. -/
theorem routeStatement_landed (h : (Router.routeStatement setting statement).result = .ok routed) :
    Landed setting (Reference.bound setting) (statement.references []) (namesOf (routed.statement.references []))
      routed.tables := by
  obtain ⟨tree, p, hwalk, rfl⟩ := Outcome.ofWalk_iff.mp h
  obtain ⟨-, names, tables, hnames, htables, hlanded⟩ := walkStatement_moves statement [] 0 {} tree p hwalk
  rw [List.nil_append] at hnames htables
  rwa [← hnames, ← htables] at hlanded

/-! ### Names -/

/-- A bound reference is named for the destination of its own table, which is the one with as many tables
    before it as there are bound references before the reference. Any other reference keeps its name. -/
theorem names_follow_routes (h : (Router.routeStatement setting statement).result = .ok routed) :
    (routed.statement.references []).length = (statement.references []).length ∧
      ∀ (i : Nat) (reference : Reference), (statement.references [])[i]? = some reference →
        ∃ renamed, (routed.statement.references [])[i]? = some renamed ∧
          (reference.bound setting = true →
            ∃ table, routed.tables[((statement.references []).take i).countP (Reference.bound setting)]? = some table ∧
              reference.logical? setting.options.defaultSchema = some (table.schema, table.table) ∧
              Addresses setting.options.defaultSchema renamed.name table.route) ∧
          (reference.bound setting = false → renamed.name = reference.name) := by
  have hlanded := routeStatement_landed h
  refine ⟨?_, fun i reference hi => ?_⟩
  · have hlength := hlanded.length_names
    rwa [namesOf, List.length_map] at hlength
  · obtain ⟨name, hname, hmoved, hkept⟩ := hlanded.at_index hi
    rw [namesOf, List.getElem?_map] at hname
    obtain ⟨renamed, hrenamed, rfl⟩ := Option.map_eq_some_iff.mp hname
    exact ⟨renamed, hrenamed, hmoved, hkept⟩

namespace Sample

/-- `id` is a number. -/
def keyed (digits : String) : Expr := .binary id .eq (literal digits)

def ofKey (digits : String) : Query := query (.select (select [orders] (keyed digits)))

/-- `SELECT total FROM audit, (SELECT total FROM orders WHERE id = 1) AS past, orders WHERE id = 4`. -/
def beside : Statement :=
  .query (query (.select (select
    [.table [⟨"audit", none⟩] [] none [], .derived false (ofKey "1") (some ⟨⟨"past", none⟩, []⟩), orders]
    (keyed "4"))))

end Sample

theorem names_follow_routes_beside :
    ∃ routed, (Router.routeStatement (Sample.under []) Sample.beside).result = .ok routed ∧
      (routed.statement.references []).length = 3 ∧
      ∃ renamed table, (routed.statement.references [])[2]? = some renamed ∧ routed.tables[1]? = some table ∧
        Addresses none renamed.name table.route := by
  obtain ⟨routed, h⟩ : ∃ routed, (Router.routeStatement (Sample.under []) Sample.beside).result = .ok routed :=
    ⟨_, rfl⟩
  obtain ⟨hlength, hnames⟩ := names_follow_routes h
  obtain ⟨renamed, hrenamed, hmoved, -⟩ := hnames 2 _ rfl
  obtain ⟨table, htable, -, haddresses⟩ := hmoved rfl
  exact ⟨routed, h, hlength, renamed, table, hrenamed, htable, haddresses⟩

/-! ### Tables left behind -/

/-- The table of a reference is sharded and has to be routed: the walk binds it anyway, or nothing spares it. -/
def Sql.Reference.due (setting : Setting) (reference : Reference) : Bool :=
  reference.sharded setting && (reference.walked || !reference.spared)

theorem Sql.Reference.due_of_bound {reference : Reference} (h : reference.bound setting = true) :
    reference.due setting = true := by
  obtain ⟨hwalked, hsharded⟩ := Bool.and_eq_true_iff.mp h
  simp [due, hwalked, hsharded]

/-- All tables that have to be routed are listed, each once, and named for their destinations exactly when
    none of them stands where the walk passes over. -/
theorem sharded_land_iff_walked (h : (Router.routeStatement setting statement).result = .ok routed) :
    Landed setting (Reference.due setting) (statement.references []) (namesOf (routed.statement.references []))
        routed.tables ↔
      ∀ reference ∈ statement.references [], reference.sharded setting = true → reference.spared = false →
        reference.walked = true := by
  rw [(routeStatement_landed h).demanded_iff fun _ => Reference.due_of_bound]
  refine forall₂_congr fun reference _ => ?_
  cases hwalked : reference.walked <;> cases hspared : reference.spared <;>
    simp [Reference.due, Reference.bound, hwalked, hspared]

theorem sharded_land_iff_walked_listed :
    ∃ routed, (Router.routeStatement (Sample.under [(.index 1, .int 6)]) Sample.listed).result = .ok routed ∧
      (Landed (Sample.under [(.index 1, .int 6)]) (Reference.due (Sample.under [(.index 1, .int 6)]))
          (Sample.listed.references []) (namesOf (routed.statement.references [])) routed.tables ↔
        ∀ reference ∈ Sample.listed.references [], reference.sharded (Sample.under [(.index 1, .int 6)]) = true →
          reference.spared = false → reference.walked = true) := by
  obtain ⟨routed, h⟩ : ∃ routed,
      (Router.routeStatement (Sample.under [(.index 1, .int 6)]) Sample.listed).result = .ok routed := ⟨_, rfl⟩
  exact ⟨routed, h, sharded_land_iff_walked h⟩

/-- `INSERT INTO audit (id, total) VALUES (1, 2) ON DUPLICATE KEY UPDATE total = (SELECT total FROM orders
    WHERE id = 1)`. -/
def Sample.audited : Statement :=
  .insert {
    head := "INSERT INTO"
    target := [⟨"audit", none⟩]
    alias_ := none
    columns := [⟨"id", none⟩, ⟨"total", none⟩]
    middle := []
    source := some (query (.values false [[literal "1", literal "2"]]))
    trailer := [.words " ON DUPLICATE KEY UPDATE ",
      .aside (.form [.words "total = ", .part (.subquery (ofKey "1"))])] }

/-- The orders behind the action of an insertion are sharded, yet they are neither listed nor renamed. -/
theorem insert_action_left_behind :
    ∃ routed, (Router.routeStatement (Sample.under []) Sample.audited).result = .ok routed ∧
      routed.tables = [] ∧ (∃ reference ∈ Sample.audited.references [],
        reference.sharded (Sample.under []) = true ∧ reference.spared = false ∧
          reference.name ∈ namesOf (routed.statement.references [])) ∧
      ¬Landed (Sample.under []) (Reference.due (Sample.under [])) (Sample.audited.references [])
        (namesOf (routed.statement.references [])) routed.tables := by
  refine ⟨_, rfl, rfl, ⟨{ name := [⟨"orders", none⟩], walked := false }, ?_, rfl, rfl, ?_⟩, fun hlanded => ?_⟩
  · exact List.mem_cons_self
  · exact List.mem_cons_self
  · exact absurd hlanded.length_tables (by decide)

end ShardRouting
