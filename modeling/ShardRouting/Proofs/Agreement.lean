import ShardRouting.Proofs.Sketch
import ShardRouting.Routing.Router

/-! Route agreement. Whatever sent a table to its route sends it there: all values behind the recorded
    sources lead to one destination, and a table has sources only if there is such a value. -/

namespace ShardRouting
open Sql Walk

variable {setting : Setting} {statement : Statement} {routed : Routed}

/-! ### From calls to runs -/

theorem Outcome.ofWalk_iff {α β : Type} {step : Walk α} {finish : α → Progress → β} {b : β} :
    (Outcome.ofWalk step finish).result = .ok b ↔ ∃ a p, step {} = .ok a p ∧ finish a p = b := by
  have hrun : step.run {} = step {} := rfl
  unfold Outcome.ofWalk
  rw [hrun]
  cases step {} with
  | ok a p => simp
  | error e p => simp

theorem Walk.effect_iff {α : Type} {x : Walk α} {p q : Progress} : effect x p = .ok () q ↔ ∃ a, x p = .ok a q :=
  map_iff.trans ⟨fun ⟨a, h, _⟩ => ⟨a, h⟩, fun ⟨a, h⟩ => ⟨a, h, rfl⟩⟩

/-- A statement is routed by running its script. -/
theorem routeStatement_run (h : (Router.routeStatement setting statement).result = .ok routed) :
    ∃ p, runSteps setting 0 statement.steps {} = .ok () p ∧ p.routed = routed.tables := by
  obtain ⟨tree, p, hwalk, rfl⟩ := Outcome.ofWalk_iff.mp h
  have hruns : effect (walkStatement setting 0 statement) = _ := walkStatement_runs statement 0
  exact ⟨p, hruns ▸ effect_iff.mpr ⟨tree, hwalk⟩, rfl⟩

theorem routeStatement_of_run {p : Progress} (h : runSteps setting 0 statement.steps {} = .ok () p) :
    ∃ routed, (Router.routeStatement setting statement).result = .ok routed := by
  have hruns : effect (walkStatement setting 0 statement) = _ := walkStatement_runs statement 0
  obtain ⟨tree, hwalk⟩ := effect_iff.mp (hruns ▸ h)
  exact ⟨_, Outcome.ofWalk_iff.mpr ⟨tree, p, hwalk, rfl⟩⟩

/-! ### Routed tables over their sketches -/

theorem Follows.start (setting : Setting) : Follows setting {} {} := ⟨rfl, .nil, .nil⟩

/-- What the sources of a routed table say of it. -/
structure Backed (setting : Setting) (table : RoutedTable) : Prop where
  enabled : setting.overrides.sqlRoutingDisabled = false
  fits : ∀ source ∈ table.sources, source.Fits setting.options.maxBetweenSpan setting.params
  leads : ∀ source ∈ table.sources, ∀ value ∈ source.values setting.params,
    Sends setting table.schema table.table value table.route
  based : ∃ source ∈ table.sources, source.values setting.params ≠ []

variable {plain : Binding} {table : RoutedTable}

/-- A table with sources has all that its binding has gathered. -/
theorem Walk.Closed.backed (h : Closed setting plain table) (hsources : table.sources ≠ []) :
    table.sources = plain.sources ∧ Backed setting table := by
  obtain ⟨hschema, htable, hempty | ⟨hvalues, -, hall⟩⟩ := Binding.settled?_inv h.settled
  · exact absurd hempty.2.2 hsources
  · have hon := Binding.enabled_of_values hvalues
    refine ⟨hall, hon, hall ▸ h.fits, ?_, ?_⟩
    · intro source hsource value hvalue
      rw [hschema, htable]
      exact h.leads value ((Binding.mem_values hon).mpr ⟨source, hall ▸ hsource, hvalue⟩)
    · obtain ⟨value, hvalue⟩ := List.exists_mem_of_ne_nil _ hvalues
      obtain ⟨source, hsource, hvalue⟩ := (Binding.mem_values hon).mp hvalue
      exact ⟨source, hall ▸ hsource, List.ne_nil_of_mem hvalue⟩

/-- The tables of a routed statement over the sketch of its script. -/
theorem routeStatement_follows (h : (Router.routeStatement setting statement).result = .ok routed) :
    ∃ sketch, Sketch.run setting.scan (Site.binding? setting) {} statement.steps = some sketch ∧
      List.Forall₂ (Closed setting) sketch.closed routed.tables := by
  obtain ⟨p, hrun, htables⟩ := routeStatement_run h
  obtain ⟨sketch, hsketch, hfollows⟩ := Follows.run statement.steps (Follows.start setting) hrun
  exact ⟨sketch, hsketch, htables ▸ hfollows.closed⟩

theorem exists_left_of_mem {α β : Type} {R : α → β → Prop} {l : List α} {m : List β} (h : List.Forall₂ R l m)
    {b : β} (hb : b ∈ m) : ∃ a ∈ l, R a b := by
  induction h with
  | nil => cases hb
  | cons hab _ ih =>
    rcases List.mem_cons.mp hb with rfl | hb
    · exact ⟨_, List.mem_cons_self, hab⟩
    · obtain ⟨a, ha, h⟩ := ih hb
      exact ⟨a, List.mem_cons_of_mem _ ha, h⟩

theorem routed_backed (h : (Router.routeStatement setting statement).result = .ok routed)
    (htable : table ∈ routed.tables) (hsources : table.sources ≠ []) : Backed setting table := by
  obtain ⟨sketch, -, hclosed⟩ := routeStatement_follows h
  obtain ⟨plain, -, hplain⟩ := exists_left_of_mem hclosed htable
  exact (hplain.backed hsources).2

/-- Every value that a source of a routed table stands for is sent to the route of the table, and there is
    such a value. -/
theorem sources_lead_to_route (h : (Router.routeStatement setting statement).result = .ok routed)
    (htable : table ∈ routed.tables) (hsources : table.sources ≠ []) :
    (∀ source ∈ table.sources, ∀ value, Denotes setting.params source value →
      ∃ found, setting.engine.route setting.context table.schema table.table (some value) = .ok (some found) ∧
        found.same table.route = true) ∧
      ∃ source ∈ table.sources, ∃ value, Denotes setting.params source value := by
  obtain ⟨-, -, hleads, source, hsource, hvalues⟩ := routed_backed h htable hsources
  refine ⟨fun source hsource value hvalue => hleads source hsource value (mem_values.mpr hvalue), ?_⟩
  obtain ⟨value, hvalue⟩ := List.exists_mem_of_ne_nil _ hvalues
  exact ⟨source, hsource, value, mem_values.mp hvalue⟩

/-! ### A sample -/

namespace Sample

/-- An engine that keeps the orders with even and with odd keys apart. -/
def engine : RuleEngine where
  config _ _ table := if table = "orders" then some (.sharded "id") else none
  route _ _ table value := match value with
    | some value => match value.toWord? with
      | some n => .ok (some ⟨"main", if n.toInt % 2 = 0 then table ++ "_even" else table ++ "_odd"⟩)
      | none => .ok none
    | none => .ok none

def literal (digits : String) : Expr := .literal (.number digits false)

def orders : TableRef := .table [⟨"orders", none⟩] [] none []

def id : Expr := .ident ⟨"id", none⟩

def select (from_ : List TableRef) (selection : Expr) : Select :=
  { head := [], projection := [.ident ⟨"total", none⟩], into := [], from_, views := [], prewhere := none,
    selection := some selection, groupBy := [], groupTail := [], clusterBy := [], distributeBy := [], sortBy := [],
    having := none, windowsBefore := [], qualify := none, windowsAfter := [], connectBy := [] }

def query (body : Body) : Query :=
  { recursive := false, ctes := [], body, orderBy := [], limit := none, offset := none, limitBy := [],
    settings := [], fetch := none, ending := [] }

/-- `SELECT total FROM orders WHERE id IN (4, ?1)`. -/
def listed : Statement :=
  .query (query (.select (select [orders] (.inList id false [literal "4", .literal (.placeholder "?1" ⟨1, 40⟩)]))))

def router : Router := { engine }

/-- What statements over the orders are routed with. -/
def under (params : List (ParamKey × ShardValue)) : Setting := router.setting [] .empty {} (.ofList params)

/-- The orders as `listed` leaves them. -/
def even : RoutedTable :=
  ⟨none, "orders", ⟨"main", "orders_even"⟩, [.value (.literal (.int 4)), .value (.param (.index 1))]⟩

end Sample

theorem sources_lead_to_route_listed :
    ∃ routed, (Router.routeStatement (Sample.under [(.index 1, .int 6)]) Sample.listed).result = .ok routed ∧
      Sample.even ∈ routed.tables ∧ Sample.even.sources ≠ [] ∧
      (∀ source ∈ Sample.even.sources, ∀ value, Denotes (Sample.under [(.index 1, .int 6)]).params source value →
        ∃ found, Sample.engine.route [] none "orders" (some value) = .ok (some found) ∧
          found.same ⟨"main", "orders_even"⟩ = true) ∧
      ∃ source ∈ Sample.even.sources, ∃ value, Denotes (Sample.under [(.index 1, .int 6)]).params source value := by
  obtain ⟨routed, h, htables⟩ : ∃ routed,
      (Router.routeStatement (Sample.under [(.index 1, .int 6)]) Sample.listed).result = .ok routed ∧
        routed.tables = [Sample.even] := ⟨_, rfl, rfl⟩
  have htable : Sample.even ∈ routed.tables := by simp [htables]
  have hsources : Sample.even.sources ≠ [] := List.cons_ne_nil _ _
  exact ⟨routed, h, htable, hsources, sources_lead_to_route h htable hsources⟩

end ShardRouting
