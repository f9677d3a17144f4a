import ShardRouting.Proofs.Placement
import ShardRouting.Proofs.Resolution
import ShardRouting.Proofs.Revision
import ShardRouting.Proofs.Rows

/-! The reach of a route. A statement over one sharded table goes to a single route when its predicates decide on
    it. The rows that meet its condition are there, but for those that meet it whatever their shard key is. -/

namespace ShardRouting
open Sql Walk

/-! ### Sketches of one table -/

theorem Binding.sources_of_gather {scan : Scan} {evidence : List Evidence} {binding after : Binding}
    (h : binding.gather scan evidence = some after) :
    ∀ piece ∈ evidence, ∃ source ∈ after.sources, piece.source? scan = some source := by
  induction evidence generalizing binding with
  | nil => exact List.forall_mem_nil _
  | cons first rest ih =>
    unfold gather at h
    cases hsource : first.source? scan with
    | none => simp [hsource] at h
    | some source =>
      rw [hsource] at h
      refine List.forall_mem_cons.mpr ⟨⟨source, ?_, hsource⟩, ih h⟩
      exact (gather_extends h).sources.subset (List.mem_append_right _ (List.mem_singleton_self source))

/-- What the predicates of some steps have told of their only table. -/
structure Gathered (scan : Scan) (keys : List String) (steps : List Step) (binding : Binding) : Prop where
  admits : Admits keys steps
  sources : ∀ predicate, .key predicate ∈ steps → predicate.column.key ∈ keys →
    ∀ piece ∈ predicate.evidence, ∃ source ∈ binding.sources, piece.source? scan = some source

theorem Gathered.left {scan : Scan} {keys : List String} {steps rest : List Step} {binding : Binding}
    (h : Gathered scan keys (steps ++ rest) binding) : Gathered scan keys steps binding :=
  ⟨h.admits.left, fun predicate hmem => h.sources predicate (List.mem_append_left _ hmem)⟩

theorem Gathered.right {scan : Scan} {keys : List String} {steps rest : List Step} {binding : Binding}
    (h : Gathered scan keys (steps ++ rest) binding) : Gathered scan keys rest binding :=
  ⟨h.admits.right, fun predicate hmem => h.sources predicate (List.mem_append_right _ hmem)⟩

namespace Sketch

/-- The open scope has one table, which answers to `keys`. -/
structure Sole (keys : List String) (binding : Binding) (sketch : Sketch) : Prop where
  bindings : sketch.scope.bindings = [binding]
  claims : ∀ key, sketch.scope.claim? key = if key ∈ keys then some (.one 0) else none

variable {scan : Scan} {bound : Site → Option Binding} {keys : List String} {binding : Binding}
  {sketch after : Sketch}

theorem Sole.enter (sketch : Sketch) {sites : List Site} (h : sites.filterMap bound = [binding]) :
    Sole binding.lookupKeys binding (sketch.enter bound sites) where
  bindings := by
    rw [Sketch.enter, Scope.enter_bindings, h]
    rfl
  claims key := by
    rw [Sketch.enter, Scope.enter_eq_foldl, h]
    exact Scope.claim?_addClaims { bindings := [binding] } 0 binding.lookupKeys key

theorem Sole.resolve (h : Sole keys binding sketch) (key : String) :
    sketch.scope.resolve key = if key ∈ keys then .bound 0 binding else .unknown := by
  rw [Scope.resolve, h.claims, h.bindings]
  by_cases hkey : key ∈ keys
  · simp only [if_pos hkey]
    rfl
  · simp only [if_neg hkey]

theorem Sole.key (h : Sole keys binding sketch) {predicate : KeyPredicate}
    (hkey : sketch.key scan predicate = some after) :
    ∃ kept, Sole keys kept after ∧ binding.Extends kept ∧ (predicate.column.key ∈ keys →
      predicate.refusal = none ∧
        ∀ piece ∈ predicate.evidence, ∃ source ∈ kept.sources, piece.source? scan = some source) := by
  unfold Sketch.key at hkey
  rw [h.resolve] at hkey
  by_cases hmem : predicate.column.key ∈ keys
  · simp only [if_pos hmem] at hkey
    cases hrefusal : predicate.refusal with
    | some refusal => simp [hrefusal] at hkey
    | none =>
      simp only [hrefusal] at hkey
      obtain ⟨kept, hgather, rfl⟩ := Option.map_eq_some_iff.mp hkey
      have hextends := Binding.gather_extends hgather
      refine ⟨kept, ⟨?_, h.claims⟩, ⟨hextends.schema, hextends.table, hextends.sources⟩, fun _ => ⟨rfl, ?_⟩⟩
      · simp [Scope.update, h.bindings]
      · exact Binding.sources_of_gather hgather
  · simp only [if_neg hmem] at hkey
    cases hkey
    exact ⟨binding, h, .refl binding, fun hother => absurd hother hmem⟩

theorem Sole.step (h : Sole keys binding sketch) {step : Step} (hstep : sketch.step scan bound step = some after) :
    ∃ kept, Sole keys kept after ∧ binding.Extends kept ∧ Gathered scan keys [step] kept := by
  cases step with
  | key predicate =>
    obtain ⟨kept, hsole, hextends, hgathered⟩ := h.key hstep
    refine ⟨kept, hsole, hextends, fun other hmem hkey => ?_, fun other hmem hkey => ?_⟩ <;>
      cases List.mem_singleton.mp hmem
    · exact (hgathered hkey).1
    · exact (hgathered hkey).2
  | other left operator text =>
    obtain rfl := other_eq hstep
    exact ⟨binding, h, .refl binding, fun _ hmem => by simp at hmem, fun _ hmem => by simp at hmem⟩
  | scope aliases sites steps =>
    obtain ⟨inner, -, rfl⟩ := Option.map_eq_some_iff.mp hstep
    exact ⟨binding, ⟨h.bindings, h.claims⟩, .refl binding, fun _ hmem => by simp at hmem, fun _ hmem => by simp at hmem⟩

/-- The only table of a scope has the sources of all predicates on its key, none of which is refused. -/
theorem Sole.run (h : Sole keys binding sketch) {steps : List Step} (hrun : sketch.run scan bound steps = some after) :
    ∃ kept, Sole keys kept after ∧ binding.Extends kept ∧ Gathered scan keys steps kept := by
  induction steps generalizing sketch binding with
  | nil =>
    cases hrun
    exact ⟨binding, h, .refl binding, fun _ hmem => (nomatch hmem), fun _ hmem => (nomatch hmem)⟩
  | cons step steps ih =>
    rw [Sketch.run] at hrun
    cases hstep : sketch.step scan bound step with
    | none => simp [hstep] at hrun
    | some between =>
      rw [hstep] at hrun
      obtain ⟨kept, hsole, hextends, hfirst⟩ := h.step hstep
      obtain ⟨last, hsole', hextends', hrest⟩ := ih hsole hrun
      refine ⟨last, hsole', hextends.trans hextends', fun predicate hmem hkey => ?_, fun predicate hmem hkey => ?_⟩
      · rcases List.mem_cons.mp hmem with heq | hmem
        · exact hfirst.admits predicate (List.mem_singleton.mpr heq) hkey
        · exact hrest.admits predicate hmem hkey
      · rcases List.mem_cons.mp hmem with heq | hmem
        · intro piece hpiece
          obtain ⟨source, hsource, hfound⟩ := hfirst.sources predicate (List.mem_singleton.mpr heq) hkey piece hpiece
          exact ⟨source, hextends'.sources.subset hsource, hfound⟩
        · exact hrest.sources predicate hmem hkey

theorem run_append (steps rest : List Step) :
    sketch.run scan bound (steps ++ rest) = (sketch.run scan bound steps).bind fun between =>
      between.run scan bound rest := by
  induction steps generalizing sketch with
  | nil => rfl
  | cons step steps ih =>
    rw [List.cons_append, Sketch.run, Sketch.run]
    cases sketch.step scan bound step with
    | none => rfl
    | some between => exact ih

end Sketch

/-! ### Statements -/

/-- The tables and the condition of a selection, an update or a deletion. -/
def Sql.Statement.own? : Statement → Option (List Factor × Option Expr)
  | .query { body := .select select, .. } => some (factors select.from_, select.selection)
  | .update { table, selection, .. } => some (tableFactors table, selection)
  | .delete { from_, using_, selection, .. } => some (factors from_ ++ factors (using_.getD []), selection)
  | _ => none

/-- The scope of a statement is the last one to close, and its condition stands in there. -/
theorem Sql.Statement.steps_of_own {statement : Statement} {fs : List Factor} {selection : Option Expr}
    (h : statement.own? = some (fs, selection)) : ∃ before aliases steps rest, statement.steps =
      before ++ [.scope aliases (Factor.sites 0 fs) (steps ++ (Expr.optionalSteps false selection ++ rest))] := by
  cases statement with
  | query query =>
    obtain ⟨recursive, ctes, body, orderBy, limit, offset, limitBy, settings, fetch, ending⟩ := query
    cases body with
    | select select =>
      obtain ⟨head, projection, into, from_, views, prewhere, condition, groupBy, groupTail, clusterBy,
        distributeBy, sortBy, having, windowsBefore, qualify, windowsAfter, connectBy⟩ := select
      obtain ⟨rfl, rfl⟩ := Prod.mk.inj (Option.some.inj h)
      refine ⟨Cte.allSteps ctes, true, TableRef.allSteps from_ ++ (Expr.allSteps false projection ++
        Expr.optionalSteps false prewhere), Expr.allSteps false groupBy ++ (Expr.optionalSteps false having ++
        (Expr.optionalSteps false qualify ++ (Expr.allSteps false clusterBy ++ (Expr.allSteps false distributeBy ++
        (Expr.allSteps false sortBy ++ (Expr.allSteps false orderBy ++ (Expr.optionalSteps false limit ++
        (Expr.allSteps false limitBy ++ (Expr.optionalSteps false offset ++
        Expr.optionalSteps false fetch))))))))), ?_⟩
      simp only [Statement.steps, Query.steps, Body.steps, Select.steps, List.append_assoc]
    | _ => cases h
  | update update =>
    obtain ⟨conflict, table, fromBefore, assignments, fromAfter, condition, returning⟩ := update
    obtain ⟨rfl, rfl⟩ := Prod.mk.inj (Option.some.inj h)
    refine ⟨[], true, table.steps ++ Expr.allSteps false assignments, [], ?_⟩
    simp only [Statement.steps, Update.steps, List.append_assoc, List.append_nil, List.nil_append]
  | delete delete =>
    obtain ⟨targets, fromKeyword, from_, using_, condition, returning, orderBy, limit⟩ := delete
    obtain ⟨rfl, rfl⟩ := Prod.mk.inj (Option.some.inj h)
    refine ⟨[], false, TableRef.allSteps from_ ++ using_.elim [] TableRef.allSteps,
      Expr.allSteps false orderBy ++ Expr.optionalSteps false limit, ?_⟩
    cases using_ <;> simp only [Statement.steps, Delete.steps, List.append_assoc, List.nil_append, Option.elim]
  | _ => cases h

/-! ### Rows within reach -/

/-- A value that counts as the key of a row is sent to the route of its table. -/
def Reaches (setting : Setting) (table : RoutedTable) (key : ShardValue) : Prop :=
  ∃ value, key.agrees value = true ∧ Sends setting table.schema table.table value table.route

/-- If values that count as one are sent to one place, so is the key itself. -/
theorem reaches_iff {setting : Setting} (huniform : setting.engine.Uniform) (table : RoutedTable) (key : ShardValue) :
    Reaches setting table key ↔ Sends setting table.schema table.table key table.route := by
  constructor
  · rintro ⟨value, hagrees, found, hfound, hsame⟩
    exact ⟨found, (huniform _ _ _ key value hagrees).trans hfound, hsame⟩
  · intro h
    refine ⟨key, ?_, h⟩
    unfold ShardValue.agrees
    split
    · rename_i n m hn hm
      exact decide_eq_true (Option.some.inj (hn.symm.trans hm))
    · exact decide_eq_true rfl

variable {setting : Setting} {statement : Statement} {routed : Routed} {table : RoutedTable}

theorem forall₂_getLast? {α β : Type} {R : α → β → Prop} {l : List α} {m : List β} {a : α} {b : β}
    (h : List.Forall₂ R (l ++ [a]) m) (hb : m.getLast? = some b) : R a b := by
  obtain ⟨rest, rfl⟩ := List.getLast?_eq_some_iff.mp hb
  have hreverse := List.rel_reverse h
  rw [List.reverse_append, List.reverse_append] at hreverse
  exact (List.forall₂_cons.mp hreverse).1

/-- The only table of a statement has the sources of all predicates on its key in the condition. -/
theorem gathered_of_own (h : (Router.routeStatement setting statement).result = .ok routed) {fs : List Factor}
    {selection : Option Expr} (hown : statement.own? = some (fs, selection)) {binding : Binding}
    (hsole : (Factor.sites 0 fs).filterMap (Site.binding? setting) = [binding])
    (htable : routed.tables.getLast? = some table) :
    ∃ kept, Closed setting kept table ∧
      Gathered setting.scan binding.lookupKeys (Expr.optionalSteps false selection) kept := by
  obtain ⟨sketch, hsketch, hclosed⟩ := routeStatement_follows h
  obtain ⟨before, aliases, steps, rest, hsteps⟩ := Statement.steps_of_own hown
  rw [hsteps, Sketch.run_append] at hsketch
  obtain ⟨between, -, hlast⟩ := Option.bind_eq_some_iff.mp hsketch
  rw [Sketch.run] at hlast
  cases hscope : between.step setting.scan (Site.binding? setting)
      (.scope aliases (Factor.sites 0 fs) (steps ++ (Expr.optionalSteps false selection ++ rest))) with
  | none => simp [hscope] at hlast
  | some left =>
    rw [hscope] at hlast
    cases hlast
    obtain ⟨inner, hinner, rfl⟩ := Option.map_eq_some_iff.mp hscope
    obtain ⟨kept, hkept, -, hgathered⟩ := (Sketch.Sole.enter between hsole).run hinner
    rw [Sketch.leave, hkept.bindings] at hclosed
    refine ⟨kept, forall₂_getLast? hclosed htable, ?_⟩
    exact hgathered.right.left

/-- A key that a predicate covers is within reach. -/
theorem Covered.reaches {keys : List String} {steps : List Step} {kept : Binding} {key : ShardValue}
    (h : Covered setting keys steps key) (hgathered : Gathered setting.scan keys steps kept)
    (hclosed : Closed setting kept table) (hsources : table.sources ≠ []) : Reaches setting table key := by
  obtain ⟨predicate, hmem, hkey, piece, hpiece, source, hsource, value, hvalue, hagrees⟩ := h
  obtain ⟨heq, hbacked⟩ := hclosed.backed hsources
  obtain ⟨found, hfound, hsame⟩ := hgathered.sources predicate hmem hkey piece hpiece
  cases hsource.symm.trans hsame
  exact ⟨value, hagrees, hbacked.leads source (heq ▸ hfound) value hvalue⟩

theorem Row.meets_widens {keys : List String} {selection : Option Expr} (row : Row)
    (hadmits : Admits keys (Expr.optionalSteps false selection)) :
    Widens setting keys (Expr.optionalSteps false selection) false row.key (row.meets setting keys selection)
      (row.meetsApart setting keys selection) := by
  cases selection with
  | none => exact .inl rfl
  | some e => exact row.truth_widens e false hadmits

/-- A row that meets the condition of a statement over one sharded table is within reach of the route of the table if
    and only if it is when it meets the condition apart from its shard key. So rows are lost only to conditions that
    can be met whatever the key is, as those with a disjunct that does not name it. -/
theorem reached_iff_apart (h : (Router.routeStatement setting statement).result = .ok routed) {fs : List Factor}
    {selection : Option Expr} (hown : statement.own? = some (fs, selection)) {binding : Binding}
    (hsole : (Factor.sites 0 fs).filterMap (Site.binding? setting) = [binding])
    (htable : routed.tables.getLast? = some table) (hsources : table.sources ≠ []) (row : Row) :
    ((row.meets setting binding.lookupKeys selection = true → Reaches setting table row.key) ↔
      (row.meetsApart setting binding.lookupKeys selection = true → Reaches setting table row.key)) ∧
    (setting.engine.Uniform →
      ((row.meets setting binding.lookupKeys selection = true →
        Sends setting table.schema table.table row.key table.route) ↔
      (row.meetsApart setting binding.lookupKeys selection = true →
        Sends setting table.schema table.table row.key table.route))) := by
  obtain ⟨kept, hclosed, hgathered⟩ := gathered_of_own h hown hsole htable
  have hreached : (row.meets setting binding.lookupKeys selection = true → Reaches setting table row.key) ↔
      (row.meetsApart setting binding.lookupKeys selection = true → Reaches setting table row.key) := by
    rcases row.meets_widens hgathered.admits with heq | ⟨-, hmeets, hcovered⟩
    · rw [heq]
    · have hreaches := hcovered.reaches hgathered hclosed hsources
      exact ⟨fun _ _ => hreaches, fun _ _ => hreaches⟩
  refine ⟨hreached, fun huniform => ?_⟩
  simpa only [reaches_iff huniform] using hreached

/-! ### A sample -/

namespace Sample

theorem engine_uniform : engine.Uniform := by
  intro context schema table value other h
  unfold ShardValue.agrees at h
  split at h
  · rename_i n m hn hm
    obtain rfl : n = m := of_decide_eq_true h
    simp only [engine, hn, hm]
  · rw [of_decide_eq_true h]

/-- `id = 1 OR total = 2`. -/
def either : Expr := .binary (keyed "1") .or (.binary (.ident ⟨"total", none⟩) .eq (literal "2"))

/-- `SELECT total FROM orders WHERE id = 1 OR total = 2`. -/
def loose : Statement := .query (query (.select (select [orders] either)))

/-- What binds the orders. -/
def binding : Binding := { slot := .factor 0, schema := none, table := ⟨"orders", none⟩, alias_ := none, key := "id" }

/-- The orders as `loose` leaves them. -/
def odd : RoutedTable := ⟨none, "orders", ⟨"main", "orders_odd"⟩, [.value (.literal (.int 1))]⟩

/-- A row with one number in all its columns. -/
def row (n : Int64) : Row where
  key := .int n
  column _ := .int n
  other _ := false

end Sample

theorem reached_iff_apart_loose :
    ∃ routed, (Router.routeStatement (Sample.under []) Sample.loose).result = .ok routed ∧
      Sample.loose.own? = some (factors [Sample.orders], some Sample.either) ∧
      (Factor.sites 0 (factors [Sample.orders])).filterMap (Site.binding? (Sample.under [])) = [Sample.binding] ∧
      routed.tables.getLast? = some Sample.odd ∧ Sample.odd.sources ≠ [] ∧
      (((Sample.row 1).meets (Sample.under []) Sample.binding.lookupKeys (some Sample.either) = true →
          Reaches (Sample.under []) Sample.odd (.int 1)) ↔
        ((Sample.row 1).meetsApart (Sample.under []) Sample.binding.lookupKeys (some Sample.either) = true →
          Reaches (Sample.under []) Sample.odd (.int 1))) := by
  obtain ⟨routed, h, htable⟩ : ∃ routed,
      (Router.routeStatement (Sample.under []) Sample.loose).result = .ok routed ∧
        routed.tables.getLast? = some Sample.odd := ⟨_, rfl, rfl⟩
  have hsources : Sample.odd.sources ≠ [] := List.cons_ne_nil _ _
  exact ⟨routed, h, rfl, rfl, htable, hsources,
    (reached_iff_apart h rfl rfl htable hsources (Sample.row 1)).1⟩

/-- The key of a row may be out of reach of the route that the other side of an `OR` has decided on. -/
theorem disjunct_out_of_reach :
    ∃ routed, (Router.routeStatement (Sample.under []) Sample.loose).result = .ok routed ∧
      routed.tables = [Sample.odd] ∧ Sample.odd.sources ≠ [] ∧
      (Sample.row 2).meets (Sample.under []) Sample.binding.lookupKeys (some Sample.either) = true ∧
      ¬Sends (Sample.under []) none "orders" (.int 2) Sample.odd.route ∧
      ¬Reaches (Sample.under []) Sample.odd (.int 2) := by
  have hlost : ¬Sends (Sample.under []) none "orders" (.int 2) Sample.odd.route := by
    rintro ⟨_, ⟨⟩, hsame⟩
    exact absurd hsame (by decide)
  exact ⟨_, rfl, rfl, List.cons_ne_nil _ _, rfl, hlost,
    fun hreaches => hlost ((reaches_iff Sample.engine_uniform Sample.odd (.int 2)).mp hreaches)⟩

end ShardRouting
