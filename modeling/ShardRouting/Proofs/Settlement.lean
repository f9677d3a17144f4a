import ShardRouting.Proofs.Agreement

/-! When a script goes through. A sketch only grows while a script runs over it, so what holds of all values of a
    closed table has held of them as long as the table was open. A script goes through exactly when it has a
    sketch, and every table that the sketch has closed can be settled; what the table becomes is read off its
    sources then. -/

namespace ShardRouting
open Sql Walk

/-! ### Sketches only grow -/

/-- The same table, with more sources. -/
structure Binding.Extends (binding other : Binding) : Prop where
  schema : other.schema = binding.schema
  table : other.table = binding.table
  sources : binding.sources <+: other.sources

theorem Binding.Extends.refl (binding : Binding) : binding.Extends binding := ⟨rfl, rfl, List.prefix_rfl⟩

theorem Binding.Extends.trans {a b c : Binding} (h : a.Extends b) (h' : b.Extends c) : a.Extends c :=
  ⟨h'.schema.trans h.schema, h'.table.trans h.table, h.sources.trans h'.sources⟩

theorem Binding.keep_extends (binding : Binding) (source : RouteSource) :
    binding.Extends (binding.keep source) := ⟨rfl, rfl, List.prefix_append _ _⟩

theorem Binding.gather_extends {scan : Scan} {evidence : List Evidence} {binding after : Binding}
    (h : binding.gather scan evidence = some after) : binding.Extends after := by
  induction evidence generalizing binding with
  | nil =>
    cases h
    exact .refl _
  | cons first rest ih =>
    unfold gather at h
    cases hsource : first.source? scan with
    | none => simp [hsource] at h
    | some source =>
      rw [hsource] at h
      exact (binding.keep_extends source).trans (ih h)

namespace Sketch

/-- One sketch is reached from another. -/
structure Grows (sketch other : Sketch) : Prop where
  bindings : List.Forall₂ Binding.Extends sketch.scope.bindings other.scope.bindings
  closed : sketch.closed <+: other.closed

theorem Grows.refl (sketch : Sketch) : Grows sketch sketch :=
  ⟨List.forall₂_same.mpr fun binding _ => .refl binding, List.prefix_rfl⟩

theorem Grows.trans {a b c : Sketch} (h : Grows a b) (h' : Grows b c) : Grows a c :=
  ⟨(forall₂_join h.bindings h'.bindings).imp fun _ _ ⟨_, h, h'⟩ => h.trans h', h.closed.trans h'.closed⟩

variable {scan : Scan} {bound : Site → Option Binding}

theorem key_grows {sketch after : Sketch} {predicate : KeyPredicate} (h : sketch.key scan predicate = some after) :
    Grows sketch after := by
  unfold key at h
  split at h
  · cases h
    exact .refl sketch
  · cases h
  · rename_i index binding hresolve
    split at h
    · cases h
    · obtain ⟨kept, hgather, rfl⟩ := Option.map_eq_some_iff.mp h
      obtain ⟨hindex, hbinding⟩ := List.getElem?_eq_some_iff.mp (resolve_bound hresolve)
      have hgathered := Binding.gather_extends hgather
      have hextends : binding.Extends kept := ⟨hgathered.schema, hgathered.table, hgathered.sources⟩
      refine ⟨?_, List.prefix_rfl⟩
      have hset := forall₂_set (Grows.refl sketch).bindings hextends index
      rwa [← hbinding, List.set_getElem_self] at hset

theorem other_eq {sketch after : Sketch} {left : Expr} (h : sketch.other left = some after) : after = sketch := by
  unfold other at h
  split at h
  · exact (Option.some.inj h).symm
  · split at h
    · exact (Option.some.inj h).symm
    · cases h

mutual

theorem step_grows : ∀ (step : Step) {sketch after : Sketch}, sketch.step scan bound step = some after →
    Grows sketch after
  | .key predicate, _, _, h => key_grows h
  | .other _ _ _, sketch, _, h => by
    rw [other_eq h]
    exact .refl sketch
  | .scope _ sites steps, sketch, after, h => by
    obtain ⟨inner, hinner, rfl⟩ := Option.map_eq_some_iff.mp h
    have hgrows := run_grows steps hinner
    exact ⟨(Grows.refl sketch).bindings, hgrows.closed.trans (List.prefix_append _ _)⟩

theorem run_grows : ∀ (steps : List Step) {sketch after : Sketch}, sketch.run scan bound steps = some after →
    Grows sketch after
  | [], sketch, _, h => by
    cases h
    exact .refl sketch
  | step :: steps, sketch, after, h => by
    rw [run] at h
    cases hstep : sketch.step scan bound step with
    | none => simp [hstep] at h
    | some between =>
      rw [hstep] at h
      exact (step_grows step hstep).trans (run_grows steps h)

end

end Sketch

namespace Walk

variable {setting : Setting} {plain other binding : Binding} {table : RoutedTable} {sketch after : Sketch}
  {p : Progress}

/-! ### Tables that can be settled -/

/-- The sources of a table fit, and their values lead to one destination. -/
structure Coherent (setting : Setting) (plain : Binding) : Prop where
  fits : ∀ source ∈ plain.sources, source.Fits setting.options.maxBetweenSpan setting.params
  leads : ∃ route, ∀ value ∈ plain.values setting, Sends setting plain.schema plain.table.value value route

/-- Every open table of a sketch is coherent, and every closed one settles. -/
structure Settleable (setting : Setting) (sketch : Sketch) : Prop where
  bindings : ∀ plain ∈ sketch.scope.bindings, Coherent setting plain
  closed : ∀ plain ∈ sketch.closed, ∃ table, Closed setting plain table

theorem Closed.coherent (h : Closed setting plain table) : Coherent setting plain :=
  ⟨h.fits, table.route, h.leads⟩

theorem Closed.unique {table' : RoutedTable} (h : Closed setting plain table) (h' : Closed setting plain table') :
    table = table' :=
  Option.some.inj (h.settled.symm.trans h'.settled)

/-- A coherent table with a value is settled by it. -/
theorem Coherent.closed (h : Coherent setting plain) (hvalues : plain.values setting ≠ []) :
    ∃ table, Closed setting plain table := by
  obtain ⟨route, hleads⟩ := h.leads
  obtain ⟨value, values, hcons⟩ := List.exists_cons_of_ne_nil hvalues
  have hfirst : value ∈ plain.values setting := hcons ▸ List.mem_cons_self
  obtain ⟨found, hfound, hsame⟩ := hleads value hfirst
  have hsent : plain.first? setting = some found := by
    rw [Binding.first?, hcons]
    exact Setting.sent?_iff.mpr hfound
  refine ⟨_, by rw [Binding.settled?_first hvalues, hsent, Option.map_some], h.fits, fun other hother => ?_⟩
  exact (hleads other hother).trans (Destination.same_symm hsame)

theorem Coherent.of_extends (h : Coherent setting other) (hextends : plain.Extends other) :
    Coherent setting plain := by
  obtain ⟨route, hleads⟩ := h.leads
  refine ⟨fun source hsource => h.fits source (hextends.sources.subset hsource), route, fun value hvalue => ?_⟩
  have hon := Binding.enabled_of_values (List.ne_nil_of_mem hvalue)
  obtain ⟨source, hsource, hvalue⟩ := (Binding.mem_values hon).mp hvalue
  have hsends := hleads value
    ((Binding.mem_values hon).mpr ⟨source, hextends.sources.subset hsource, hvalue⟩)
  rwa [hextends.schema, hextends.table] at hsends

theorem exists_right_of_mem {α β : Type} {R : α → β → Prop} {l : List α} {m : List β} (h : List.Forall₂ R l m)
    {a : α} (ha : a ∈ l) : ∃ b ∈ m, R a b :=
  exists_left_of_mem h.flip ha

/-- What can be settled at the end could be settled before. -/
theorem Settleable.of_grows (h : Settleable setting after) (hgrows : Sketch.Grows sketch after) :
    Settleable setting sketch where
  bindings plain hplain := by
    obtain ⟨other, hother, hextends⟩ := exists_right_of_mem hgrows.bindings hplain
    exact (h.bindings other hother).of_extends hextends
  closed plain hplain := h.closed plain (hgrows.closed.subset hplain)

/-- The inside of a scope can be settled when the sketch around it can. -/
theorem Settleable.inner {inner : Sketch} (h : Settleable setting (sketch.leave inner)) :
    Settleable setting inner where
  bindings plain hplain := by
    obtain ⟨table, hclosed⟩ := h.closed plain (List.mem_append_right _ hplain)
    exact hclosed.coherent
  closed plain hplain := h.closed plain (List.mem_append_left _ hplain)

/-! ### Running a script over a sketch that can be settled -/

/-- A source that leaves its table coherent goes through. -/
theorem Weighed.weigh_run (h : Weighed setting plain binding) {column : ColumnRef} {evidence : Evidence}
    {source : RouteSource} (hsource : evidence.source? setting.scan = some source)
    (hcoherent : Coherent setting (plain.keep source)) (p : Progress) :
    ∃ after q, Walk.weigh setting column binding evidence p = .ok after q := by
  have hfits := hcoherent.fits source (List.mem_append_right _ (List.mem_singleton_self source))
  obtain ⟨p', -, heq⟩ := weigh_eq column binding hsource hfits p
  suffices hvalues : ∃ routed q, routeValues setting binding (source.values setting.params) p' = .ok routed q by
    obtain ⟨routed, q, hrun⟩ := hvalues
    exact ⟨_, q, heq.trans (map_iff.mpr ⟨routed, hrun, rfl⟩)⟩
  cases hoff : setting.overrides.sqlRoutingDisabled with
  | true => exact ⟨binding, routeValues_ignored hoff binding _ p'⟩
  | false =>
    obtain ⟨route, hleads⟩ := hcoherent.leads
    have hkept : ∀ value, value ∈ plain.values setting ∨ value ∈ source.values setting.params →
        value ∈ (plain.keep source).values setting := by
      simp [Binding.values_enabled hoff, Binding.keep]
    have hsends : ∀ value ∈ source.values setting.params,
        Sends setting binding.schema binding.table.value value route := by
      intro value hvalue
      rw [Binding.schema_of_bare h.bare, Binding.table_of_bare h.bare]
      exact hleads value (hkept value (.inr hvalue))
    have hfirst : ∀ first, binding.route = some first → first.same route = true := by
      intro first hfirst
      -- the first destination came from a value that was read before
      have hbefore : plain.values setting ≠ [] := by
        intro hnone
        rw [h.route, Binding.first?, hnone] at hfirst
        cases hfirst
      obtain ⟨value, hvalue⟩ := List.exists_mem_of_ne_nil _ hbefore
      obtain ⟨_, hroute, hsends⟩ := h.leads value hvalue
      cases hfirst.symm.trans hroute
      exact hsends.same (hleads value (hkept value (.inl hvalue)))
    exact routeValues_run hoff hsends hfirst p'

theorem Weighed.weighAll_run (h : Weighed setting plain binding) {column : ColumnRef} {evidence : List Evidence}
    (hgather : plain.gather setting.scan evidence = some other) (hcoherent : Coherent setting other)
    (p : Progress) : ∃ after q, Walk.weighAll setting column binding evidence p = .ok after q := by
  induction evidence generalizing plain binding p with
  | nil => exact ⟨binding, p, rfl⟩
  | cons first rest ih =>
    unfold Binding.gather at hgather
    cases hsource : first.source? setting.scan with
    | none => simp [hsource] at hgather
    | some source =>
      rw [hsource] at hgather
      have hkept := hcoherent.of_extends (Binding.gather_extends hgather)
      obtain ⟨between, p', hfirst⟩ := h.weigh_run hsource hkept p
      obtain ⟨_, hsource', hweighed, -⟩ := h.weigh hfirst
      cases hsource.symm.trans hsource'
      obtain ⟨after, q, hrest⟩ := ih hweighed hgather p'
      exact ⟨after, q, bind_iff.mpr ⟨between, p', hfirst, hrest⟩⟩

theorem Follows.key_run (h : Follows setting sketch p) {predicate : KeyPredicate}
    (hkey : sketch.key setting.scan predicate = some after) (hsettles : Settleable setting after) :
    ∃ q, onKey setting predicate p = .ok () q := by
  unfold Sketch.key at hkey
  unfold onKey
  rcases h.resolve predicate.column.key with ⟨-, hbinding⟩ | ⟨hplain, -⟩ |
    ⟨index, plain, binding, hplain, hbinding, hweighed⟩
  · exact ⟨p, bind_iff.mpr ⟨none, p, by rw [boundTable_eq, hbinding], rfl⟩⟩
  · simp [hplain] at hkey
  · rw [hplain] at hkey
    cases hrefusal : predicate.refusal with
    | some refusal => simp [hrefusal] at hkey
    | none =>
      simp only [hrefusal] at hkey
      obtain ⟨kept, hgather, rfl⟩ := Option.map_eq_some_iff.mp hkey
      obtain ⟨hindex, -⟩ := List.getElem?_eq_some_iff.mp (resolve_bound hplain)
      have hcoherent : Coherent setting kept := hsettles.bindings kept (List.mem_set hindex kept)
      obtain ⟨routed, p', hweigh⟩ := (hweighed.see predicate.column.display).weighAll_run hgather hcoherent p
      exact ⟨_, bind_iff.mpr ⟨some (index, binding), p, by rw [boundTable_eq, hbinding],
        bind_iff.mpr ⟨routed, p', hweigh, rfl⟩⟩⟩

theorem Follows.other_run (h : Follows setting sketch p) {left : Expr} (operator text : String)
    (hother : sketch.other left = some after) : ∃ q, onOther left operator text p = .ok () q := by
  unfold Sketch.other at hother
  unfold onOther
  cases hcolumn : ColumnRef.ofExpr? left with
  | none => exact ⟨p, rfl⟩
  | some column =>
    simp only [hcolumn] at hother
    rcases h.resolve column.key with ⟨-, hbinding⟩ | ⟨hplain, -⟩ | ⟨_, _, _, hplain, -, -⟩
    · exact ⟨p, bind_iff.mpr ⟨p, p, rfl, by simp only [hbinding]; rfl⟩⟩
    · simp [hplain] at hother
    · simp [hplain] at hother

/-- A table that settles has a route already, or a fallback. -/
theorem Weighed.settles (h : Weighed setting plain binding) (hclosed : Closed setting plain table)
    (hroute : binding.route = none) : setting.fallback? binding.schema binding.table.value ≠ none := by
  rw [Binding.schema_of_bare h.bare, Binding.table_of_bare h.bare]
  obtain ⟨-, -, ⟨-, hfallback, -⟩ | ⟨-, hfirst, -⟩⟩ := Binding.settled?_inv hclosed.settled
  · simp [hfallback]
  · rw [h.route, hfirst] at hroute
    cases hroute

mutual

theorem Follows.runStep_run : ∀ (step : Step) (depth : Nat) {sketch after : Sketch} {p : Progress},
    Follows setting sketch p → sketch.step setting.scan (Site.binding? setting) step = some after →
      Settleable setting after → ∃ q, runStep setting depth step p = .ok () q
  | .key _, _, _, _, _, h, hstep, hsettles => h.key_run hstep hsettles
  | .other _ operator text, _, _, _, _, h, hstep, _ => h.other_run operator text hstep
  | .scope aliases sites steps, depth, sketch, _, p, h, hstep, hsettles => by
    obtain ⟨inner, hinner, rfl⟩ := Option.map_eq_some_iff.mp hstep
    obtain ⟨p₀, hbind, hentered, hkept⟩ := bindSites_run setting (depth + 1) sites { p with scope := {} }
    have h₀ := h.enter hentered hkept
    obtain ⟨p', hsteps⟩ := Follows.runSteps_run steps (depth + 1) h₀ hinner hsettles.inner
    obtain ⟨_, hinner', h'⟩ := h₀.run steps hsteps
    cases hinner.symm.trans hinner'
    refine runScope_run (bind_iff.mpr ⟨(), p₀, hbind, hsteps⟩) fun binding hbinding hroute => ?_
    obtain ⟨plain, hplain, hweighed⟩ := exists_left_of_mem h'.bindings hbinding
    obtain ⟨table, hclosed⟩ := hsettles.closed plain (List.mem_append_right _ hplain)
    exact hweighed.settles hclosed hroute

/-- A script goes through when its sketch can be settled. -/
theorem Follows.runSteps_run : ∀ (steps : List Step) (depth : Nat) {sketch after : Sketch} {p : Progress},
    Follows setting sketch p → sketch.run setting.scan (Site.binding? setting) steps = some after →
      Settleable setting after → ∃ q, runSteps setting depth steps p = .ok () q
  | [], _, _, _, p, _, _, _ => ⟨p, rfl⟩
  | step :: steps, depth, sketch, after, p, h, hrun, hsettles => by
    rw [Sketch.run] at hrun
    cases hstep : sketch.step setting.scan (Site.binding? setting) step with
    | none => simp [hstep] at hrun
    | some between =>
      rw [hstep] at hrun
      have hbetween := hsettles.of_grows (Sketch.run_grows steps hrun)
      obtain ⟨p', hfirst⟩ := Follows.runStep_run step depth h hstep hbetween
      obtain ⟨_, hstep', h'⟩ := h.step step hfirst
      cases hstep.symm.trans hstep'
      obtain ⟨q, hrest⟩ := Follows.runSteps_run steps depth h' hrun hsettles
      exact ⟨q, bind_iff.mpr ⟨(), p', hfirst, hrest⟩⟩

end

end Walk

/-! ### Statements -/

variable {setting : Setting} {statement : Statement} {tables : List RoutedTable}

/-- A statement is routed exactly when its script has a sketch whose closed tables settle, and its tables are
    what they settle as. -/
theorem routeStatement_tables_iff :
    (∃ routed, (Router.routeStatement setting statement).result = .ok routed ∧ routed.tables = tables) ↔
      ∃ sketch, Sketch.run setting.scan (Site.binding? setting) {} statement.steps = some sketch ∧
        List.Forall₂ (Closed setting) sketch.closed tables := by
  constructor
  · rintro ⟨routed, hrouted, rfl⟩
    exact routeStatement_follows hrouted
  · rintro ⟨sketch, hsketch, hclosed⟩
    have hsettles : Settleable setting sketch := by
      constructor
      · have hnone := (Sketch.run_grows statement.steps hsketch).bindings
        rw [List.forall₂_nil_left_iff.mp hnone]
        simp
      · intro plain hplain
        obtain ⟨table, -, htable⟩ := exists_right_of_mem hclosed hplain
        exact ⟨table, htable⟩
    obtain ⟨p, hrun⟩ := (Follows.start setting).runSteps_run statement.steps 0 hsketch hsettles
    obtain ⟨routed, hrouted⟩ := routeStatement_of_run hrun
    obtain ⟨_, hsketch', hclosed'⟩ := routeStatement_follows hrouted
    cases hsketch.symm.trans hsketch'
    refine ⟨routed, hrouted, ?_⟩
    exact List.right_unique_forall₂' (fun _ _ _ h h' => h.unique h') hclosed' hclosed

end ShardRouting
