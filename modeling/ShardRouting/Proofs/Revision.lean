import ShardRouting.Proofs.Checking
import ShardRouting.Proofs.Settlement

/-! Routing again with other parameters. The sketch of a statement does not depend on the parameters, so a
    second routing goes through as soon as the new parameters suit every sketched table, which is what
    validation asks; and where it goes through, it says of each table what validation wants to know. -/

namespace ShardRouting
open Sql Walk

namespace Walk

variable {setting : Setting} {plain other : Binding} {sketch : Sketch}

/-! ### Parameters that suit a sketch -/

/-- A source is bound, fits and leads to a destination. -/
structure Suits (setting : Setting) (plain : Binding) (route : Destination) (source : RouteSource) : Prop where
  bound : source.Bound setting.params
  fits : source.Fits setting.options.maxBetweenSpan setting.params
  leads : ∀ value ∈ source.values setting.params, Sends setting plain.schema plain.table.value value route

/-- All sources of a table lead to one destination. -/
structure Ready (setting : Setting) (plain : Binding) : Prop where
  enabled : setting.overrides.sqlRoutingDisabled = false
  suits : ∃ route, ∀ source ∈ plain.sources, Suits setting plain route source

/-- Parameters suit a sketch when all its tables are ready and some source speaks of each closed one. -/
structure Suited (setting : Setting) (sketch : Sketch) : Prop where
  bindings : ∀ plain ∈ sketch.scope.bindings, Ready setting plain
  closed : ∀ plain ∈ sketch.closed, Ready setting plain ∧ plain.sources ≠ []

theorem Ready.coherent (h : Ready setting plain) : Coherent setting plain := by
  obtain ⟨route, hsuits⟩ := h.suits
  refine ⟨fun source hsource => (hsuits source hsource).fits, route, fun value hvalue => ?_⟩
  obtain ⟨source, hsource, hvalue⟩ := (Binding.mem_values h.enabled).mp hvalue
  exact (hsuits source hsource).leads value hvalue

/-- A bound source that fits stands for some value, so a table that is ready is settled by it. -/
theorem Ready.closed (h : Ready setting plain) (hsources : plain.sources ≠ []) :
    ∃ table, Closed setting plain table := by
  obtain ⟨route, hsuits⟩ := h.suits
  obtain ⟨source, hsource⟩ := List.exists_mem_of_ne_nil _ hsources
  obtain ⟨value, hvalue⟩ := (hsuits source hsource).fits.denotes (hsuits source hsource).bound
  have hvalues : value ∈ plain.values setting :=
    (Binding.mem_values h.enabled).mpr ⟨source, hsource, mem_values.mpr hvalue⟩
  exact h.coherent.closed (List.ne_nil_of_mem hvalues)

theorem Suited.settles (h : Suited setting sketch) : Settleable setting sketch where
  bindings plain hplain := (h.bindings plain hplain).coherent
  closed plain hplain := (h.closed plain hplain).1.closed (h.closed plain hplain).2

theorem Follows.run_run (steps : List Step) (depth : Nat) {after : Sketch} {p : Progress}
    (h : Follows setting sketch p) (hrun : sketch.run setting.scan (Site.binding? setting) steps = some after)
    (hsuited : Suited setting after) : ∃ q, runSteps setting depth steps p = .ok () q :=
  h.runSteps_run steps depth hrun hsuited.settles

end Walk

/-! ### Validation and a second routing -/

section
variable {router : Router} {context : RouteContext} {overrides : Overrides} {scan : Scan} {P Q : Params}
  {statement : Statement} {routed : Routed} {plain : Binding} {table other : RoutedTable} {setting : Setting}

/-- A table that is settled again with bound parameters: the sources suit its first route exactly when the
    second is the same. -/
theorem Walk.Closed.suits_iff (h : Closed setting plain other) (hon : setting.overrides.sqlRoutingDisabled = false)
    (hsources : plain.sources ≠ []) {route : Destination} :
    (∀ source ∈ plain.sources, Suits setting plain route source) ↔
      (∀ source ∈ plain.sources, source.Bound setting.params) ∧ route.same other.route = true := by
  have hleads : ∀ source ∈ plain.sources, ∀ value ∈ source.values setting.params,
      Sends setting plain.schema plain.table.value value other.route :=
    fun source hsource value hvalue => h.leads value ((Binding.mem_values hon).mpr ⟨source, hsource, hvalue⟩)
  constructor
  · intro hsuits
    obtain ⟨source, hsource⟩ := List.exists_mem_of_ne_nil _ hsources
    obtain ⟨hbound, hfits, hroute⟩ := hsuits source hsource
    obtain ⟨value, hvalue⟩ := hfits.denotes hbound
    refine ⟨fun source hsource => (hsuits source hsource).bound, ?_⟩
    exact (hroute value (mem_values.mpr hvalue)).same (hleads source hsource value (mem_values.mpr hvalue))
  · rintro ⟨hbound, hsame⟩ source hsource
    exact ⟨hbound source hsource, h.fits source hsource, fun value hvalue =>
      (hleads source hsource value hvalue).trans (Destination.same_symm hsame)⟩

theorem validate_iff_accepts (sql : String) (hQ : Q.isEmpty = false) :
    (router.validate sql routed Q context).result = .ok () ↔ ∀ table ∈ routed.tables, ∀ source ∈ table.sources,
      Check.Accepts { setting := router.setting context .empty {} Q, tables := routed.tables, params := Q }
        table source :=
  Iff.trans (Outcome.ofWalk_iff.trans ⟨fun ⟨_, p, h, _⟩ => ⟨p, h⟩, fun ⟨p, h⟩ => ⟨(), p, h, rfl⟩⟩)
    (validate_tests (router.setting context .empty {} Q) sql routed.tables hQ {})

theorem accepts_iff_suits {tables : List RoutedTable} (h : table.sources = plain.sources)
    (hschema : table.schema = plain.schema) (htable : table.table = plain.table.value) :
    (∀ source ∈ table.sources,
      Check.Accepts { setting := router.setting context .empty {} Q, tables, params := Q } table source) ↔
      ∀ source ∈ plain.sources, Suits (router.setting context overrides scan Q) plain table.route source := by
  rw [h]
  refine forall₂_congr fun source _ => ⟨fun ⟨hbound, hfits, hleads⟩ => ⟨hbound, hfits, ?_⟩,
    fun ⟨hbound, hfits, hleads⟩ => ⟨hbound, hfits, ?_⟩⟩
  · rwa [hschema, htable] at hleads
  · rwa [hschema, htable]

/-- Parameters pass validation exactly when they bind all parameters that routed the statement and route
    it to the same tables again. -/
theorem validate_iff_reroutes (sql : String) (hQ : Q.isEmpty = false)
    (h : (Router.routeStatement (router.setting context overrides scan P) statement).result = .ok routed)
    (hsources : ∀ table ∈ routed.tables, table.sources ≠ []) :
    (router.validate sql routed Q context).result = .ok () ↔
      (∀ table ∈ routed.tables, ∀ source ∈ table.sources, ∀ key ∈ source.keys, (Q.get? key).isSome = true) ∧
        ∃ again, (Router.routeStatement (router.setting context overrides scan Q) statement).result = .ok again ∧
          List.Forall₂ (fun table other => table.route.same other.route = true) routed.tables again.tables := by
  rw [validate_iff_accepts sql hQ]
  obtain ⟨sketch, hsketch, hclosed⟩ := routeStatement_follows h
  have hback : ∀ plain table, Closed (router.setting context overrides scan P) plain table → table ∈ routed.tables →
      table.sources = plain.sources ∧ plain.sources ≠ [] ∧ overrides.sqlRoutingDisabled = false := by
    intro plain table hplain htable
    obtain ⟨heq, hbacked⟩ := hplain.backed (hsources table htable)
    exact ⟨heq, heq ▸ hsources table htable, hbacked.enabled⟩
  constructor
  · intro haccepts
    have hsuited : Suited (router.setting context overrides scan Q) sketch := by
      constructor
      · have hnone := (Sketch.run_grows statement.steps hsketch).bindings
        rw [List.forall₂_nil_left_iff.mp hnone]
        simp
      · intro plain hplain
        obtain ⟨table, htable, hpair⟩ := exists_right_of_mem hclosed hplain
        obtain ⟨heq, hne, hon⟩ := hback plain table hpair htable
        exact ⟨⟨hon, table.route, (accepts_iff_suits heq hpair.schema_eq hpair.table_eq).mp (haccepts table htable)⟩,
          hne⟩
    obtain ⟨p, hrun⟩ := Follows.run_run statement.steps 0
      (Follows.start (router.setting context overrides scan Q)) hsketch hsuited
    obtain ⟨again, hagain⟩ := routeStatement_of_run hrun
    refine ⟨fun table htable source hsource => (haccepts table htable source hsource).bound, again, hagain, ?_⟩
    obtain ⟨_, hsketch', hclosed'⟩ := routeStatement_follows hagain
    cases hsketch.symm.trans hsketch'
    have hpairs := (List.forall₂_and_left routed.tables again.tables).mpr
      ⟨fun _ htable => htable, forall₂_join hclosed.flip hclosed'⟩
    refine hpairs.imp fun table other ⟨htable, plain, hpair, hpair'⟩ => ?_
    obtain ⟨heq, hne, hon⟩ := hback plain table hpair htable
    exact ((hpair'.suits_iff hon hne).mp
      ((accepts_iff_suits heq hpair.schema_eq hpair.table_eq).mp (haccepts table htable))).2
  · rintro ⟨hbound, again, hagain, hsame⟩ table htable
    obtain ⟨_, hsketch', hclosed'⟩ := routeStatement_follows hagain
    cases hsketch.symm.trans hsketch'
    have hpairs := List.Forall₂.mp (fun _ _ hpair hsame => And.intro hpair hsame)
      (forall₂_join hclosed.flip hclosed') hsame
    obtain ⟨other, -, ⟨plain, hpair, hpair'⟩, hsame⟩ := exists_right_of_mem hpairs htable
    obtain ⟨heq, hne, hon⟩ := hback plain table hpair htable
    refine (accepts_iff_suits heq hpair.schema_eq hpair.table_eq).mpr ((hpair'.suits_iff hon hne).mpr ⟨?_, hsame⟩)
    exact fun source hsource => hbound table htable source (heq ▸ hsource)

end

theorem validate_iff_reroutes_listed :
    ∃ routed, (Router.routeStatement (Sample.under [(.index 1, .int 6)]) Sample.listed).result = .ok routed ∧
      (∀ table ∈ routed.tables, table.sources ≠ []) ∧
      ((Sample.router.validate "" routed (.ofList [(.index 1, .int 8)])).result = .ok () ↔
        (∀ table ∈ routed.tables, ∀ source ∈ table.sources, ∀ key ∈ source.keys,
          ((Params.ofList [(.index 1, .int 8)]).get? key).isSome = true) ∧
        ∃ again, (Router.routeStatement (Sample.under [(.index 1, .int 8)]) Sample.listed).result = .ok again ∧
          List.Forall₂ (fun table other => table.route.same other.route = true) routed.tables again.tables) := by
  obtain ⟨routed, h, htables⟩ : ∃ routed,
      (Router.routeStatement (Sample.under [(.index 1, .int 6)]) Sample.listed).result = .ok routed ∧
        routed.tables = [Sample.even] := ⟨_, rfl, rfl⟩
  have hsources : ∀ table ∈ routed.tables, table.sources ≠ [] := by simp [htables, Sample.even]
  exact ⟨routed, h, hsources, validate_iff_reroutes "" rfl h hsources⟩

end ShardRouting
