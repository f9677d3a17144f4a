import ShardRouting.Proofs.Placement
import ShardRouting.Proofs.Rewriting
import ShardRouting.Proofs.Settlement

/-! What the values of a statement have decided stands. More parameters do not send such a table elsewhere, and
    other overrides do not either, since they are only asked for tables that no value has decided on. -/

namespace ShardRouting
open Sql Walk

variable {router : Router} {context : RouteContext} {overrides others : Overrides} {scan : Scan} {P Q : Params}
  {statement : Statement} {routed again : Routed} {plain : Binding} {table other : RoutedTable}

/-! ### More parameters -/

/-- What a source stands for does not go away when more parameters are bound. -/
theorem Denotes.of_extends {source : RouteSource} {value : ShardValue} (h : Denotes P source value)
    (hextends : ∀ key value, P.get? key = some value → Q.get? key = some value) : Denotes Q source value := by
  have hvalue : ∀ (source : ValueSource) value, source.value? P = some value → source.value? Q = some value
    | .literal _, _, h => h
    | .param key, value, h => hextends key value h
  cases h with
  | value h => exact .value (hvalue _ _ h)
  | range hlow hfirst hhigh hlast hge hle => exact .range (hvalue _ _ hlow) hfirst (hvalue _ _ hhigh) hlast hge hle

theorem Walk.Closed.stays (h : Closed (router.setting context overrides scan P) plain table)
    (h' : Closed (router.setting context overrides scan Q) plain other)
    (hextends : ∀ key value, P.get? key = some value → Q.get? key = some value) (hsources : table.sources ≠ []) :
    other.sources ≠ [] ∧ table.route.same other.route = true := by
  obtain ⟨hall, hbacked⟩ := h.backed hsources
  obtain ⟨source, hsource, hvalues⟩ := hbacked.based
  obtain ⟨value, hvalue⟩ := List.exists_mem_of_ne_nil _ hvalues
  have hvalue' : value ∈ source.values Q := mem_values.mpr ((mem_values.mp hvalue).of_extends hextends)
  have hsource' : source ∈ plain.sources := hall ▸ hsource
  have hon : (router.setting context overrides scan Q).overrides.sqlRoutingDisabled = false := hbacked.enabled
  have hfirst : value ∈ plain.values (router.setting context overrides scan P) :=
    (Binding.mem_values hbacked.enabled).mpr ⟨source, hsource', hvalue⟩
  have hsecond : value ∈ plain.values (router.setting context overrides scan Q) :=
    (Binding.mem_values hon).mpr ⟨source, hsource', hvalue'⟩
  constructor
  · obtain ⟨-, -, ⟨hnone, -⟩ | ⟨-, -, hkept⟩⟩ := Binding.settled?_inv h'.settled
    · exact absurd hnone (List.ne_nil_of_mem hsecond)
    · rw [hkept, ← hall]
      exact hsources
  · -- a value that was known before is sent to both destinations
    exact (h.leads value hfirst).same (h'.leads value hsecond)

/-- When more parameters are bound and the statement is routed still, a table that its predicates have routed is
    routed by them again, and to the same place. The table of a reference is the one with as many tables before
    it as there are bound references before the reference. -/
theorem routed_tables_stay (hextends : ∀ key value, P.get? key = some value → Q.get? key = some value)
    (h : (Router.routeStatement (router.setting context overrides scan P) statement).result = .ok routed)
    (h' : (Router.routeStatement (router.setting context overrides scan Q) statement).result = .ok again) :
    routed.tables.length = again.tables.length ∧
      ∀ (i : Nat) (reference : Reference), (statement.references [])[i]? = some reference →
        reference.bound (router.setting context overrides scan P) = true →
          ∃ table other renamed renamed',
            routed.tables[((statement.references []).take i).countP
              (Reference.bound (router.setting context overrides scan P))]? = some table ∧
            again.tables[((statement.references []).take i).countP
              (Reference.bound (router.setting context overrides scan P))]? = some other ∧
            (namesOf (routed.statement.references []))[i]? = some renamed ∧
            (namesOf (again.statement.references []))[i]? = some renamed' ∧
            Addresses router.options.defaultSchema renamed table.route ∧
            Addresses router.options.defaultSchema renamed' other.route ∧
            (table.sources ≠ [] → other.sources ≠ [] ∧ table.route.same other.route = true) := by
  obtain ⟨sketch, hsketch, hclosed⟩ := routeStatement_follows h
  obtain ⟨_, hsketch', hclosed'⟩ := routeStatement_follows h'
  cases hsketch.symm.trans hsketch'
  have hpairs := forall₂_join hclosed.flip hclosed'
  refine ⟨hpairs.length_eq, fun i reference hi hbound => ?_⟩
  obtain ⟨renamed, hrenamed, hmoved, -⟩ := (routeStatement_landed h).at_index hi
  obtain ⟨renamed', hrenamed', hmoved', -⟩ := (routeStatement_landed h').at_index hi
  obtain ⟨table, htable, -, haddresses⟩ := hmoved hbound
  obtain ⟨other, hother, -, haddresses'⟩ := hmoved' hbound
  refine ⟨table, other, renamed, renamed', htable, hother, hrenamed, hrenamed', haddresses, haddresses', ?_⟩
  intro hsources
  rcases forall₂_getElem? hpairs _ with ⟨hnone, -⟩ | ⟨_, _, hfirst, hsecond, plain, hplain, hplain'⟩
  · cases htable.symm.trans hnone
  · cases htable.symm.trans hfirst
    cases hother.symm.trans hsecond
    exact hplain.stays hplain' hextends hsources

/-- The parameter that is bound in the second routing sends the orders where the literal has sent them. -/
theorem routed_tables_stay_listed :
    ∃ routed again, (Router.routeStatement (Sample.under []) Sample.listed).result = .ok routed ∧
      (Router.routeStatement (Sample.under [(.index 1, .int 6)]) Sample.listed).result = .ok again ∧
      routed.tables.length = again.tables.length ∧ routed.tables = [Sample.even] ∧
      ∃ other, again.tables[0]? = some other ∧ other.sources ≠ [] ∧ Sample.even.route.same other.route = true := by
  obtain ⟨routed, h, htables⟩ : ∃ routed,
      (Router.routeStatement (Sample.under []) Sample.listed).result = .ok routed ∧
        routed.tables = [Sample.even] := ⟨_, rfl, rfl⟩
  obtain ⟨again, h'⟩ : ∃ again,
      (Router.routeStatement (Sample.under [(.index 1, .int 6)]) Sample.listed).result = .ok again := ⟨_, rfl⟩
  have hextends : ∀ key value, (Params.ofList []).get? key = some value →
      (Params.ofList [(.index 1, .int 6)]).get? key = some value := fun _ _ h => (nomatch h)
  obtain ⟨hlength, hstay⟩ := routed_tables_stay hextends h h'
  obtain ⟨table, other, -, -, htable, hother, -, -, -, -, hsame⟩ := hstay 0 _ rfl rfl
  rw [htables] at htable
  cases htable
  obtain ⟨hsources, hroute⟩ := hsame (List.cons_ne_nil _ _)
  exact ⟨routed, again, h, h', hlength, htables, other, hother, hsources, hroute⟩

/-! ### Other overrides -/

/-- A table that a value has decided on is settled without overrides. -/
theorem Walk.Closed.displaced_by_none (h : Closed (router.setting context overrides scan P) plain table)
    (hsources : table.sources ≠ []) (hon : others.sqlRoutingDisabled = false) :
    Closed (router.setting context others scan P) plain table := by
  have hvalues : plain.values (router.setting context others scan P) =
      plain.values (router.setting context overrides scan P) := by
    have hwas : overrides.sqlRoutingDisabled = false := (h.backed hsources).2.enabled
    rw [Binding.values_enabled hon, Binding.values_enabled hwas]
    rfl
  obtain ⟨hschema, htable, ⟨-, -, hnone⟩ | ⟨hne, hfirst, hkept⟩⟩ := Binding.settled?_inv h.settled
  · exact absurd hnone hsources
  · have hfirst' : plain.first? (router.setting context others scan P) = some table.route := by
      rw [← hfirst, Binding.first?, Binding.first?, hvalues]
      rfl
    refine ⟨?_, h.fits, fun value hvalue => h.leads value (hvalues ▸ hvalue)⟩
    rw [Binding.settled?_first (hvalues ▸ hne), hfirst', Option.map_some, ← hschema, ← htable, ← hkept]

/-- When every table of a routed statement has sources, other overrides change nothing, unless they disable the
    values in statements. -/
theorem overrides_displace_nothing (hon : others.sqlRoutingDisabled = false)
    (h : (Router.routeStatement (router.setting context overrides scan P) statement).result = .ok routed)
    (hsources : ∀ table ∈ routed.tables, table.sources ≠ []) :
    (Router.routeStatement (router.setting context others scan P) statement).result = .ok routed := by
  obtain ⟨sketch, hsketch, hclosed⟩ := routeStatement_follows h
  have hclosed' : List.Forall₂ (Closed (router.setting context others scan P)) sketch.closed routed.tables := by
    have hpairs := (List.forall₂_and_left routed.tables sketch.closed).mpr ⟨hsources, hclosed.flip⟩
    exact (hpairs.imp fun _ _ ⟨hne, hplain⟩ => hplain.displaced_by_none hne hon).flip
  obtain ⟨again, hagain, htables⟩ : ∃ again,
      (Router.routeStatement (router.setting context others scan P) statement).result = .ok again ∧
        again.tables = routed.tables := routeStatement_tables_iff.mpr ⟨sketch, hsketch, hclosed'⟩
  have hnaming : (router.setting context others scan P).naming =
      (router.setting context overrides scan P).naming := rfl
  rwa [routeStatement_unique hnaming h hagain htables] at hagain

theorem overrides_displace_nothing_listed :
    ∃ routed, Sample.archived.sqlRoutingDisabled = false ∧
      Sample.archived.find? none "orders" = some (.route ⟨"archive", "orders"⟩) ∧
      (Router.routeStatement (Sample.under [(.index 1, .int 6)]) Sample.listed).result = .ok routed ∧
      (∀ table ∈ routed.tables, table.sources ≠ []) ∧
      (Router.routeStatement (Sample.router.setting [] Sample.archived {} (.ofList [(.index 1, .int 6)]))
        Sample.listed).result = .ok routed := by
  obtain ⟨routed, h, htables⟩ : ∃ routed,
      (Router.routeStatement (Sample.under [(.index 1, .int 6)]) Sample.listed).result = .ok routed ∧
        routed.tables = [Sample.even] := ⟨_, rfl, rfl⟩
  have hsources : ∀ table ∈ routed.tables, table.sources ≠ [] := by simp [htables, Sample.even]
  exact ⟨routed, rfl, rfl, h, hsources, overrides_displace_nothing rfl h hsources⟩

end ShardRouting
