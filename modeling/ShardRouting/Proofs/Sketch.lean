import ShardRouting.Proofs.Scopes
import ShardRouting.Proofs.Weighing

/-! Sketches. A sketch is what a script makes of the tables when no value is looked at: the bindings of the
    open scope and the closed bindings, each with all the sources that spoke of it. Parameters have no part
    in it. A walk that goes through follows the sketch of its script, and has weighed every source. -/

namespace ShardRouting

structure Sketch where
  scope : Scope := {}
  closed : List Binding := []

/-- Keeps one more source. -/
def Binding.keep (binding : Binding) (source : RouteSource) : Binding :=
  { binding with sources := binding.sources ++ [source] }

/-- Keeps the sources of all evidence, unless one has none. -/
def Binding.gather (scan : Sql.Scan) (binding : Binding) : List Evidence → Option Binding
  | [] => some binding
  | evidence :: rest => match evidence.source? scan with
    | some source => (binding.keep source).gather scan rest
    | none => none

namespace Sketch

section
variable (scan : Sql.Scan) (bound : Site → Option Binding)

def key (sketch : Sketch) (predicate : KeyPredicate) : Option Sketch :=
  match sketch.scope.resolve predicate.column.key with
  | .unknown => some sketch
  | .ambiguous => none
  | .bound index binding => match predicate.refusal with
    | some _ => none
    | none => ((binding.see predicate.column.display).gather scan predicate.evidence).map fun binding =>
      { sketch with scope := sketch.scope.update index binding }

def other (sketch : Sketch) (left : Sql.Expr) : Option Sketch :=
  match ColumnRef.ofExpr? left with
  | none => some sketch
  | some column => match sketch.scope.resolve column.key with
    | .unknown => some sketch
    | _ => none

/-- A scope inside a sketch. -/
def enter (sketch : Sketch) (sites : List Site) : Sketch :=
  { sketch with scope := Scope.enter bound {} sites }

/-- The sketch around a scope that has become `inner`. -/
def leave (sketch inner : Sketch) : Sketch :=
  { sketch with closed := inner.closed ++ inner.scope.bindings }

mutual

def step (sketch : Sketch) : Step → Option Sketch
  | .key predicate => sketch.key scan predicate
  | .other left _ _ => sketch.other left
  | .scope _ sites steps => (run (sketch.enter bound sites) steps).map sketch.leave

def run (sketch : Sketch) : List Step → Option Sketch
  | [] => some sketch
  | step :: steps => match sketch.step step with
    | some sketch => sketch.run steps
    | none => none

end

end

end Sketch

/-! ### What becomes of a table -/

variable {setting : Setting} {plain : Binding}

/-- The values that decide on the route of a table, in the order of the predicates. While values in statements
    are disabled there are none. -/
def Binding.values (plain : Binding) (setting : Setting) : List ShardValue :=
  if setting.overrides.sqlRoutingDisabled then [] else plain.sources.flatMap (·.values setting.params)

/-- The destination of the first value. -/
def Binding.first? (plain : Binding) (setting : Setting) : Option Destination :=
  (plain.values setting).head?.bind fun value => setting.sent? plain.schema plain.table.value (some value)

/-- The table as it is settled: by its first value, or without sources when it has no value. -/
def Binding.settled? (plain : Binding) (setting : Setting) : Option RoutedTable :=
  match plain.values setting with
  | [] => (setting.fallback? plain.schema plain.table.value).map fun route =>
    { schema := plain.schema, table := plain.table.value, route }
  | _ :: _ => (plain.first? setting).map fun route =>
    { schema := plain.schema, table := plain.table.value, route, sources := plain.sources }

theorem Binding.values_disabled (hoff : setting.overrides.sqlRoutingDisabled = true) : plain.values setting = [] :=
  if_pos hoff

theorem Binding.values_enabled (hon : setting.overrides.sqlRoutingDisabled = false) :
    plain.values setting = plain.sources.flatMap (·.values setting.params) :=
  if_neg (Bool.eq_false_iff.mp hon)

theorem Binding.enabled_of_values (h : plain.values setting ≠ []) :
    setting.overrides.sqlRoutingDisabled = false := by
  refine Bool.eq_false_iff.mpr fun hoff => ?_
  exact h (values_disabled hoff)

theorem Binding.settled?_nil (h : plain.values setting = []) :
    plain.settled? setting = (setting.fallback? plain.schema plain.table.value).map fun route =>
      { schema := plain.schema, table := plain.table.value, route } := by
  rw [settled?, h]

theorem Binding.settled?_first (h : plain.values setting ≠ []) :
    plain.settled? setting = (plain.first? setting).map fun route =>
      { schema := plain.schema, table := plain.table.value, route, sources := plain.sources } := by
  obtain ⟨value, values, hvalues⟩ := List.exists_cons_of_ne_nil h
  rw [settled?, hvalues]

/-- A settled table has a fallback and no sources, or the destination of its first value. -/
theorem Binding.settled?_inv {routed : RoutedTable} (h : plain.settled? setting = some routed) :
    routed.schema = plain.schema ∧ routed.table = plain.table.value ∧
      (plain.values setting = [] ∧ setting.fallback? plain.schema plain.table.value = some routed.route ∧
          routed.sources = [] ∨
        plain.values setting ≠ [] ∧ plain.first? setting = some routed.route ∧ routed.sources = plain.sources) := by
  by_cases hvalues : plain.values setting = []
  · rw [settled?_nil hvalues] at h
    obtain ⟨route, hroute, rfl⟩ := Option.map_eq_some_iff.mp h
    exact ⟨rfl, rfl, .inl ⟨hvalues, hroute, rfl⟩⟩
  · rw [settled?_first hvalues] at h
    obtain ⟨route, hroute, rfl⟩ := Option.map_eq_some_iff.mp h
    exact ⟨rfl, rfl, .inr ⟨hvalues, hroute, rfl⟩⟩

theorem Binding.mem_values (hon : setting.overrides.sqlRoutingDisabled = false) {value : ShardValue} :
    value ∈ plain.values setting ↔ ∃ source ∈ plain.sources, value ∈ source.values setting.params := by
  rw [values_enabled hon, List.mem_flatMap]

theorem Binding.mem_values_keep {source : RouteSource} {value : ShardValue}
    (h : value ∈ (plain.keep source).values setting) :
    value ∈ plain.values setting ∨ value ∈ source.values setting.params := by
  have hon := enabled_of_values (List.ne_nil_of_mem h)
  rw [values_enabled hon] at h ⊢
  simpa [keep] using h

namespace Walk

variable {binding after : Binding} {p q : Progress}

/-! ### Weighed bindings -/

/-- A binding of a walk over the sketched one `plain`: all values of its sources lead to its route, which is the
    destination of the first of them. While values in statements are disabled the sources are not kept. -/
structure Weighed (setting : Setting) (plain binding : Binding) : Prop where
  bare : binding.bare = plain.bare
  sources : binding.sources = if setting.overrides.sqlRoutingDisabled then [] else plain.sources
  fits : ∀ source ∈ plain.sources, source.Fits setting.options.maxBetweenSpan setting.params
  route : binding.route = plain.first? setting
  leads : ∀ value ∈ plain.values setting, ∃ route, binding.route = some route ∧
    Sends setting plain.schema plain.table.value value route

/-- A table that no predicate has spoken of. -/
theorem Weighed.fresh (h : plain.route = none) (h' : plain.sources = []) : Weighed setting plain plain := by
  have hvalues : plain.values setting = [] := by simp [Binding.values, h']
  refine ⟨rfl, by simp [h'], by simp [h'], ?_, by simp [hvalues]⟩
  simp [Binding.first?, hvalues, h]

theorem Weighed.see (h : Weighed setting plain binding) (column : String) :
    Weighed setting (plain.see column) (binding.see column) :=
  ⟨congrArg (·.see column) h.bare, h.sources, h.fits, h.route, h.leads⟩

/-- A first destination stays the first. -/
theorem Weighed.first_keep (h : Weighed setting plain binding)
    (hon : setting.overrides.sqlRoutingDisabled = false) (source : RouteSource) :
    (plain.keep source).first? setting = (plain.first? setting).or ((source.values setting.params).head?.bind
      fun value => setting.sent? plain.schema plain.table.value (some value)) := by
  have hkept : (plain.keep source).values setting = plain.values setting ++ source.values setting.params := by
    simp [Binding.values_enabled hon, Binding.keep]
  unfold Binding.first?
  rw [hkept]
  cases hvalues : plain.values setting with
  | nil => rfl
  | cons value values =>
    -- a first value has a destination, so those of the new source are not asked for
    obtain ⟨route, hroute, -⟩ := h.leads value (hvalues ▸ List.mem_cons_self)
    rw [h.route, Binding.first?, hvalues] at hroute
    rw [hroute]
    exact hroute

theorem Weighed.weigh (h : Weighed setting plain binding) {column : ColumnRef} {evidence : Evidence}
    (hrun : weigh setting column binding evidence p = .ok after q) :
    ∃ source, evidence.source? setting.scan = some source ∧ Weighed setting (plain.keep source) after ∧
      Quiet p q := by
  obtain ⟨source, hsource, hfits⟩ := weigh_source hrun
  obtain ⟨p', hbefore, heq⟩ := weigh_eq column binding hsource hfits p
  rw [heq] at hrun
  obtain ⟨routed, hvalues, rfl⟩ := map_iff.mp hrun
  have hallfit : ∀ other ∈ (plain.keep source).sources,
      other.Fits setting.options.maxBetweenSpan setting.params := by
    intro other hother
    rcases List.mem_append.mp hother with hother | hother
    · exact h.fits other hother
    · rwa [List.mem_singleton.mp hother]
  cases hoff : setting.overrides.sqlRoutingDisabled with
  | true =>
    obtain ⟨hquiet, rfl⟩ := routeValues_disabled hoff hvalues
    have hafter : addSource setting source routed = routed := if_pos hoff
    have hnone : ∀ plain : Binding, plain.first? setting = none := by
      simp [Binding.first?, Binding.values_disabled hoff]
    rw [hafter]
    refine ⟨source, hsource, ⟨h.bare, ?_, hallfit, ?_, by simp [Binding.values_disabled hoff]⟩,
      hbefore.toQuiet.trans hquiet⟩
    · rw [h.sources, if_pos hoff, if_pos hoff]
    · rw [h.route, hnone, hnone]
  | false =>
    obtain ⟨hquiet, hled⟩ := routeValues_inv hoff hvalues
    have hschema : binding.schema = plain.schema := Binding.schema_of_bare h.bare
    have htable : binding.table = plain.table := Binding.table_of_bare h.bare
    have hafter : addSource setting source routed = routed.keep source := if_neg (Bool.eq_false_iff.mp hoff)
    have hsources : routed.sources = plain.sources := by
      rw [hled.sources, h.sources, if_neg (Bool.eq_false_iff.mp hoff)]
    rw [hafter]
    refine ⟨source, hsource, ⟨hled.bare.trans h.bare, ?_, hallfit, ?_, ?_⟩, hbefore.toQuiet.trans hquiet⟩
    · rw [if_neg (Bool.eq_false_iff.mp hoff)]
      exact congrArg (· ++ [source]) hsources
    · rw [h.first_keep hoff, ← h.route, ← hschema, ← htable]
      exact hled.route
    · intro value hvalue
      rcases Binding.mem_values_keep hvalue with hvalue | hvalue
      · obtain ⟨route, hroute, hsends⟩ := h.leads value hvalue
        exact ⟨route, hled.first hroute, hsends⟩
      · obtain ⟨route, hroute, hsends⟩ := hled.leads value hvalue
        exact ⟨route, hroute, by rwa [hschema, htable] at hsends⟩

theorem Weighed.weighAll (h : Weighed setting plain binding) {column : ColumnRef} {evidence : List Evidence}
    (hrun : weighAll setting column binding evidence p = .ok after q) :
    ∃ plain', plain.gather setting.scan evidence = some plain' ∧ Weighed setting plain' after ∧ Quiet p q := by
  induction evidence generalizing plain binding p with
  | nil =>
    obtain ⟨rfl, rfl⟩ := pure_iff.mp hrun
    exact ⟨plain, rfl, h, .refl p⟩
  | cons first rest ih =>
    obtain ⟨_, _, hfirst, hrest⟩ := bind_iff.mp hrun
    obtain ⟨source, hsource, hweighed, hquiet⟩ := h.weigh hfirst
    obtain ⟨plain', hgather, hafter, hquiet'⟩ := ih hweighed hrest
    refine ⟨plain', ?_, hafter, hquiet.trans hquiet'⟩
    rw [Binding.gather, hsource]
    exact hgather

/-! ### Following a sketch -/

theorem forall₂_getElem? {α β : Type} {R : α → β → Prop} {l : List α} {m : List β} (h : List.Forall₂ R l m) :
    ∀ i : Nat, (l[i]? = none ∧ m[i]? = none) ∨ ∃ a b, l[i]? = some a ∧ m[i]? = some b ∧ R a b := by
  induction h with
  | nil => exact fun i => .inl ⟨rfl, rfl⟩
  | cons hab _ ih => exact fun
    | 0 => .inr ⟨_, _, rfl, rfl, hab⟩
    | i + 1 => ih i

theorem forall₂_set {α β : Type} {R : α → β → Prop} {l : List α} {m : List β} (h : List.Forall₂ R l m)
    {a : α} {b : β} (hab : R a b) : ∀ i : Nat, List.Forall₂ R (l.set i a) (m.set i b) := by
  induction h with
  | nil => exact fun _ => .nil
  | cons hhead htail ih => exact fun
    | 0 => .cons hab htail
    | i + 1 => .cons hhead (ih i)

/-- A closed binding and the table it was settled as: its sources fit, and all its values lead to one place. -/
structure Closed (setting : Setting) (plain : Binding) (routed : RoutedTable) : Prop where
  settled : plain.settled? setting = some routed
  fits : ∀ source ∈ plain.sources, source.Fits setting.options.maxBetweenSpan setting.params
  leads : ∀ value ∈ plain.values setting, Sends setting plain.schema plain.table.value value routed.route

theorem Weighed.closed {routed : RoutedTable} (h : Weighed setting plain binding)
    (hsettles : Settles setting binding routed) : Closed setting plain routed := by
  have hschema : routed.schema = plain.schema := hsettles.schema.trans (Binding.schema_of_bare h.bare)
  have htable : routed.table = plain.table.value :=
    hsettles.table.trans (congrArg Sql.Ident.value (Binding.table_of_bare h.bare))
  have hrouted : routed = ⟨plain.schema, plain.table.value, routed.route, routed.sources⟩ := by
    rw [← hschema, ← htable]
  refine ⟨?_, h.fits, fun value hvalue => ?_⟩
  · by_cases hvalues : plain.values setting = []
    · have hroute : binding.route = none := by rw [h.route, Binding.first?, hvalues]; rfl
      obtain ⟨hfallback, hsources⟩ := hsettles.fallback hroute
      rw [Binding.schema_of_bare h.bare, Binding.table_of_bare h.bare] at hfallback
      rw [Binding.settled?_nil hvalues, hfallback, hrouted, hsources]
      rfl
    · obtain ⟨value, hvalue⟩ := List.exists_mem_of_ne_nil _ hvalues
      obtain ⟨found, hfound, -⟩ := h.leads value hvalue
      obtain ⟨hroute, hsources⟩ := hsettles.route found hfound
      rw [h.sources, if_neg (Bool.eq_false_iff.mp (Binding.enabled_of_values hvalues))] at hsources
      rw [Binding.settled?_first hvalues, ← h.route, hfound, hrouted, hsources, hroute]
      rfl
  · obtain ⟨found, hfound, hsends⟩ := h.leads value hvalue
    rwa [(hsettles.route found hfound).1]

theorem Closed.schema_eq {routed : RoutedTable} (h : Closed setting plain routed) : routed.schema = plain.schema :=
  (Binding.settled?_inv h.settled).1

theorem Closed.table_eq {routed : RoutedTable} (h : Closed setting plain routed) :
    routed.table = plain.table.value :=
  (Binding.settled?_inv h.settled).2.1

/-- A state of the walk over a sketch. -/
structure Follows (setting : Setting) (sketch : Sketch) (p : Progress) : Prop where
  claims : p.scope.claims = sketch.scope.claims
  bindings : List.Forall₂ (Weighed setting) sketch.scope.bindings p.scope.bindings
  closed : List.Forall₂ (Closed setting) sketch.closed p.routed

variable {sketch : Sketch}

theorem Follows.quiet (h : Follows setting sketch p) (hquiet : Quiet p q) : Follows setting sketch q where
  claims := hquiet.scope ▸ h.claims
  bindings := hquiet.scope ▸ h.bindings
  closed := hquiet.routed ▸ h.closed

/-- A key stands for the same table in both. -/
theorem Follows.resolve (h : Follows setting sketch p) (key : String) :
    (sketch.scope.resolve key = .unknown ∧ p.scope.resolve key = .unknown) ∨
      (sketch.scope.resolve key = .ambiguous ∧ p.scope.resolve key = .ambiguous) ∨
      ∃ index plain binding, sketch.scope.resolve key = .bound index plain ∧
        p.scope.resolve key = .bound index binding ∧ Weighed setting plain binding := by
  have hclaim : p.scope.claim? key = sketch.scope.claim? key := by simp only [Scope.claim?, h.claims]
  unfold Scope.resolve
  rw [hclaim]
  cases sketch.scope.claim? key with
  | none => exact .inl ⟨rfl, rfl⟩
  | some claim =>
    cases claim with
    | many => exact .inr (.inl ⟨rfl, rfl⟩)
    | one index =>
      rcases forall₂_getElem? h.bindings index with ⟨hplain, hbinding⟩ | ⟨plain, binding, hplain, hbinding, h⟩
      · exact .inl ⟨by simp only [hplain], by simp only [hbinding]⟩
      · exact .inr (.inr ⟨index, plain, binding, by simp only [hplain], by simp only [hbinding], h⟩)

theorem Follows.key (h : Follows setting sketch p) {predicate : KeyPredicate} {u : Unit}
    (hrun : onKey setting predicate p = .ok u q) :
    ∃ sketch', sketch.key setting.scan predicate = some sketch' ∧ Follows setting sketch' q := by
  unfold Sketch.key
  rcases onKey_inv hrun with ⟨hunknown, rfl⟩ | ⟨index, binding, after, p', hbound, hrefusal, hweigh, rfl⟩
  · rcases h.resolve predicate.column.key with ⟨hplain, -⟩ | ⟨-, hother⟩ | ⟨_, _, _, -, hother, -⟩
    · exact ⟨sketch, by rw [hplain], h⟩
    · cases hunknown.symm.trans hother
    · cases hunknown.symm.trans hother
  · rcases h.resolve predicate.column.key with ⟨-, hother⟩ | ⟨-, hother⟩ |
      ⟨_, plain, _, hplain, hother, hweighed⟩
    · cases hbound.symm.trans hother
    · cases hbound.symm.trans hother
    · cases hbound.symm.trans hother
      obtain ⟨plain', hgather, hafter, hquiet⟩ := (hweighed.see _).weighAll hweigh
      rw [hplain]
      refine ⟨{ sketch with scope := sketch.scope.update index plain' },
        by simp only [hrefusal, hgather, Option.map_some], ?_, ?_, ?_⟩
      · exact (h.quiet hquiet).claims
      · exact forall₂_set (h.quiet hquiet).bindings hafter index
      · exact (h.quiet hquiet).closed

theorem Follows.other (h : Follows setting sketch p) {left : Sql.Expr} {operator text : String} {u : Unit}
    (hrun : onOther left operator text p = .ok u q) :
    ∃ sketch', sketch.other left = some sketch' ∧ Follows setting sketch' q := by
  obtain ⟨rfl, hunknown⟩ := onOther_inv hrun
  unfold Sketch.other
  cases hcolumn : ColumnRef.ofExpr? left with
  | none => exact ⟨sketch, rfl, h⟩
  | some column =>
    rcases h.resolve column.key with ⟨hplain, -⟩ | ⟨-, hother⟩ | ⟨_, _, _, -, hother, -⟩
    · exact ⟨sketch, by simp only [hplain], h⟩
    · cases (hunknown column hcolumn).symm.trans hother
    · cases (hunknown column hcolumn).symm.trans hother

/-- The tables of a scope are fresh when they are bound. -/
theorem Follows.enter (h : Follows setting sketch p) {sites : List Site}
    (hscope : q.scope = Scope.enter (Site.binding? setting) {} sites) (hrouted : q.routed = p.routed) :
    Follows setting (sketch.enter (Site.binding? setting) sites) q where
  claims := congrArg Scope.claims hscope
  bindings := by
    rw [hscope]
    refine List.forall₂_same.mpr fun binding hbinding => ?_
    rw [Sketch.enter, Scope.enter_bindings] at hbinding
    obtain ⟨site, -, hsite⟩ := List.mem_filterMap.mp hbinding
    obtain ⟨hroute, hsources⟩ := Site.binding?_fresh hsite
    exact .fresh hroute hsources
  closed := hrouted ▸ h.closed

theorem forall₂_join {α β γ : Type} {R : α → β → Prop} {S : β → γ → Prop} {l : List α} {m : List β}
    {n : List γ} (h : List.Forall₂ R l m) (h' : List.Forall₂ S m n) :
    List.Forall₂ (fun a c => ∃ b, R a b ∧ S b c) l n := by
  induction h generalizing n with
  | nil =>
    cases h'
    exact .nil
  | cons hab _ ih =>
    cases h' with
    | cons hbc htail => exact .cons ⟨_, hab, hbc⟩ (ih htail)

/-- A closed scope leaves its bindings behind. -/
theorem Follows.leave {outer inner : Sketch} {p' : Progress} (h : Follows setting outer p)
    (hinner : Follows setting inner p') {tables : List RoutedTable}
    (hsettles : List.Forall₂ (Settles setting) p'.scope.bindings tables) (hscope : q.scope = p.scope)
    (hrouted : q.routed = p'.routed ++ tables) : Follows setting (outer.leave inner) q where
  claims := hscope ▸ h.claims
  bindings := hscope ▸ h.bindings
  closed := by
    rw [hrouted]
    refine List.rel_append hinner.closed ((forall₂_join hinner.bindings hsettles).imp ?_)
    rintro plain routed ⟨binding, hweighed, hsettled⟩
    exact hweighed.closed hsettled

mutual

theorem Follows.step : ∀ (step : Step) {depth : Nat} {sketch : Sketch} {p q : Progress} {u : Unit},
    Follows setting sketch p → runStep setting depth step p = .ok u q →
      ∃ sketch', sketch.step setting.scan (Site.binding? setting) step = some sketch' ∧
        Follows setting sketch' q
  | .key predicate, _, _, _, _, _, h, hrun => h.key hrun
  | .other left operator text, _, _, _, _, _, h, hrun => h.other hrun
  | .scope aliases sites steps, depth, sketch, p, q, _, h, hrun => by
    obtain ⟨p', tables, hinner, hscope, hrouted, hsettles⟩ := runScope_inv hrun
    obtain ⟨_, p₀, hbind, hsteps⟩ := bind_iff.mp hinner
    obtain ⟨_, hbind', hentered, hkept⟩ := bindSites_run setting (depth + 1) sites { p with scope := {} }
    cases hbind.symm.trans hbind'
    obtain ⟨inner, hsketch, h'⟩ := Follows.run steps (h.enter hentered hkept) hsteps
    exact ⟨sketch.leave inner, by rw [Sketch.step, hsketch]; rfl, h.leave h' hsettles hscope hrouted⟩

/-- A run that goes through follows the sketch of its script. -/
theorem Follows.run : ∀ (steps : List Step) {depth : Nat} {sketch : Sketch} {p q : Progress} {u : Unit},
    Follows setting sketch p → runSteps setting depth steps p = .ok u q →
      ∃ sketch', sketch.run setting.scan (Site.binding? setting) steps = some sketch' ∧
        Follows setting sketch' q
  | [], _, sketch, _, _, _, h, hrun => by
    obtain ⟨-, rfl⟩ := pure_iff.mp hrun
    exact ⟨sketch, rfl, h⟩
  | step :: steps, _, _, _, _, _, h, hrun => by
    obtain ⟨_, p', hstep, hsteps⟩ := bind_iff.mp hrun
    obtain ⟨between, hbetween, h'⟩ := Follows.step step h hstep
    obtain ⟨sketch', hsketch, h''⟩ := Follows.run steps h' hsteps
    exact ⟨sketch', by rw [Sketch.run, hbetween]; exact hsketch, h''⟩

end

end Walk
end ShardRouting
