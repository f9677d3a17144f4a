import ShardRouting.Proofs.Blocks
import ShardRouting.Proofs.Disregard

/-! Tables that no route is found for. Modulo rules have a destination for every value of a table whose schema is
    known, so a statement is refused for want of a route only when a scope closes over a table that nothing decides
    on: its predicates wait for parameters, its rule has several destinations, and it has no override. -/

namespace ShardRouting
open Sql Walk

/-- Evidence that waits for a parameter. -/
def Evidence.Deferred (setting : Setting) (evidence : Evidence) : Prop :=
  ∃ source, evidence.source? setting.scan = some source ∧ ¬source.Bound setting.params

/-- Nothing decides on a table of a block: what predicates say of it waits for parameters or counts for nothing, the
    engine gives no destination without value, and there is no override. -/
structure Block.Strands (setting : Setting) (block : Block) (binding : Binding) : Prop where
  bound : ∃ site ∈ block.sites, site.binding? setting = some binding
  unvalued : setting.overrides.sqlRoutingDisabled = true ∨ ∀ predicate, Step.key predicate ∈ block.steps →
    predicate.column.key ∈ binding.lookupKeys → ∀ evidence ∈ predicate.evidence, evidence.Deferred setting
  undecided : setting.engine.route setting.context binding.schema binding.table.value none = .ok none
  plain : setting.overrides.find? binding.schema binding.table.value = none

/-! ### Modulo rules -/

section
variable {set : RuleSet} {rule : ShardRule} {context : RouteContext} {schema table key : String}

theorem RuleSet.rule_of_shardKey? {schema : Option String}
    (h : set.engine.shardKey? context schema table = some key) : ∃ rule, set.find? schema table = some rule := by
  cases hfind : set.find? schema table with
  | some rule => exact ⟨rule, rfl⟩
  | none =>
    unfold RuleEngine.shardKey? engine config at h
    simp [hfind] at h

theorem ShardRule.resolve_schema (rule : ShardRule) (schema table : String) (value : Option ShardValue) :
    ∃ route, rule.resolve (some schema) table value = .ok route := by
  unfold resolve
  rw [Option.some_or]
  exact ⟨_, rfl⟩

/-- A rule has a destination for every value of a table with a schema. -/
theorem RuleSet.route_value (h : set.find? (some schema) table = some rule) (context : RouteContext)
    (value : ShardValue) : ∃ route, set.engine.route context (some schema) table (some value) = .ok (some route) := by
  obtain ⟨found, hfound⟩ := rule.resolve_schema schema table (some value)
  refine ⟨found, ?_⟩
  change set.route (some schema) table (some value) = _
  simp only [RuleSet.route, h, Option.isNone_some, Bool.false_and, Bool.false_eq_true, if_false, hfound]
  rfl

/-- Without value a rule with one destination gives it, and any other rule none. -/
theorem RuleSet.route_none (h : set.find? (some schema) table = some rule) (context : RouteContext) :
    ∃ found, set.engine.route context (some schema) table none = .ok found ∧ found.isSome = rule.isSingle := by
  obtain ⟨route, hroute⟩ := rule.resolve_schema schema table none
  change ∃ found, set.route (some schema) table none = .ok found ∧ _
  unfold RuleSet.route
  cases hsingle : rule.isSingle with
  | false => exact ⟨none, by simp [h, hsingle], rfl⟩
  | true =>
    refine ⟨some route, ?_, rfl⟩
    simp only [h, hsingle, hroute, Option.isNone_none, Bool.not_true, Bool.and_false, Bool.false_eq_true, if_false]
    rfl

end

variable {setting : Setting} {statement : Statement}

/-- The engine has a destination for every value of a table, and does not fail when it is asked without. -/
structure Setting.Serves (setting : Setting) (schema : Option String) (table : String) : Prop where
  value : ∀ value, ∃ route, setting.engine.route setting.context schema table (some value) = .ok (some route)
  bare : ∃ found, setting.engine.route setting.context schema table none = .ok found

/-- The engine serves every table that can be bound. -/
def Setting.Serving (setting : Setting) : Prop :=
  ∀ (site : Site) (binding : Binding), site.binding? setting = some binding →
    setting.Serves binding.schema binding.table.value

/-- With a default schema every bound table has a schema, and then its rule serves it. -/
theorem Site.served {set : RuleSet} (hengine : setting.engine = set.engine) {default : String}
    (hdefault : setting.options.defaultSchema = some default) {site : Site} {binding : Binding}
    (h : site.binding? setting = some binding) :
    ∃ schema rule, binding.schema = some schema ∧ set.find? (some schema) binding.table.value = some rule ∧
      setting.Serves binding.schema binding.table.value := by
  obtain ⟨-, written, -, hschema, hkey⟩ := Site.binding?_some h
  rw [hdefault] at hschema
  obtain ⟨schema, hsome⟩ : ∃ schema, binding.schema = some schema := by
    rw [← hschema]
    cases written <;> exact ⟨_, rfl⟩
  rw [hengine, hsome] at hkey
  obtain ⟨rule, hrule⟩ := RuleSet.rule_of_shardKey? hkey
  refine ⟨schema, rule, hsome, hrule, ?_⟩
  obtain ⟨found, hfound, -⟩ := RuleSet.route_none hrule setting.context
  rw [hsome]
  exact ⟨fun value => hengine ▸ RuleSet.route_value hrule setting.context value, found, hengine ▸ hfound⟩

/-- The engine fails, or no destination is found. -/
def RoutingError.Routeless : RoutingError → Prop
  | .notFound _ => True
  | .engine _ => True
  | _ => False

namespace Walk

section
variable {α β : Type} {p : Progress} {error : RoutingError} {binding : Binding}

/-! ### Errors of steps -/

theorem outcome_bind_iff {x : Walk α} {f : α → Walk β} : outcome (x >>= f) p = .error error ↔
    outcome x p = .error error ∨ ∃ a q, x p = .ok a q ∧ outcome (f a) q = .error error := by
  cases hx : x p with
  | ok a q =>
    have hnot : outcome x p ≠ .error error := by simp [outcome, hx]
    rw [outcome_bind hx]
    constructor
    · exact fun h => .inr ⟨a, q, rfl, h⟩
    · rintro (h | ⟨_, _, ⟨⟩, h⟩)
      · exact absurd h hnot
      · exact h
  | error other q =>
    have hother : outcome x p = .error other := outcome_error.mpr ⟨q, hx⟩
    constructor
    · intro h
      cases (outcome_bind_error hother).symm.trans h
      exact .inl hother
    · rintro (h | ⟨_, _, ⟨⟩, -⟩)
      exact outcome_bind_error h

/-- An inner scope has the errors of what runs in it. -/
theorem outcome_inScope_error {x : Walk α} (h : outcome (inScope x) p = .error error) :
    outcome x { p with scope := {} } = .error error := by
  rw [outcome_inScope] at h
  cases hx : outcome x { p with scope := {} } with
  | ok result => simp [hx, Except.map] at h
  | error other =>
    rw [hx] at h
    cases h
    rfl

/-! ### Steps that find routes -/

/-- A step never ends for want of a route. -/
def Finds (x : Walk α) : Prop := ∀ p error, outcome x p = .error error → ¬error.Routeless

namespace Finds

theorem pure (a : α) : Finds (Pure.pure a : Walk α) := by
  rintro p error ⟨⟩

theorem throw {error : RoutingError} (h : ¬error.Routeless) : Finds (throw error : Walk α) := by
  rintro p _ ⟨⟩
  exact h

theorem modify (f : Progress → Progress) : Finds (modify f : Walk Unit) := by
  rintro p error ⟨⟩

theorem tell (event : Event) : Finds (Walk.tell event) := .modify _

/-- What follows may rely on what the step gave. -/
theorem bindWith {x : Walk α} {f : α → Walk β} (post : α → Prop) (hx : Finds x)
    (hpost : ∀ p a q, x p = .ok a q → post a) (hf : ∀ a, post a → Finds (f a)) : Finds (x >>= f) := by
  intro p error h
  rcases outcome_bind_iff.mp h with h | ⟨a, q, hrun, h⟩
  · exact hx p error h
  · exact hf a (hpost p a q hrun) q error h

theorem bind {x : Walk α} {f : α → Walk β} (hx : Finds x) (hf : ∀ a, Finds (f a)) : Finds (x >>= f) :=
  hx.bindWith (fun _ => True) (fun _ _ _ _ => trivial) fun a _ => hf a

end Finds

theorem readFor_finds (column : ColumnRef) (e : Expr) : Finds (readFor setting column e) := by
  unfold readFor
  cases readValue setting.scan setting.params e with
  | ok reading => exact .pure reading
  | error part => exact .throw id

theorem rangeOf_finds (limit : Nat) (text : String) (low high : ShardValue) :
    Finds (rangeOf limit text low high) := by
  cases hfault : rangeFault? limit low high with
  | some fault =>
    rw [rangeOf_fault hfault]
    exact .throw id
  | none =>
    obtain ⟨values, hvalues⟩ := rangeOf_whole text hfault
    rw [hvalues]
    exact .pure values

theorem acceptRoute_finds (binding : Binding) (route : Destination) (value : ShardValue) :
    Finds (acceptRoute binding route value) := by
  unfold acceptRoute
  cases binding.route with
  | some first =>
    simp only
    split
    · exact .pure binding
    · exact .throw id
  | none => exact (Finds.tell _).bind fun _ => (Finds.modify _).bind fun _ => .pure _

theorem routeValue_finds (h : setting.Serves binding.schema binding.table.value) (value : ShardValue) :
    Finds (routeValue setting binding value) := by
  obtain ⟨route, hroute⟩ := h.value value
  unfold routeValue
  split
  · exact (Finds.tell _).bind fun _ => .pure binding
  · have hask : Finds (ask setting binding.schema binding.table.value (some value)) := by
      refine (Finds.tell _).bind fun _ => ?_
      rw [hroute]
      exact .pure (some route)
    refine hask.bindWith (· = some route) (fun p found q hrun => ?_) fun found hfound => ?_
    · cases hroute.symm.trans (ask_iff.mp hrun).1
      rfl
    · rw [hfound]
      exact acceptRoute_finds binding route value

theorem serves_of_bare {after : Binding} (hbare : after.bare = binding.bare)
    (h : setting.Serves binding.schema binding.table.value) : setting.Serves after.schema after.table.value := by
  rwa [Binding.schema_of_bare hbare, Binding.table_of_bare hbare]

theorem routeValue_bare {after : Binding} {value : ShardValue} {q : Progress}
    (h : routeValue setting binding value p = .ok after q) : after.bare = binding.bare := by
  cases hoff : setting.overrides.sqlRoutingDisabled with
  | true => exact congrArg Binding.bare (routeValue_disabled hoff h).2
  | false =>
    obtain ⟨-, first, rfl, -⟩ := routeValue_inv hoff h
    rfl

theorem routeValues_finds (values : List ShardValue) : ∀ {binding : Binding},
    setting.Serves binding.schema binding.table.value → Finds (routeValues setting binding values) := by
  induction values with
  | nil => exact fun _ => .pure _
  | cons value values ih =>
    intro binding h
    exact (routeValue_finds h value).bindWith (fun after => after.bare = binding.bare)
      (fun _ _ _ => routeValue_bare) fun after hbare => ih (serves_of_bare hbare h)

theorem routeRange_finds (h : setting.Serves binding.schema binding.table.value) (text : String)
    (low high : Reading) : Finds (routeRange setting text binding low high) := by
  unfold routeRange
  split
  · refine (rangeOf_finds _ text _ _).bind fun values => ?_
    exact (routeValues_finds values h).bind fun _ => .pure _
  · exact (Finds.tell _).bind fun _ => .pure _

theorem weigh_finds (h : setting.Serves binding.schema binding.table.value) (column : ColumnRef)
    (evidence : Evidence) : Finds (weigh setting column binding evidence) := by
  cases evidence with
  | item e =>
    refine (readFor_finds column e).bind fun reading => ?_
    cases reading with
    | known value source => exact (routeValue_finds h value).bind fun _ => .pure _
    | unbound key => exact (Finds.tell _).bind fun _ => .pure _
  | range text low high =>
    refine (readFor_finds column low).bind fun low => ?_
    exact (readFor_finds column high).bind fun high => routeRange_finds h text low high

theorem weighAll_finds (column : ColumnRef) (evidence : List Evidence) : ∀ {binding : Binding},
    setting.Serves binding.schema binding.table.value → Finds (weighAll setting column binding evidence) := by
  induction evidence with
  | nil => exact fun _ => .pure _
  | cons first rest ih =>
    intro binding h
    exact (weigh_finds h column first).bindWith (fun after => after.bare = binding.bare)
      (fun _ _ _ hrun => (weigh_frame hrun).2) fun after hbare => ih (serves_of_bare hbare h)

/-- A predicate finds a route wherever the tables of its scope are served. -/
theorem onKey_finds (predicate : KeyPredicate)
    (h : ∀ binding ∈ p.scope.bindings, setting.Serves binding.schema binding.table.value)
    (herror : outcome (onKey setting predicate) p = .error error) : ¬error.Routeless := by
  rcases outcome_bind_iff.mp herror with hbound | ⟨found, _, hbound, hrest⟩
  · obtain ⟨_, hrun⟩ := outcome_error.mp hbound
    rw [boundTable_eq] at hrun
    cases hresolve : p.scope.resolve predicate.column.key with
    | ambiguous =>
      rw [hresolve] at hrun
      cases hrun
      exact id
    | unknown => simp [hresolve] at hrun
    | bound index binding => simp [hresolve] at hrun
  · rw [boundTable_eq] at hbound
    cases hresolve : p.scope.resolve predicate.column.key with
    | ambiguous => simp [hresolve] at hbound
    | unknown =>
      rw [hresolve] at hbound
      cases hbound
      exact Finds.pure () p error hrest
    | bound index binding =>
      rw [hresolve] at hbound
      cases hbound
      let seen := binding.see predicate.column.display
      have hserved : setting.Serves seen.schema seen.table.value :=
        h binding (List.mem_of_getElem? (resolve_bound hresolve))
      have hweigh := (weighAll_finds predicate.column predicate.evidence hserved).bind fun after =>
        Finds.modify fun q : Progress => { q with scope := q.scope.update index after }
      cases hrefusal : predicate.refusal with
      | some refusal =>
        simp only [hrefusal] at hrest
        exact Finds.throw id p error hrest
      | none =>
        simp only [hrefusal] at hrest
        exact hweigh p error hrest

theorem onOther_finds (left : Expr) (operator text : String) : Finds (onOther left operator text) := by
  unfold onOther
  cases ColumnRef.ofExpr? left with
  | none => exact .pure ()
  | some column =>
    have hget : Finds (get : Walk Progress) := by
      rintro p error ⟨⟩
    refine hget.bind fun progress => ?_
    cases progress.scope.resolve column.key with
    | unknown => exact .pure ()
    | bound index binding => exact .throw id
    | ambiguous => exact .throw id

/-! ### Tables without a route -/

/-- Why no destination is found for a table. -/
def Missing (binding : Binding) (error : RoutingError) : Prop :=
  error = .notFound (.noPredicate binding.column) ∨ error = .notFound (.noValue binding.column binding.table.value)

theorem outcome_ask {schema : Option String} {table : String} {value : Option ShardValue}
    {found : Option Destination} (h : setting.engine.route setting.context schema table value = .ok found)
    (f : Option Destination → Walk α) : outcome (ask setting schema table value >>= f) p =
      outcome (f found) { p with log := .asked schema table value :: p.log } :=
  outcome_bind (ask_iff.mpr ⟨h, rfl⟩)

/-- A served table has no fallback only if the engine gives nothing without value, and it has no override. -/
theorem fallbackRoute_error (h : setting.Serves binding.schema binding.table.value)
    (herror : outcome (fallbackRoute setting binding) p = .error error) :
    setting.engine.route setting.context binding.schema binding.table.value none = .ok none ∧
      setting.overrides.find? binding.schema binding.table.value = none ∧ Missing binding error := by
  obtain ⟨found, hfound⟩ := h.bare
  unfold fallbackRoute at herror
  rw [outcome_ask hfound] at herror
  cases found with
  | some route => cases herror
  | none =>
    cases hfind : setting.overrides.find? binding.schema binding.table.value with
    | none =>
      simp only [hfind] at herror
      refine ⟨hfound, rfl, ?_⟩
      split at herror
      · cases herror
        exact .inl rfl
      · cases herror
        exact .inr rfl
    | some entry =>
      exfalso
      cases entry with
      | route route =>
        simp only [hfind] at herror
        cases herror
      | value value =>
        obtain ⟨route, hroute⟩ := h.value value
        simp only [hfind] at herror
        rcases outcome_bind_iff.mp herror with htell | ⟨_, q, -, hrest⟩
        · cases htell
        · rw [outcome_ask hroute] at hrest
          cases hrest

/-- A scope that cannot be closed holds a table without a route, which has no fallback. -/
theorem closeScope_error {aliases : Bool} {bindings : List Binding}
    (herror : outcome (closeScope setting aliases bindings) p = .error error) :
    ∃ binding ∈ bindings, binding.route = none ∧ ∃ q, outcome (fallbackRoute setting binding) q = .error error := by
  induction bindings generalizing p with
  | nil => cases herror
  | cons binding bindings ih =>
    rcases outcome_bind_iff.mp herror with hsettle | ⟨_, p', -, hrest⟩
    · refine ⟨binding, List.mem_cons_self, ?_⟩
      unfold settle at hsettle
      cases hroute : binding.route with
      | some route =>
        simp only [hroute] at hsettle
        cases hsettle
      | none =>
        simp only [hroute] at hsettle
        rcases outcome_bind_iff.mp hsettle with hfallback | ⟨_, _, -, hrest⟩
        · exact ⟨rfl, p, hfallback⟩
        · cases hrest
    · rcases outcome_bind_iff.mp hrest with hadd | ⟨_, _, -, hrest⟩
      · cases hadd
      · rcases outcome_bind_iff.mp hrest with hclose | ⟨_, _, -, hlast⟩
        · obtain ⟨stranded, hmem, hstranded⟩ := ih hclose
          exact ⟨stranded, List.mem_cons_of_mem _ hmem, hstranded⟩
        · cases hlast

end

variable {sketch inner : Sketch} {p : Progress} {binding : Binding} {sites : List Site} {steps : List Step}
  {error : RoutingError}

/-- A table without a route has no values. -/
theorem Weighed.values_of_unrouted {plain : Binding} (h : Weighed setting plain binding)
    (hroute : binding.route = none) : plain.values setting = [] := by
  refine List.eq_nil_iff_forall_not_mem.mpr fun value hvalue => ?_
  obtain ⟨route, hrouted, -⟩ := h.leads value hvalue
  simp [hroute] at hrouted

/-- What a table without values has heard waits for parameters, unless values are disabled. -/
theorem deferred_of_unvalued {plain : Binding} (hvalues : plain.values setting = [])
    (hon : setting.overrides.sqlRoutingDisabled = false) {source : RouteSource} (hsource : source ∈ plain.sources)
    (hfits : source.Fits setting.options.maxBetweenSpan setting.params) : ¬source.Bound setting.params := by
  intro hbound
  obtain ⟨value, hdenotes⟩ := hfits.denotes hbound
  have hmem := (Binding.mem_values hon).mpr ⟨source, hsource, mem_values.mpr hdenotes⟩
  simp [hvalues] at hmem

/-- A table hears the sources of all predicates on its keys. -/
theorem mem_hear {made : Binding} {predicate : KeyPredicate} {evidence : Evidence} {source : RouteSource}
    (hstep : Step.key predicate ∈ steps) (hkey : predicate.column.key ∈ made.lookupKeys)
    (hevidence : evidence ∈ predicate.evidence) (hsource : evidence.source? setting.scan = some source) :
    source ∈ (made.hear setting.scan steps).sources := by
  refine List.mem_append_right _ (List.mem_flatMap.mpr ⟨_, hstep, ?_⟩)
  rw [Step.told, if_pos hkey]
  exact List.mem_filterMap.mpr ⟨evidence, hevidence, hsource⟩

/-- All evidence on a key of a bound table has a source. -/
theorem source_of_permitted {bindings : List Binding} {made : Binding} {predicate : KeyPredicate}
    (h : Step.allPermitted setting bindings steps) (hmade : made ∈ bindings)
    (hstep : Step.key predicate ∈ steps) (hkey : predicate.column.key ∈ made.lookupKeys) :
    ∀ evidence ∈ predicate.evidence, ∃ source, evidence.source? setting.scan = some source := by
  have hpos : 0 < claimants bindings predicate.column.key :=
    List.countP_pos_iff.mpr ⟨made, hmade, decide_eq_true hkey⟩
  rcases Step.allPermitted_iff.mp h _ hstep with hnone | ⟨-, -, hsources⟩
  · omega
  · exact hsources

/-- A table that is without a route when its scope closes has heard no value that counts. -/
theorem Follows.unvalued (h : Follows setting inner p)
    (hrun : (sketch.enter (Site.binding? setting) sites).run setting.scan (Site.binding? setting) steps = some inner)
    (hbinding : binding ∈ p.scope.bindings) (hroute : binding.route = none) :
    ∃ site ∈ sites, ∃ made, site.binding? setting = some made ∧ made.schema = binding.schema ∧
      made.table = binding.table ∧ made.column = binding.column ∧
      (setting.overrides.sqlRoutingDisabled = true ∨ ∀ predicate, Step.key predicate ∈ steps →
        predicate.column.key ∈ made.lookupKeys → ∀ evidence ∈ predicate.evidence, evidence.Deferred setting) := by
  have hentered : Sketch.Over (setting.bindingsOf sites) (sketch.enter (Site.binding? setting) sites) :=
    .enter sketch sites
  have hpermitted := (Sketch.Over.run_iff steps hentered).mp ⟨inner, hrun⟩
  obtain ⟨hover, -⟩ := Sketch.Over.run steps hentered hrun
  obtain ⟨plain, hplain, hweighed⟩ := exists_left_of_mem h.bindings hbinding
  obtain ⟨_, hbound, hheard⟩ := List.mem_map.mp (hover.bindings ▸ List.mem_map_of_mem hplain)
  obtain ⟨site, hsite, hmade⟩ := List.mem_filterMap.mp hbound
  obtain ⟨made, hsome, rfl⟩ := Option.map_eq_some_iff.mp ((setting.bindingOf?_eq site).symm.trans hmade)
  have hsame {α : Type} {f : Binding → α} (hbare : ∀ b, f b.bare = f b) (hplain : ∀ b, f b.plain = f b)
      (hhear : ∀ b, f (b.hear setting.scan steps) = f b) : f made = f binding := by
    rw [← hplain made, ← hhear, hheard, hplain, ← hbare plain, ← hweighed.bare, hbare]
  refine ⟨site, hsite, made, hsome, hsame (fun _ => rfl) (fun _ => rfl) fun _ => rfl,
    hsame (fun _ => rfl) (fun _ => rfl) fun _ => rfl, hsame (fun _ => rfl) (fun _ => rfl) fun _ => rfl, ?_⟩
  cases hoff : setting.overrides.sqlRoutingDisabled with
  | true => exact .inl rfl
  | false =>
    refine .inr fun predicate hstep hkey evidence hevidence => ?_
    obtain ⟨source, hsource⟩ := source_of_permitted hpermitted hbound hstep hkey evidence hevidence
    have hmem : source ∈ plain.sources := by
      have hmem : source ∈ (made.plain.hear setting.scan steps).sources := mem_hear hstep hkey hevidence hsource
      rwa [hheard] at hmem
    exact ⟨source, hsource, deferred_of_unvalued (hweighed.values_of_unrouted hroute) hoff hmem
      (hweighed.fits source hmem)⟩

/-- A table that is missing when its scope closes is stranded in the block of that scope. -/
theorem Follows.strands (h : Follows setting inner p)
    (hrun : (sketch.enter (Site.binding? setting) sites).run setting.scan (Site.binding? setting) steps = some inner)
    (hserved : setting.Serving) {aliases : Bool} {q : Progress}
    (herror : outcome (closeScope setting aliases p.scope.bindings) q = .error error) :
    ∃ binding, Block.Strands setting ⟨aliases, sites, steps⟩ binding ∧ Missing binding error := by
  obtain ⟨binding, hbinding, hroute, _, hfallback⟩ := closeScope_error herror
  obtain ⟨site, hsite, made, hmade, hschema, htable, hcolumn, hunvalued⟩ := h.unvalued hrun hbinding hroute
  have hmadeServed := hserved site made hmade
  rw [hschema, htable] at hmadeServed
  obtain ⟨hundecided, hplain, hmissing⟩ := fallbackRoute_error hmadeServed hfallback
  refine ⟨made, ⟨⟨site, hsite, hmade⟩, hunvalued, ?_, ?_⟩, ?_⟩
  · rwa [hschema, htable]
  · rwa [hschema, htable]
  · rwa [Missing, hcolumn, htable]

mutual

theorem runStep_strands (hserved : setting.Serving) : ∀ (step : Step) {depth : Nat} {sketch : Sketch} {p : Progress}
    {error : RoutingError}, Follows setting sketch p →
      (∀ plain ∈ sketch.scope.bindings, setting.Serves plain.schema plain.table.value) →
        outcome (runStep setting depth step) p = .error error → error.Routeless →
          ∃ block ∈ step.blocks, ∃ binding, block.Strands setting binding ∧ Missing binding error
  | .key predicate, _, _, _, _, h, hopen, herror, hrouteless => by
    refine absurd hrouteless (onKey_finds predicate (fun binding hbinding => ?_) herror)
    obtain ⟨plain, hplain, hweighed⟩ := exists_left_of_mem h.bindings hbinding
    exact serves_of_bare hweighed.bare (hopen plain hplain)
  | .other left operator text, _, _, _, _, _, _, herror, hrouteless =>
    absurd hrouteless (onOther_finds left operator text _ _ herror)
  | .scope aliases sites steps, depth, sketch, p, _, h, hopen, herror, hrouteless => by
    obtain ⟨p₀, hbind, hentered, hkept⟩ := bindSites_run setting (depth + 1) sites { p with scope := {} }
    have h₀ := h.enter hentered hkept
    rcases outcome_bind_iff.mp herror with hinner | ⟨⟨_, scope⟩, _, hscope, hclose⟩
    · have hsteps := outcome_inScope_error hinner
      rw [outcome_bind hbind] at hsteps
      have hfresh : ∀ plain ∈ (sketch.enter (Site.binding? setting) sites).scope.bindings,
          setting.Serves plain.schema plain.table.value := by
        intro plain hplain
        rw [Sketch.enter, Scope.enter_bindings] at hplain
        obtain ⟨site, -, hsite⟩ := List.mem_filterMap.mp hplain
        exact hserved site plain hsite
      obtain ⟨block, hblock, hstrands⟩ := runSteps_strands hserved steps h₀ hfresh hsteps hrouteless
      exact ⟨block, List.mem_cons_of_mem _ hblock, hstrands⟩
    · obtain ⟨p', hsteps, hleft, -⟩ := inScope_iff.mp hscope
      obtain rfl : scope = p'.scope := hleft
      obtain ⟨_, _, hbind', hsteps⟩ := bind_iff.mp hsteps
      cases hbind.symm.trans hbind'
      obtain ⟨inner, hsketch, h'⟩ := h₀.run steps hsteps
      rcases outcome_bind_iff.mp hclose with hclose | ⟨_, _, -, hlast⟩
      · exact ⟨_, List.mem_cons_self, h'.strands hsketch hserved hclose⟩
      · cases hlast

/-- A script ends for want of a route only over a stranded table. -/
theorem runSteps_strands (hserved : setting.Serving) : ∀ (steps : List Step) {depth : Nat} {sketch : Sketch}
    {p : Progress} {error : RoutingError}, Follows setting sketch p →
      (∀ plain ∈ sketch.scope.bindings, setting.Serves plain.schema plain.table.value) →
        outcome (runSteps setting depth steps) p = .error error → error.Routeless →
          ∃ block ∈ Step.allBlocks steps, ∃ binding, block.Strands setting binding ∧ Missing binding error
  | [], _, _, _, _, _, _, herror, _ => by cases herror
  | step :: steps, _, sketch, _, _, h, hopen, herror, hrouteless => by
    rcases outcome_bind_iff.mp herror with hstep | ⟨_, p', hstep, hrest⟩
    · obtain ⟨block, hblock, hstrands⟩ := runStep_strands hserved step h hopen hstep hrouteless
      exact ⟨block, List.mem_append_left _ hblock, hstrands⟩
    · obtain ⟨between, hbetween, h'⟩ := h.step step hstep
      have hopen' : ∀ plain ∈ between.scope.bindings, setting.Serves plain.schema plain.table.value := by
        intro plain hplain
        obtain ⟨before, hbefore, hextends⟩ :=
          exists_left_of_mem (Sketch.step_grows step hbetween).bindings hplain
        rw [hextends.schema, hextends.table]
        exact hopen before hbefore
      obtain ⟨block, hblock, hstrands⟩ := runSteps_strands hserved steps h' hopen' hrest hrouteless
      exact ⟨block, List.mem_append_right _ hblock, hstrands⟩

end

end Walk

/-! ### Statements -/

theorem routeStatement_outcome {error : RoutingError}
    (h : (Router.routeStatement setting statement).result = .error error) :
    outcome (runSteps setting 0 statement.steps) {} = .error error := by
  cases hrun : outcome (runSteps setting 0 statement.steps) {} with
  | ok result =>
    obtain ⟨routed, hrouted, -⟩ := routeStatement_ok hrun
    cases h.symm.trans hrouted
  | error other =>
    cases h.symm.trans (routeStatement_error hrun)
    rfl

/-- Under modulo rules and a default schema the engine never fails, and no route is missing but that of a table
    whose predicates all wait for parameters, or count for nothing, whose rule has several destinations, and that has
    no override. -/
theorem missing_routes_stranded (set : RuleSet) (hengine : setting.engine = set.engine) {default : String}
    (hdefault : setting.options.defaultSchema = some default) :
    (∀ error, (Router.routeStatement setting statement).result ≠ .error (.engine error)) ∧
      ∀ fault, (Router.routeStatement setting statement).result = .error (.notFound fault) →
        ∃ block ∈ statement.blocks, ∃ binding rule, block.Strands setting binding ∧
          set.find? binding.schema binding.table.value = some rule ∧ rule.isSingle = false ∧
          (fault = .noPredicate binding.column ∨ fault = .noValue binding.column binding.table.value) := by
  have hserving : setting.Serving := by
    intro site binding hsite
    obtain ⟨-, -, -, -, hserves⟩ := Site.served hengine hdefault hsite
    exact hserves
  have hstrands {error : RoutingError} (h : (Router.routeStatement setting statement).result = .error error)
      (hrouteless : error.Routeless) :
      ∃ block ∈ statement.blocks, ∃ binding, block.Strands setting binding ∧ Missing binding error :=
    runSteps_strands hserving statement.steps (Follows.start setting) (fun _ hnone => absurd hnone List.not_mem_nil)
      (routeStatement_outcome h) hrouteless
  constructor
  · intro error h
    obtain ⟨-, -, binding, -, hmissing | hmissing⟩ := hstrands h trivial
    · cases hmissing
    · cases hmissing
  · intro fault h
    obtain ⟨block, hblock, binding, hstranded, hmissing⟩ := hstrands h trivial
    obtain ⟨site, -, hsite⟩ := hstranded.bound
    obtain ⟨schema, rule, hschema, hrule, -⟩ := Site.served hengine hdefault hsite
    obtain ⟨found, hfound, hsingle⟩ := RuleSet.route_none hrule setting.context
    have hundecided := hstranded.undecided
    rw [hengine, hschema, hfound] at hundecided
    refine ⟨block, hblock, binding, rule, hstranded, by rw [hschema, hrule], ?_, ?_⟩
    · rw [← hsingle, Except.ok.inj hundecided]
      rfl
    · exact hmissing.imp RoutingError.notFound.inj RoutingError.notFound.inj

namespace Sample

/-- Orders in four tables by their `id`. -/
def modulo : RuleSet := ⟨[.make none "orders" (some "id") 4]⟩

/-- What statements over these orders are routed with, while no parameter is bound. -/
def unbound : Setting :=
  Router.setting { engine := modulo.engine, options := { defaultSchema := some "main" } } [] .empty {} .empty

/-- `SELECT total FROM orders WHERE id = ?1`. -/
def awaiting : Statement :=
  .query (query (.select (select [orders] (.binary id .eq (.literal (.placeholder "?1" ⟨1, 36⟩))))))

end Sample

/-- The orders are stranded while their only parameter is unbound. -/
theorem missing_routes_stranded_awaiting :
    Sample.unbound.engine = Sample.modulo.engine ∧ Sample.unbound.options.defaultSchema = some "main" ∧
      (Router.routeStatement Sample.unbound Sample.awaiting).result =
        .error (.notFound (.noValue "orders.id" "orders")) ∧
      ∃ block ∈ Sample.awaiting.blocks, ∃ binding rule, block.Strands Sample.unbound binding ∧
        Sample.modulo.find? binding.schema binding.table.value = some rule ∧ rule.isSingle = false ∧
        "orders" = binding.table.value := by
  have hmissing : (Router.routeStatement Sample.unbound Sample.awaiting).result =
      .error (.notFound (.noValue "orders.id" "orders")) := rfl
  have hengine : Sample.unbound.engine = Sample.modulo.engine := rfl
  have hdefault : Sample.unbound.options.defaultSchema = some "main" := rfl
  obtain ⟨-, hstrands⟩ := missing_routes_stranded Sample.modulo hengine hdefault
  obtain ⟨block, hblock, binding, rule, hstranded, hrule, hmany, hfault | hfault⟩ := hstrands _ hmissing
  · cases hfault
  · have htable := (RouteFault.noValue.inj hfault).2
    exact ⟨hengine, hdefault, hmissing, block, hblock, binding, rule, hstranded, hrule, hmany, htable⟩

end ShardRouting
