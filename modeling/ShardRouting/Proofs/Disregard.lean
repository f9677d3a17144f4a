import ShardRouting.Proofs.Rewriting

/-! Values in statements that count for nothing. When the overrides disable them, parameters route no table any
    more, but a range is still refused for the values of its bounds. Up to the log, walks under different
    parameters do the same until the first such range. -/

namespace ShardRouting
open Sql Walk

/-! ### Refused ranges -/

/-- Why the integers between two values are refused, if they are. -/
def rangeFault? (limit : Nat) (low high : ShardValue) : Option PredicateFault :=
  match low.toWord?, high.toWord? with
  | some low, some high =>
    if high < low then some .emptyRange
    else if high.toInt - low.toInt + 1 > limit then some (.wideRange (high.toInt - low.toInt + 1) limit)
    else none
  | _, _ => some .boundsNotIntegers

/-- A range on a column: its predicate as messages quote it, and where its bounds come from. -/
structure KeyRange where
  text : String
  low : ValueSource
  high : ValueSource

/-- The error of a range, once both its bounds are known. -/
def KeyRange.refusal (limit : Nat) (params : Params) (range : KeyRange) : Option RoutingError :=
  match range.low.value? params, range.high.value? params with
  | some low, some high => (rangeFault? limit low high).map (.predicate range.text)
  | _, _ => none

/-- The error of the first range that is refused. -/
def firstRefusal (limit : Nat) (params : Params) (ranges : List KeyRange) : Option RoutingError :=
  ranges.findSome? (KeyRange.refusal limit params)

theorem firstRefusal_append (limit : Nat) (params : Params) (ranges rest : List KeyRange) :
    firstRefusal limit params (ranges ++ rest) =
      (firstRefusal limit params ranges).or (firstRefusal limit params rest) :=
  List.findSome?_append

/-- A range counts when both its bounds can be read. -/
def Evidence.ranges (scan : Scan) : Evidence → List KeyRange
  | .item _ => []
  | .range text low high => match valueSource? scan low, valueSource? scan high with
    | some low, some high => [⟨text, low, high⟩]
    | _, _ => []

mutual

/-- The ranges of a step, in the order in which they are read. -/
def Step.ranges (scan : Scan) : Step → List KeyRange
  | .key predicate => predicate.evidence.flatMap (Evidence.ranges scan)
  | .other .. => []
  | .scope _ _ steps => Step.allRanges scan steps

def Step.allRanges (scan : Scan) : List Step → List KeyRange
  | [] => []
  | step :: steps => step.ranges scan ++ Step.allRanges scan steps

end

/-- The ranges of a statement, in the order in which they are read. -/
def Sql.Statement.ranges (scan : Scan) (statement : Statement) : List KeyRange := Step.allRanges scan statement.steps

/-- A progress without its log. -/
def Progress.unlogged (p : Progress) : Progress := { p with log := [] }

theorem Progress.scope_of_unlogged {p q : Progress} (h : p.unlogged = q.unlogged) : p.scope = q.scope :=
  (Progress.mk.inj h).1

namespace Walk

variable {α β : Type} {p q : Progress}

/-! ### What a step comes to -/

/-- The result of a step with the progress behind it, or its error, the log aside. -/
def outcome (x : Walk α) (p : Progress) : Except RoutingError (α × Progress) :=
  match x p with
  | .ok a q => .ok (a, q.unlogged)
  | .error error _ => .error error

theorem outcome_ok {x : Walk α} {a : α} {r : Progress} :
    outcome x p = .ok (a, r) ↔ ∃ q, x p = .ok a q ∧ q.unlogged = r := by
  unfold outcome
  cases x p <;> simp

theorem outcome_error {x : Walk α} {error : RoutingError} :
    outcome x p = .error error ↔ ∃ q, x p = .error error q := by
  unfold outcome
  cases x p <;> simp

theorem outcome_bind {x : Walk α} {f : α → Walk β} {a : α} (h : x p = .ok a q) :
    outcome (x >>= f) p = outcome (f a) q := by
  have hbind : (x >>= f) p = f a q := by
    change EStateM.bind x f p = _
    unfold EStateM.bind
    rw [h]
  unfold outcome
  rw [hbind]

theorem outcome_bind_error {x : Walk α} {f : α → Walk β} {error : RoutingError} (h : outcome x p = .error error) :
    outcome (x >>= f) p = .error error := by
  obtain ⟨q, h⟩ := outcome_error.mp h
  refine outcome_error.mpr ⟨q, ?_⟩
  change EStateM.bind x f p = _
  unfold EStateM.bind
  rw [h]

/-- An inner scope does not see the outer one, and gives it back. -/
theorem outcome_inScope (x : Walk α) (p : Progress) :
    outcome (inScope x) p = (outcome x { p with scope := {} }).map fun (a, q) =>
      ((a, q.scope), { q with scope := p.scope }) := by
  cases h : x { p with scope := {} } with
  | ok a q =>
    have hscope : inScope x p = .ok (a, q.scope) { q with scope := p.scope } := inScope_iff.mpr ⟨q, h, rfl, rfl⟩
    unfold outcome
    rw [h, hscope]
    rfl
  | error error q =>
    have hinner : outcome x { p with scope := {} } = .error error := outcome_error.mpr ⟨q, h⟩
    have hscope : outcome (inScope x) p = outcome (x >>= fun a => do
        let inner := (← get).scope
        modify fun progress => { progress with scope := p.scope }
        return (a, inner)) { p with scope := {} } := rfl
    rw [hscope, outcome_bind_error hinner, hinner]
    rfl

/-- A step gives `a` and writes to the log at most. -/
def Passes (x : Walk α) (a : α) : Prop := ∀ p, outcome x p = .ok (a, p.unlogged)

namespace Passes

theorem pure (a : α) : Passes (Pure.pure a) a := fun _ => rfl

theorem tell (event : Event) : Passes (Walk.tell event) () := fun _ => rfl

theorem bind {x : Walk α} {f : α → Walk β} {a : α} {b : β} (hx : Passes x a) (hf : Passes (f a) b) :
    Passes (x >>= f) b := by
  intro p
  obtain ⟨q, h, hq⟩ := outcome_ok.mp (hx p)
  rw [outcome_bind h, hf q, hq]

end Passes

/-! ### Screened parameters -/

/-- A step that works with parameters comes to the same under all of them, unless one of the `ranges` that it
    reaches is refused. -/
def Screens (limit : Nat) (ranges : List KeyRange) (x : Params → Walk α) : Prop :=
  ∀ p : Progress, ∃ reached result, reached.Sublist ranges ∧ ∀ (P : Params) (p' : Progress),
    p'.unlogged = p.unlogged → outcome (x P) p' = (firstRefusal limit P reached).elim result .error

namespace Screens

variable {limit : Nat} {ranges rest : List KeyRange}

/-- A step that takes no account of parameters, nor of the log, reaches no range. -/
theorem blind {x : Params → Walk α} (f : Progress → Except RoutingError (α × Progress))
    (h : ∀ P p, outcome (x P) p = f p.unlogged) : Screens limit [] x :=
  fun p => ⟨[], f p.unlogged, .slnil, fun P p' hp => hp ▸ h P p'⟩

theorem passes {x : Params → Walk α} {a : α} (h : ∀ P, Passes (x P) a) : Screens limit [] x :=
  blind (fun p => .ok (a, p)) h

theorem pure (a : α) : Screens limit [] fun _ => (Pure.pure a : Walk α) := passes fun _ => .pure a

theorem tell (event : Event) : Screens limit [] fun _ => Walk.tell event := passes fun _ => .tell event

theorem throw (error : RoutingError) : Screens limit [] fun _ => (throw error : Walk α) :=
  blind (fun _ => .error error) fun _ _ => rfl

theorem widen {x : Params → Walk α} (h : Screens limit ranges x) (hsub : ranges.Sublist rest) :
    Screens limit rest x := by
  intro p
  obtain ⟨reached, result, hreached, houtcome⟩ := h p
  exact ⟨reached, result, hreached.trans hsub, houtcome⟩

theorem bind {x : Params → Walk α} {f : Params → α → Walk β} (hx : Screens limit ranges x)
    (hf : ∀ a, Screens limit rest fun P => f P a) : Screens limit (ranges ++ rest) fun P => x P >>= f P := by
  intro p
  obtain ⟨reached, result, hsub, hfirst⟩ := hx p
  cases result with
  | error error =>
    refine ⟨reached, .error error, hsub.trans (List.sublist_append_left ranges rest), fun P p' hp => ?_⟩
    have hx' := hfirst P p' hp
    cases hrefused : firstRefusal limit P reached with
    | none => exact outcome_bind_error (by rw [hx', hrefused]; rfl)
    | some refusal => exact outcome_bind_error (by rw [hx', hrefused]; rfl)
  | ok between =>
    obtain ⟨a, q⟩ := between
    obtain ⟨more, result, hsub', hsecond⟩ := hf a q
    refine ⟨reached ++ more, result, hsub.append hsub', fun P p' hp => ?_⟩
    have hx' := hfirst P p' hp
    rw [firstRefusal_append]
    cases hrefused : firstRefusal limit P reached with
    | none =>
      rw [hrefused] at hx'
      obtain ⟨q', hrun, hq'⟩ := outcome_ok.mp hx'
      have hsame : q'.unlogged = q.unlogged := by rw [← hq']; rfl
      rw [outcome_bind hrun, hsecond P q' hsame, Option.none_or]
    | some refusal =>
      rw [hrefused] at hx'
      exact outcome_bind_error hx'

/-- What follows reaches no more ranges. -/
theorem follow {x : Params → Walk α} {f : Params → α → Walk β} (hx : Screens limit ranges x)
    (hf : ∀ a, Screens limit [] fun P => f P a) : Screens limit ranges fun P => x P >>= f P := by
  have h := hx.bind hf
  rwa [List.append_nil] at h

theorem scope {x : Params → Walk α} (hx : Screens limit ranges x) : Screens limit ranges fun P => inScope (x P) := by
  intro p
  obtain ⟨reached, result, hsub, hinner⟩ := hx { p with scope := {} }
  refine ⟨reached, result.map fun (a, q) => ((a, q.scope), { q with scope := p.scope }), hsub, fun P p' hp => ?_⟩
  have hp' : ({ p' with scope := {} } : Progress).unlogged = ({ p with scope := {} } : Progress).unlogged :=
    congrArg (fun q : Progress => { q with scope := {} }) hp
  have hscope : p'.scope = p.scope := Progress.scope_of_unlogged hp
  rw [outcome_inScope, hinner P _ hp', hscope]
  cases firstRefusal limit P reached <;> rfl

end Screens

section
variable {router : Router} {context : RouteContext} {overrides : Overrides} {scan : Scan} {binding : Binding}
  {column : ColumnRef} {limit : Nat}

/-! ### Steps without parameters -/

theorem boundTable_screens (column : ColumnRef) : Screens limit [] fun _ => boundTable column :=
  .blind (outcome (boundTable column)) fun _ p => by
    have hscope : p.unlogged.scope = p.scope := rfl
    unfold outcome
    rw [boundTable_eq, boundTable_eq, hscope]
    cases p.scope.resolve column.key <;> rfl

theorem updateTable_screens (index : Nat) (binding : Binding) : Screens limit [] fun _ => updateTable index binding :=
  .blind (outcome (updateTable index binding)) fun _ _ => rfl

theorem onOther_screens (left : Expr) (operator text : String) :
    Screens limit [] fun _ => onOther left operator text :=
  .blind (outcome (onOther left operator text)) fun _ p => by
    unfold onOther
    cases ColumnRef.ofExpr? left with
    | none => rfl
    | some column =>
      have hscope : p.unlogged.scope = p.scope := rfl
      simp only [outcome_bind (rfl : (get : Walk Progress) p = .ok p p),
        outcome_bind (rfl : (get : Walk Progress) p.unlogged = .ok p.unlogged p.unlogged), hscope]
      cases p.scope.resolve column.key <;> rfl

theorem bindSites_screens (sites : List Site) (depth : Nat) :
    Screens limit [] fun P => bindSites (router.setting context overrides scan P) depth sites := by
  let scopeAfter (p : Progress) := p.scope.enter (Site.binding? (router.setting context overrides scan {})) sites
  refine .blind (fun p => .ok ((), { p with scope := scopeAfter p })) fun P p => outcome_ok.mpr ?_
  obtain ⟨q, hrun, hscope, hrouted⟩ := bindSites_run (router.setting context overrides scan P) depth sites p
  refine ⟨q, hrun, ?_⟩
  have hbinding : Site.binding? (router.setting context overrides scan P) =
      Site.binding? (router.setting context overrides scan {}) := rfl
  rw [Progress.unlogged, hscope, hrouted, bindSites_schemas hrun, hbinding]
  rfl

theorem ask_screens (schema : Option String) (table : String) (value : Option ShardValue) :
    Screens limit [] fun P => ask (router.setting context overrides scan P) schema table value := by
  refine (Screens.tell _).bind fun _ => ?_
  simp only [Router.setting]
  cases router.engine.route context schema table value with
  | ok route => exact .pure route
  | error error => exact .throw _

theorem fallbackRoute_screens (binding : Binding) :
    Screens limit [] fun P => fallbackRoute (router.setting context overrides scan P) binding := by
  refine (ask_screens binding.schema binding.table.value none).bind fun found => ?_
  cases found with
  | some route => exact (Screens.tell _).bind fun _ => .pure route
  | none =>
    simp only [Router.setting]
    cases overrides.find? binding.schema binding.table.value with
    | some entry =>
      cases entry with
      | route route => exact (Screens.tell _).bind fun _ => .pure route
      | value value =>
        refine (Screens.tell _).bind fun _ => ?_
        refine (ask_screens binding.schema binding.table.value (some value)).bind fun found => ?_
        cases found with
        | some route => exact .pure route
        | none => exact .throw _
    | none => cases binding.seenKey <;> exact .throw _

theorem settle_screens (binding : Binding) :
    Screens limit [] fun P => settle (router.setting context overrides scan P) binding := by
  unfold settle
  cases binding.route with
  | some route => exact .pure _
  | none =>
    refine (fallbackRoute_screens binding).bind fun route => ?_
    exact (Screens.blind (outcome (addSchema route.schema)) fun _ _ => rfl).bind fun _ => .pure _

theorem closeScope_screens (aliases : Bool) (bindings : List Binding) :
    Screens limit [] fun P => closeScope (router.setting context overrides scan P) aliases bindings := by
  induction bindings with
  | nil => exact .pure []
  | cons binding bindings ih =>
    refine (settle_screens binding).bind fun routed => ?_
    refine (Screens.blind (outcome (addRouted routed)) fun _ _ => rfl).bind fun _ => ?_
    refine ih.bind fun relocations => ?_
    simp only [Router.setting]
    exact .pure _

/-! ### Steps under disabled values -/

theorem addSource_disabled {setting : Setting} (hoff : setting.overrides.sqlRoutingDisabled = true)
    (source : RouteSource) (binding : Binding) : addSource setting source binding = binding :=
  if_pos hoff

theorem routeValue_passes {setting : Setting} (hoff : setting.overrides.sqlRoutingDisabled = true)
    (binding : Binding) (value : ShardValue) : Passes (routeValue setting binding value) binding := by
  rw [routeValue, if_pos hoff]
  exact (Passes.tell _).bind (.pure binding)

theorem routeValues_passes {setting : Setting} (hoff : setting.overrides.sqlRoutingDisabled = true)
    (binding : Binding) (values : List ShardValue) : Passes (routeValues setting binding values) binding := by
  induction values with
  | nil => exact .pure binding
  | cons value values ih => exact (routeValue_passes hoff binding value).bind ih

variable (router context overrides column) in
/-- Whether an expression has a value does not depend on the parameters. -/
theorem readFor_error {e : Expr} (h : valueSource? scan e = none) :
    ∃ error, ∀ P, readFor (router.setting context overrides scan P) column e = throw error := by
  unfold valueSource? at h
  cases hread : readValue scan {} e with
  | ok reading => simp [hread] at h
  | error part =>
    refine ⟨.valueType part.text column.display, fun P => ?_⟩
    have hread' : readValue scan P e = .error part := by
      rw [readValue_eq, hread]
      rfl
    simp only [readFor, Router.setting, hread']

theorem rangeOf_fault {text : String} {low high : ShardValue} {fault : PredicateFault}
    (h : rangeFault? limit low high = some fault) : rangeOf limit text low high = refuse text fault := by
  unfold rangeFault? at h
  unfold rangeOf
  cases hlow : low.toWord? with
  | none =>
    simp only [hlow] at h
    cases h
    rfl
  | some first =>
    cases hhigh : high.toWord? with
    | none =>
      simp only [hlow, hhigh] at h
      cases h
      rfl
    | some last =>
      simp only [hlow, hhigh] at h
      split at h
      · rename_i hlt
        cases h
        simp only [if_pos hlt, refuse_bind]
      · rename_i hge
        split at h
        · rename_i hwide
          cases h
          simp only [if_neg hge, if_pos hwide, refuse_bind]
        · cases h

theorem rangeOf_whole (text : String) {low high : ShardValue} (h : rangeFault? limit low high = none) :
    ∃ values, rangeOf limit text low high = pure values := by
  unfold rangeFault? at h
  unfold rangeOf
  cases hlow : low.toWord? with
  | none => simp [hlow] at h
  | some first =>
    cases hhigh : high.toWord? with
    | none => simp [hlow, hhigh] at h
    | some last =>
      simp only [hlow, hhigh] at h
      split at h
      · cases h
      · rename_i hge
        split at h
        · cases h
        · rename_i hnarrow
          refine ⟨integersBetween first last, ?_⟩
          simp only [if_neg hge, if_neg hnarrow]

variable (router context overrides column) in
theorem readFor_source {e : Expr} {source : ValueSource} (h : valueSource? scan e = some source) (P : Params) :
    readFor (router.setting context overrides scan P) column e = pure (Reading.of P source) :=
  readFor_eq h

theorem routeItem_passes {setting : Setting} (hoff : setting.overrides.sqlRoutingDisabled = true) {e : Expr}
    {source : ValueSource} (hsource : valueSource? setting.scan e = some source) :
    Passes (routeItem setting column binding e) binding := by
  rw [routeItem, readFor_eq hsource, pure_bind]
  cases hvalue : source.value? setting.params with
  | some value =>
    rw [Reading.of_known hvalue]
    refine (routeValue_passes hoff binding value).bind ?_
    rw [addSource_disabled hoff]
    exact .pure binding
  | none =>
    obtain ⟨key, -, hread⟩ := Reading.of_unknown hvalue
    rw [hread]
    refine (Passes.tell _).bind ?_
    rw [addSource_disabled hoff]
    exact .pure binding

/-- Nothing comes of a range but its refusal. -/
theorem routeRange_outcome {setting : Setting} (hoff : setting.overrides.sqlRoutingDisabled = true) (text : String)
    (low high : ValueSource) (p : Progress) :
    outcome (routeRange setting text binding (Reading.of setting.params low) (Reading.of setting.params high)) p =
      (KeyRange.refusal setting.options.maxBetweenSpan setting.params ⟨text, low, high⟩).elim
        (.ok (binding, p.unlogged)) .error := by
  rcases ValueSource.known_or_unknown low high setting.params with ⟨lowValue, highValue, hlow, hhigh⟩ | hunknown
  · rw [routeRange_known hlow hhigh, KeyRange.refusal]
    simp only [hlow, hhigh]
    cases hfault : rangeFault? setting.options.maxBetweenSpan lowValue highValue with
    | some fault =>
      rw [rangeOf_fault hfault, refuse_bind]
      rfl
    | none =>
      obtain ⟨values, hrange⟩ := rangeOf_whole text hfault
      rw [hrange, pure_bind]
      refine (Passes.bind (routeValues_passes hoff binding values) ?_ : Passes _ binding) p
      rw [addSource_disabled hoff]
      exact .pure binding
  · have hnone : KeyRange.refusal setting.options.maxBetweenSpan setting.params ⟨text, low, high⟩ = none := by
      unfold KeyRange.refusal
      rcases hunknown with h | h <;> simp [h]
    rw [routeRange_unknown hunknown, hnone]
    refine (Passes.bind (.tell _) ?_ : Passes _ binding) p
    rw [addSource_disabled hoff]
    exact .pure binding

variable (hoff : overrides.sqlRoutingDisabled = true)
include hoff

theorem weigh_screens (evidence : Evidence) :
    Screens router.options.maxBetweenSpan (evidence.ranges scan) fun P =>
      weigh (router.setting context overrides scan P) column binding evidence := by
  cases evidence with
  | item e =>
    simp only [weigh]
    cases hsource : valueSource? scan e with
    | none =>
      obtain ⟨error, herror⟩ := readFor_error router context overrides column hsource
      simp only [routeItem, herror]
      exact .throw error
    | some source => exact .passes fun P => routeItem_passes hoff hsource
  | range text low high =>
    simp only [weigh]
    cases hlow : valueSource? scan low with
    | none =>
      obtain ⟨error, herror⟩ := readFor_error router context overrides column hlow
      simp only [herror]
      exact (Screens.throw error).widen (List.nil_sublist _)
    | some lowSource =>
      have hreadLow := readFor_source router context overrides column hlow
      cases hhigh : valueSource? scan high with
      | none =>
        obtain ⟨error, herror⟩ := readFor_error router context overrides column hhigh
        simp only [hreadLow, pure_bind, herror]
        exact (Screens.throw error).widen (List.nil_sublist _)
      | some highSource =>
        have hreadHigh := readFor_source router context overrides column hhigh
        simp only [hreadLow, hreadHigh, pure_bind, Evidence.ranges, hlow, hhigh]
        intro p
        refine ⟨[⟨text, lowSource, highSource⟩], .ok (binding, p.unlogged), .refl _, fun P p' hp => ?_⟩
        rw [← hp, firstRefusal, List.findSome?_singleton]
        exact routeRange_outcome hoff text lowSource highSource p'

theorem weighAll_screens (evidence : List Evidence) : ∀ binding : Binding,
    Screens router.options.maxBetweenSpan (evidence.flatMap (Evidence.ranges scan)) fun P =>
      weighAll (router.setting context overrides scan P) column binding evidence := by
  induction evidence with
  | nil => exact fun binding => .pure binding
  | cons first rest ih =>
    intro binding
    rw [List.flatMap_cons]
    exact (weigh_screens hoff first).bind ih

theorem onKey_screens (predicate : KeyPredicate) :
    Screens router.options.maxBetweenSpan (predicate.evidence.flatMap (Evidence.ranges scan)) fun P =>
      onKey (router.setting context overrides scan P) predicate := by
  refine Screens.bind (boundTable_screens predicate.column) fun found => ?_
  cases found with
  | none => exact (Screens.pure ()).widen (List.nil_sublist _)
  | some found =>
    obtain ⟨index, binding⟩ := found
    simp only
    cases predicate.refusal with
    | some refusal => exact (Screens.throw _).widen (List.nil_sublist _)
    | none => exact (weighAll_screens hoff predicate.evidence _).follow fun after => updateTable_screens index after

end

/-! ### Scripts -/

section
variable {router : Router} {context : RouteContext} {overrides : Overrides} {scan : Scan}

mutual

theorem runStep_screens (hoff : overrides.sqlRoutingDisabled = true) : ∀ (step : Step) (depth : Nat),
    Screens router.options.maxBetweenSpan (step.ranges scan) fun P =>
      runStep (router.setting context overrides scan P) depth step
  | .key predicate, _ => onKey_screens hoff predicate
  | .other left operator text, _ => onOther_screens left operator text
  | .scope aliases sites steps, depth =>
    ((Screens.bind (bindSites_screens sites (depth + 1)) fun _ =>
      runSteps_screens hoff steps (depth + 1)).scope).follow fun (_, scope) =>
        (closeScope_screens aliases scope.bindings).bind fun _ => .pure ()

theorem runSteps_screens (hoff : overrides.sqlRoutingDisabled = true) : ∀ (steps : List Step) (depth : Nat),
    Screens router.options.maxBetweenSpan (Step.allRanges scan steps) fun P =>
      runSteps (router.setting context overrides scan P) depth steps
  | [], _ => .pure ()
  | step :: steps, depth => (runStep_screens hoff step depth).bind fun _ => runSteps_screens hoff steps depth

end
end

end Walk

/-! ### Statements -/

section
variable {setting : Setting} {statement : Statement}

theorem routeStatement_error {error : RoutingError}
    (h : outcome (runSteps setting 0 statement.steps) {} = .error error) :
    (Router.routeStatement setting statement).result = .error error := by
  have hruns : effect (walkStatement setting 0 statement) = _ := walkStatement_runs statement 0
  unfold Router.routeStatement Outcome.ofWalk EStateM.run
  cases hwalk : walkStatement setting 0 statement {} with
  | ok tree p =>
    have hrun : runSteps setting 0 statement.steps {} = .ok () p := hruns ▸ effect_iff.mpr ⟨tree, hwalk⟩
    cases h.symm.trans (outcome_ok.mpr ⟨p, hrun, rfl⟩)
  | error other p =>
    have hother : outcome (runSteps setting 0 statement.steps) {} = .error other :=
      hruns ▸ outcome_bind_error (outcome_error.mpr ⟨p, hwalk⟩)
    cases h.symm.trans hother
    rfl

theorem routeStatement_ok {u : Unit} {r : Progress}
    (h : outcome (runSteps setting 0 statement.steps) {} = .ok (u, r)) :
    ∃ routed, (Router.routeStatement setting statement).result = .ok routed ∧ routed.tables = r.routed := by
  obtain ⟨q, hrun, rfl⟩ := outcome_ok.mp h
  obtain ⟨routed, hrouted⟩ := routeStatement_of_run hrun
  obtain ⟨q', hrun', htables⟩ := routeStatement_run hrouted
  cases hrun.symm.trans hrun'
  exact ⟨routed, hrouted, htables.symm⟩

end

variable {router : Router} {context : RouteContext} {overrides : Overrides} {scan : Scan} {statement : Statement}

/-- When values in statements are disabled, what comes of a statement depends on the parameters only by the first
    range that they make the router refuse, among those that it reaches. -/
theorem disabled_decided_by_ranges (hoff : overrides.sqlRoutingDisabled = true) :
    ∃ reached, reached.Sublist (statement.ranges scan) ∧
      (∀ P Q, firstRefusal router.options.maxBetweenSpan P reached =
          firstRefusal router.options.maxBetweenSpan Q reached →
        (Router.routeStatement (router.setting context overrides scan P) statement).result =
          (Router.routeStatement (router.setting context overrides scan Q) statement).result) ∧
      ∀ P error, firstRefusal router.options.maxBetweenSpan P reached = some error →
        (Router.routeStatement (router.setting context overrides scan P) statement).result = .error error := by
  obtain ⟨reached, result, hsub, hsteps⟩ := Walk.runSteps_screens hoff statement.steps 0 {}
  have hrefused : ∀ P error, firstRefusal router.options.maxBetweenSpan P reached = some error →
      (Router.routeStatement (router.setting context overrides scan P) statement).result = .error error := by
    intro P error hfirst
    refine routeStatement_error ((hsteps P {} rfl).trans ?_)
    rw [hfirst]
    rfl
  refine ⟨reached, hsub, fun P Q hsame => ?_, hrefused⟩
  cases hfirst : firstRefusal router.options.maxBetweenSpan P reached with
  | some error => rw [hrefused P error hfirst, hrefused Q error (hsame ▸ hfirst)]
  | none =>
    have hP := hsteps P {} rfl
    have hQ := hsteps Q {} rfl
    rw [hfirst] at hP
    rw [← hsame, hfirst] at hQ
    cases result with
    | error error => rw [routeStatement_error hP, routeStatement_error hQ]
    | ok between =>
      obtain ⟨routed, hrouted, htables⟩ := routeStatement_ok hP
      obtain ⟨again, hagain, htables'⟩ := routeStatement_ok hQ
      have hnaming : (router.setting context overrides scan Q).naming =
          (router.setting context overrides scan P).naming := rfl
      rw [hrouted, hagain, routeStatement_unique hnaming hrouted hagain (htables'.trans htables.symm)]

namespace Sample

/-- Overrides that send the orders to `archive.orders`, whatever a statement says. -/
def forced : OverrideStore := archived.disable true

/-- `SELECT total FROM orders WHERE id BETWEEN ?1 AND 5`. -/
def spanned : Statement :=
  .query (query (.select (select [orders]
    (.between id false (.literal (.placeholder "?1" ⟨1, 42⟩)) (literal "5")))))

/-- The parameter `?1`. -/
def bound (n : Int64) : Params := .ofList [(.index 1, .int n)]

end Sample

/-- A statement without ranges is routed alike under all parameters. One with a range is routed alike where the range
    passes, with or without its bound, and is refused alike where the bound is beyond the other one. -/
theorem disabled_decided_by_ranges_spanned :
    Sample.forced.overrides.sqlRoutingDisabled = true ∧
      (∀ P Q, (Router.routeStatement (Sample.router.setting [] Sample.forced {} P) Sample.listed).result =
        (Router.routeStatement (Sample.router.setting [] Sample.forced {} Q) Sample.listed).result) ∧
      (Router.routeStatement (Sample.router.setting [] Sample.forced {} (Sample.bound 2)) Sample.spanned).result =
        (Router.routeStatement (Sample.router.setting [] Sample.forced {} .empty) Sample.spanned).result ∧
      (Router.routeStatement (Sample.router.setting [] Sample.forced {} (Sample.bound 10)) Sample.spanned).result =
        (Router.routeStatement (Sample.router.setting [] Sample.forced {} (Sample.bound 20)) Sample.spanned).result ∧
      (Router.routeStatement (Sample.router.setting [] Sample.forced {} (Sample.bound 20)) Sample.spanned).result =
        .error (.predicate "id BETWEEN ?1 AND 5" .emptyRange) := by
  have hoff : Sample.forced.overrides.sqlRoutingDisabled = true := rfl
  refine ⟨hoff, fun P Q => ?_, ?_⟩
  · obtain ⟨reached, hsub, halike, -⟩ := disabled_decided_by_ranges hoff
    have hnone : Sample.listed.ranges {} = [] := rfl
    rw [hnone, List.sublist_nil] at hsub
    subst hsub
    exact halike P Q rfl
  · obtain ⟨reached, hsub, halike, hrefused⟩ := disabled_decided_by_ranges hoff
    have hone : Sample.spanned.ranges {} = [⟨"id BETWEEN ?1 AND 5", .param (.index 1), .literal (.int 5)⟩] := rfl
    rw [hone, List.sublist_singleton] at hsub
    rcases hsub with rfl | rfl
    · -- the range is reached, since otherwise a bound would be as good as any other
      have hsame := halike (Sample.bound 2) (Sample.bound 10) rfl
      obtain ⟨routed, hpassed⟩ : ∃ routed, (Router.routeStatement
        (Sample.router.setting [] Sample.forced {} (Sample.bound 2)) Sample.spanned).result = .ok routed := ⟨_, rfl⟩
      have hfailed : (Router.routeStatement (Sample.router.setting [] Sample.forced {} (Sample.bound 10))
        Sample.spanned).result = .error (.predicate "id BETWEEN ?1 AND 5" .emptyRange) := rfl
      rw [hpassed, hfailed] at hsame
      cases hsame
    · exact ⟨halike _ _ rfl, halike _ _ rfl, hrefused _ _ rfl⟩

/-- The parameter routes nothing, and yet the statement fails for it. -/
theorem parameter_refused_though_disabled :
    Sample.forced.sqlRoutingDisabled = true ∧
      (∃ routed, (Router.routeStatement (Sample.router.setting [] Sample.forced {} (.ofList []))
        Sample.spanned).result = .ok routed ∧ routed.tables = [⟨none, "orders", ⟨"archive", "orders"⟩, []⟩]) ∧
      (Router.routeStatement (Sample.router.setting [] Sample.forced {} (.ofList [(.index 1, .int 10)]))
        Sample.spanned).result = .error (.predicate "id BETWEEN ?1 AND 5" .emptyRange) :=
  ⟨rfl, ⟨_, rfl, rfl⟩, rfl⟩

end ShardRouting
