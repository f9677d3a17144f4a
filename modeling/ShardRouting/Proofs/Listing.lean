import ShardRouting.Proofs.Disregard

/-! Lists of values. A list of items behind a shard key is worth the equalities of its items, one after the other:
    the list holds back what it has learned of its table until its last item, and no item looks at the table in
    between. -/

namespace ShardRouting
open Sql
namespace Walk

variable {α β : Type} {setting : Setting} {column : ColumnRef} {p q : Progress}

/-! ### Steps that do not look at the open scope -/

/-- A result with another open scope. -/
def rescope (scope : Scope) : EStateM.Result RoutingError Progress α → EStateM.Result RoutingError Progress α
  | .ok a p => .ok a { p with scope }
  | .error error p => .error error { p with scope }

/-- The open scope has no part in a step, and stays as it is. -/
def Blind (x : Walk α) : Prop := ∀ scope p, x { p with scope } = rescope scope (x p)

namespace Blind

theorem pure (a : α) : Blind (Pure.pure a) := fun _ _ => rfl

theorem throw (error : RoutingError) : Blind (MonadExcept.throw error : Walk α) := fun _ _ => rfl

theorem tell (event : Event) : Blind (Walk.tell event) := fun _ _ => rfl

theorem addSchema (schema : String) : Blind (Walk.addSchema schema) := fun _ _ => rfl

theorem bind {x : Walk α} {f : α → Walk β} (hx : Blind x) (hf : ∀ a, Blind (f a)) : Blind (x >>= f) := by
  intro scope p
  change EStateM.bind x f _ = rescope scope (EStateM.bind x f p)
  unfold EStateM.bind
  rw [hx scope p]
  cases x p with
  | ok a q => exact hf a scope q
  | error error q => rfl

theorem quiet {x : Walk α} (hx : Blind x) {a : α} (h : x p = .ok a q) : q.scope = p.scope := by
  have hself := hx p.scope p
  rw [h] at hself
  rw [(EStateM.Result.ok.inj hself).2]

end Blind

theorem ask_blind (setting : Setting) (schema : Option String) (table : String) (value : Option ShardValue) :
    Blind (ask setting schema table value) := by
  refine (Blind.tell _).bind fun _ => ?_
  cases setting.engine.route setting.context schema table value with
  | ok route => exact .pure route
  | error error => exact .throw (.engine error)

theorem acceptRoute_blind (binding : Binding) (route : Destination) (value : ShardValue) :
    Blind (acceptRoute binding route value) := by
  unfold acceptRoute
  cases binding.route with
  | none => exact (Blind.tell _).bind fun _ => (Blind.addSchema _).bind fun _ => .pure _
  | some first =>
    dsimp only
    split
    · exact .pure binding
    · exact .throw _

theorem routeValue_blind (setting : Setting) (binding : Binding) (value : ShardValue) :
    Blind (routeValue setting binding value) := by
  unfold routeValue
  split
  · exact (Blind.tell _).bind fun _ => .pure binding
  · refine (ask_blind setting _ _ _).bind fun found => ?_
    cases found with
    | none => exact .throw _
    | some route => exact acceptRoute_blind binding route value

theorem readFor_blind (setting : Setting) (column : ColumnRef) (e : Expr) : Blind (readFor setting column e) := by
  unfold readFor
  cases readValue setting.scan setting.params e with
  | ok reading => exact .pure reading
  | error part => exact .throw _

theorem routeItem_blind (setting : Setting) (column : ColumnRef) (binding : Binding) (e : Expr) :
    Blind (routeItem setting column binding e) := by
  refine (readFor_blind setting column e).bind fun reading => ?_
  cases reading with
  | known value source => exact (routeValue_blind setting binding value).bind fun _ => .pure _
  | unbound key => exact (Blind.tell _).bind fun _ => .pure _

theorem routeItems_blind (setting : Setting) (column : ColumnRef) (items : List Expr) : ∀ binding : Binding,
    Blind (routeItems setting column binding items) := by
  induction items with
  | nil => exact fun binding => .pure binding
  | cons e es ih => exact fun binding => (routeItem_blind setting column binding e).bind fun after => ih after

/-! ### Predicates on a bound table -/

theorem bind_ok {x : Walk α} {f : α → Walk β} {a : α} (h : x p = .ok a q) : (x >>= f) p = f a q := by
  change EStateM.bind x f p = _
  simp only [EStateM.bind, h]

theorem bind_error {x : Walk α} {f : α → Walk β} {error : RoutingError} (h : x p = .error error q) :
    (x >>= f) p = .error error q := by
  change EStateM.bind x f p = _
  simp only [EStateM.bind, h]

/-- A sequence fails in its first part, or behind it. -/
theorem bind_error_iff {x : Walk α} {f : α → Walk β} {error : RoutingError} :
    (x >>= f) p = .error error q ↔ x p = .error error q ∨ ∃ a p', x p = .ok a p' ∧ f a p' = .error error q := by
  cases hx : x p with
  | ok a p' =>
    rw [bind_ok hx]
    constructor
    · exact fun h => .inr ⟨a, p', rfl, h⟩
    · rintro (h | ⟨_, _, ⟨⟩, h⟩)
      · cases h
      · exact h
  | error found p' =>
    rw [bind_error hx]
    constructor
    · rintro ⟨⟩
      exact .inl rfl
    · rintro (⟨⟨⟩⟩ | ⟨_, _, h, -⟩)
      · rfl
      · cases h

variable {index : Nat} {binding after : Binding}

theorem updateTable_eq (index : Nat) (binding : Binding) (p : Progress) :
    updateTable index binding p = .ok () { p with scope := p.scope.update index binding } := rfl

theorem boundTable_bind {f : Option (Nat × Binding) → Walk β} (h : p.scope.resolve column.key = .bound index binding) :
    (boundTable column >>= f) p = f (some (index, binding)) p := by
  have hfound : boundTable column p = .ok (some (index, binding)) p := by rw [boundTable_eq, h]
  exact bind_ok hfound

theorem onKey_unknown {predicate : KeyPredicate} (h : p.scope.resolve predicate.column.key = .unknown) :
    onKey setting predicate p = .ok () p := by
  have hfound : boundTable predicate.column p = .ok none p := by rw [boundTable_eq, h]
  exact bind_ok hfound

theorem onKey_ambiguous {predicate : KeyPredicate} (h : p.scope.resolve predicate.column.key = .ambiguous) :
    onKey setting predicate p = .error (.ambiguous predicate.column.display) p := by
  have hfound : boundTable predicate.column p = .error (.ambiguous predicate.column.display) p := by
    rw [boundTable_eq, h]
  exact bind_error hfound

theorem onEquality_bound (setting : Setting) (h : p.scope.resolve column.key = .bound index binding) (e : Expr) :
    onEquality setting false column e p =
      (routeItem setting column (binding.see column.display) e >>= updateTable index) p :=
  boundTable_bind h

theorem onInList_bound (h : p.scope.resolve column.key = .bound index binding) {items : List Expr}
    (hitems : items ≠ []) :
    onInList setting false column false items p =
      (routeItems setting column (binding.see column.display) items >>= updateTable index) p := by
  obtain ⟨e, es, rfl⟩ := List.exists_cons_of_ne_nil hitems
  exact boundTable_bind h

/-- What is written down of a bound table is found under the same keys. -/
theorem resolve_update {scope : Scope} {key : String} (h : scope.resolve key = .bound index binding) (after : Binding) :
    (scope.update index after).resolve key = .bound index after := by
  have hclaim : (scope.update index after).claim? key = scope.claim? key := rfl
  have hlt : index < scope.bindings.length := (List.getElem?_eq_some_iff.mp (resolve_bound h)).1
  have hset : (scope.update index after).bindings[index]? = some after := List.getElem?_set_self hlt
  unfold Scope.resolve at h ⊢
  rw [hclaim]
  cases hfound : scope.claim? key with
  | none => simp only [hfound] at h; cases h
  | some claim =>
    cases claim with
    | many => simp only [hfound] at h; cases h
    | one other =>
      have hindex : other = index := by
        simp only [hfound] at h
        split at h
        · exact (Resolution.bound.inj h).1
        · cases h
      simp only [hindex, hset]

theorem update_update (scope : Scope) (index : Nat) (binding after : Binding) :
    (scope.update index binding).update index after = scope.update index after := by
  simp only [Scope.update, List.set_set]

theorem routeItem_bare {e : Expr} (h : routeItem setting column binding e p = .ok after q) :
    after.bare = binding.bare := by
  have hweigh : weigh setting column binding (.item e) p = .ok after q := h
  exact (weigh_frame hweigh).2

/-- A column is seen once. -/
theorem see_of_bare {column : String} (h : after.bare = (binding.see column).bare) : after.see column = after := by
  have hseen : after.seenKey = some (Text.lower (Text.afterLast '.' column)) := congrArg Binding.seenKey h
  rw [Binding.see, ← hseen]

/-! ### Lists and equalities -/

/-- The equalities of some items, one after the other. -/
def onEqualities (setting : Setting) (column : ColumnRef) (items : List Expr) : Walk Unit :=
  items.forM (onEquality setting false column)

/-- Two ends of a run: one state, or one error in states that are the same but for the open scope. -/
inductive EndsAlike : EStateM.Result RoutingError Progress Unit → EStateM.Result RoutingError Progress Unit → Prop
  | ok (p : Progress) : EndsAlike (.ok () p) (.ok () p)
  | error (error : RoutingError) (p q : Progress) (h : q = { p with scope := q.scope }) :
    EndsAlike (.error error p) (.error error q)

theorem EndsAlike.refl : ∀ r, EndsAlike r r
  | .ok _ p => .ok p
  | .error found p => .error found p p rfl

theorem EndsAlike.trans {r r' r'' : EStateM.Result RoutingError Progress Unit} (h : EndsAlike r r')
    (h' : EndsAlike r' r'') : EndsAlike r r'' := by
  cases h with
  | ok p => exact h'
  | error error p q h =>
    cases h' with
    | error _ _ r h' =>
      rw [h] at h'
      exact .error error p r h'

theorem EndsAlike.error_iff {r r' : EStateM.Result RoutingError Progress Unit} (h : EndsAlike r r')
    (error : RoutingError) : (∃ p, r = .error error p) ↔ ∃ p, r' = .error error p := by
  cases h with
  | ok p => exact ⟨nofun, nofun⟩
  | error found p q _ => simp

theorem EndsAlike.ok_iff {r r' : EStateM.Result RoutingError Progress Unit} (h : EndsAlike r r') (p : Progress) :
    r = .ok () p ↔ r' = .ok () p := by
  cases h with
  | ok p => rfl
  | error found p q _ => simp

theorem onEqualities_unknown (h : p.scope.resolve column.key = .unknown) (items : List Expr) :
    onEqualities setting column items p = .ok () p := by
  induction items with
  | nil => rfl
  | cons e es ih =>
    have hfirst : onEquality setting false column e p = .ok () p := by
      rw [onEquality_eq]
      exact onKey_unknown h
    exact (bind_ok hfirst).trans ih

/-- The rest of a list does not mind that its table is written down before. -/
theorem routeItems_written (items : List Expr) :
    EndsAlike ((routeItems setting column after items >>= updateTable index) p)
      ((routeItems setting column after items >>= updateTable index)
        { p with scope := p.scope.update index after }) := by
  have hblind := routeItems_blind setting column items after
  have hwritten := hblind (p.scope.update index after) p
  cases hrun : routeItems setting column after items p with
  | error error q =>
    rw [hrun] at hwritten
    rw [bind_error hrun, bind_error hwritten]
    exact .error error _ _ rfl
  | ok last q =>
    rw [hrun] at hwritten
    rw [bind_ok hrun, bind_ok hwritten, updateTable_eq, updateTable_eq, hblind.quiet hrun, update_update]
    exact .ok _

theorem routeItems_ends {items : List Expr} (hitems : items ≠ [])
    (h : p.scope.resolve column.key = .bound index binding) :
    EndsAlike ((routeItems setting column (binding.see column.display) items >>= updateTable index) p)
      (onEqualities setting column items p) := by
  induction items generalizing p binding with
  | nil => exact absurd rfl hitems
  | cons e es ih =>
    have hfirst := onEquality_bound setting h e
    rw [routeItems, bind_assoc]
    change EndsAlike _ ((onEquality setting false column e >>= fun _ => onEqualities setting column es) p)
    cases hrun : routeItem setting column (binding.see column.display) e p with
    | error error q =>
      rw [bind_error hrun] at hfirst
      rw [bind_error hrun, bind_error hfirst]
      exact .refl _
    | ok after q =>
      rw [bind_ok hrun, updateTable_eq] at hfirst
      rw [bind_ok hrun, bind_ok hfirst]
      cases es with
      | nil => exact .refl _
      | cons e' es =>
        have hscope : q.scope = p.scope := (routeItem_blind setting column _ e).quiet hrun
        have hseen : after.see column.display = after := see_of_bare (routeItem_bare hrun)
        have hwritten : ({ q with scope := q.scope.update index after } : Progress).scope.resolve column.key =
            .bound index after := resolve_update (hscope ▸ h) after
        have hrest := ih (List.cons_ne_nil e' es) hwritten
        rw [hseen] at hrest
        exact (routeItems_written (e' :: es)).trans hrest

/-- A list ends as its equalities do. -/
theorem onInList_ends (setting : Setting) (column : ColumnRef) {items : List Expr} (hitems : items ≠ [])
    (p : Progress) :
    EndsAlike (onInList setting false column false items p) (onEqualities setting column items p) := by
  cases hresolve : p.scope.resolve column.key with
  | bound index binding =>
    rw [onInList_bound hresolve hitems]
    exact routeItems_ends hitems hresolve
  | unknown =>
    rw [onInList_eq, onKey_unknown hresolve, onEqualities_unknown hresolve]
    exact .ok p
  | ambiguous =>
    obtain ⟨e, es, rfl⟩ := List.exists_cons_of_ne_nil hitems
    have hfirst : onEquality setting false column e p = .error (.ambiguous column.display) p := by
      rw [onEquality_eq, onKey_ambiguous hresolve]
      rfl
    have hall : onEqualities setting column (e :: es) p = .error (.ambiguous column.display) p := bind_error hfirst
    rw [onInList_eq, onKey_ambiguous hresolve, hall]
    exact .refl _

/-! ### Where a list stops -/

/-- A run over items goes through some of them and fails at the next one. -/
def StopsAt (run : List Expr → Walk Unit) (p : Progress) (before : List Expr) (e : Expr) (error : RoutingError) :
    Prop :=
  (before = [] ∨ ∃ q, run before p = .ok () q) ∧ ∃ q, run (before ++ [e]) p = .error error q

theorem onEqualities_append (items rest : List Expr) (p : Progress) :
    onEqualities setting column (items ++ rest) p =
      (onEqualities setting column items >>= fun _ => onEqualities setting column rest) p := by
  induction items generalizing p with
  | nil => rfl
  | cons e es ih =>
    cases hrun : onEquality setting false column e p with
    | ok u q =>
      calc onEqualities setting column (e :: es ++ rest) p
        _ = onEqualities setting column (es ++ rest) q := bind_ok hrun
        _ = (onEqualities setting column es >>= fun _ => onEqualities setting column rest) q := ih q
        _ = (onEqualities setting column (e :: es) >>= fun _ => onEqualities setting column rest) p := by
          have hcons : onEqualities setting column (e :: es) p = onEqualities setting column es q := bind_ok hrun
          change EStateM.bind _ _ q = EStateM.bind _ _ p
          unfold EStateM.bind
          rw [hcons]
    | error error q =>
      have hcons : onEqualities setting column (e :: es) p = .error error q := bind_error hrun
      exact (bind_error hrun).trans (bind_error hcons).symm

theorem onEqualities_stop {items : List Expr} {error : RoutingError}
    (h : onEqualities setting column items p = .error error q) :
    ∃ before e rest, items = before ++ e :: rest ∧ ∃ p', onEqualities setting column before p = .ok () p' ∧
      onEquality setting false column e p' = .error error q := by
  induction items generalizing p with
  | nil => cases h
  | cons e es ih =>
    cases hrun : onEquality setting false column e p with
    | error found p' =>
      have hcons : onEqualities setting column (e :: es) p = .error found p' := bind_error hrun
      cases hcons.symm.trans h
      exact ⟨[], e, es, rfl, p, rfl, hrun⟩
    | ok u p' =>
      have hcons : onEqualities setting column (e :: es) p = onEqualities setting column es p' := bind_ok hrun
      obtain ⟨before, e', rest, rfl, p'', hbefore, hfails⟩ := ih (hcons ▸ h)
      exact ⟨e :: before, e', rest, rfl, p'', (bind_ok hrun).trans hbefore, hfails⟩

/-- An item at which the equalities fail, after those before it went through. -/
theorem onEqualities_fail {before rest : List Expr} {e : Expr} {p' : Progress} {error : RoutingError}
    (hbefore : onEqualities setting column before p = .ok () p')
    (hfails : onEquality setting false column e p' = .error error q) :
    onEqualities setting column (before ++ e :: rest) p = .error error q := by
  rw [onEqualities_append, bind_ok hbefore]
  exact bind_error hfails

/-- A list fails at the item at which its equalities fail. -/
theorem onInList_stop {items : List Expr} (hitems : items ≠ []) {error : RoutingError}
    (h : onInList setting false column false items p = .error error q) :
    ∃ before e rest, items = before ++ e :: rest ∧
      StopsAt (onInList setting false column false) p before e error ∧
      StopsAt (onEqualities setting column) p before e error := by
  obtain ⟨q', hall⟩ := ((onInList_ends setting column hitems p).error_iff error).mp ⟨q, h⟩
  obtain ⟨before, e, rest, hsplit, p', hbefore, hfails⟩ := onEqualities_stop hall
  have hstop : ∃ q, onEqualities setting column (before ++ [e]) p = .error error q :=
    ⟨_, onEqualities_fail hbefore hfails⟩
  refine ⟨before, e, rest, hsplit, ⟨?_, ?_⟩, .inr ⟨p', hbefore⟩, hstop⟩
  · cases before with
    | nil => exact .inl rfl
    | cons e' es =>
      have hends := onInList_ends setting column (List.cons_ne_nil e' es) p
      exact .inr ⟨p', (hends.ok_iff p').mpr hbefore⟩
  · have hends := onInList_ends setting column (List.append_ne_nil_of_right_ne_nil before (List.cons_ne_nil e [])) p
    exact (hends.error_iff error).mpr hstop

/-! ### Where the values of a list lead -/

theorem routeItem_inv (hon : setting.overrides.sqlRoutingDisabled = false) {e : Expr}
    (h : routeItem setting column binding e p = .ok after q) :
    after.bare = binding.bare ∧ (∀ route, binding.route = some route → after.route = some route) ∧
      ∀ value source, readValue setting.scan setting.params e = .ok (.known value source) →
        ∃ route, after.route = some route ∧ Sends setting binding.schema binding.table.value value route := by
  have hbare := routeItem_bare h
  have hsource : ∀ source (binding : Binding), (addSource setting source binding).route = binding.route := by
    intro source binding
    unfold addSource
    split <;> rfl
  obtain ⟨reading, _, hread, h⟩ := bind_iff.mp h
  have hvalue : readValue setting.scan setting.params e = .ok reading := by
    unfold readFor at hread
    cases hfound : readValue setting.scan setting.params e with
    | error part =>
      rw [hfound] at hread
      exact (throw_iff.mp hread).elim
    | ok found =>
      rw [hfound] at hread
      rw [(pure_iff.mp hread).1]
  cases reading with
  | known value source =>
    obtain ⟨routed, hroute, rfl⟩ := map_iff.mp h
    obtain ⟨-, first, rfl, hsends, hfirst⟩ := routeValue_inv hon hroute
    refine ⟨hbare, fun route hkept => ?_, fun other source' hother => ?_⟩
    · rw [hsource, ← hfirst, hkept]
      rfl
    · cases hvalue.symm.trans hother
      exact ⟨first, hsource _ _, hsends⟩
  | unbound key =>
    obtain ⟨_, -, rfl⟩ := map_iff.mp h
    exact ⟨hbare, fun route hkept => (hsource _ _).trans hkept, fun _ _ hother => nomatch hvalue.symm.trans hother⟩

theorem routeItems_leads (hon : setting.overrides.sqlRoutingDisabled = false) {items : List Expr}
    (h : routeItems setting column binding items p = .ok after q) :
    (∀ route, binding.route = some route → after.route = some route) ∧
      ∀ e ∈ items, ∀ value source, readValue setting.scan setting.params e = .ok (.known value source) →
        ∃ route, after.route = some route ∧ Sends setting binding.schema binding.table.value value route := by
  induction items generalizing p binding with
  | nil =>
    obtain ⟨rfl, -⟩ := pure_iff.mp h
    exact ⟨fun _ => id, nofun⟩
  | cons e es ih =>
    obtain ⟨between, _, hfirst, hrest⟩ := bind_iff.mp h
    obtain ⟨hbare, hkeeps, hleads⟩ := routeItem_inv hon hfirst
    obtain ⟨hkeeps', hleads'⟩ := ih hrest
    rw [Binding.schema_of_bare hbare, Binding.table_of_bare hbare] at hleads'
    refine ⟨fun route hkept => hkeeps' route (hkeeps route hkept), fun e' he' value source hvalue => ?_⟩
    rcases List.mem_cons.mp he' with rfl | he'
    · obtain ⟨route, hroute, hsends⟩ := hleads value source hvalue
      exact ⟨route, hkeeps' route hroute, hsends⟩
    · exact hleads' e' he' value source hvalue

/-! ### Disagreement -/

/-- A bound table has a route, and a value that is sent to another place comes next; `error` says so. -/
def Disagrees (setting : Setting) (column : ColumnRef) (p : Progress) (e : Expr) (error : RoutingError) : Prop :=
  ∃ index binding first value source route, p.scope.resolve column.key = .bound index binding ∧
    binding.route = some first ∧ readValue setting.scan setting.params e = .ok (.known value source) ∧
    setting.engine.route setting.context binding.schema binding.table.value (some value) = .ok (some route) ∧
    first.same route = false ∧ error = .conflict binding.table.value first route value

/-- An expression has a value that the engine sends somewhere, or is a parameter without value. -/
def Answered (setting : Setting) (binding : Binding) (e : Expr) : Prop :=
  ∃ reading, readValue setting.scan setting.params e = .ok reading ∧ ∀ value source, reading = .known value source →
    ∃ route, setting.engine.route setting.context binding.schema binding.table.value (some value) = .ok (some route)

theorem readFor_known {e : Expr} {reading : Reading} (h : readValue setting.scan setting.params e = .ok reading)
    (p : Progress) : readFor setting column e p = .ok reading p := by
  unfold readFor
  rw [h]
  rfl

theorem routeValue_asked (hon : setting.overrides.sqlRoutingDisabled = false) (binding : Binding)
    {value : ShardValue} {route : Destination}
    (hroute : setting.engine.route setting.context binding.schema binding.table.value (some value) = .ok (some route))
    (p : Progress) : routeValue setting binding value p = acceptRoute binding route value
      { p with log := .asked binding.schema binding.table.value (some value) :: p.log } := by
  rw [routeValue, if_neg (Bool.eq_false_iff.mp hon)]
  exact bind_ok (ask_iff.mpr ⟨hroute, rfl⟩)

theorem acceptRoute_error_iff {route : Destination} {value : ShardValue} {error : RoutingError} :
    acceptRoute binding route value p = .error error q ↔ ∃ first, binding.route = some first ∧
      first.same route = false ∧ error = .conflict binding.table.value first route value ∧ q = p := by
  unfold acceptRoute
  cases hroute : binding.route with
  | none => exact ⟨nofun, nofun⟩
  | some first =>
    cases hsame : first.same route with
    | true =>
      simp only [hsame, if_true]
      refine ⟨nofun, ?_⟩
      rintro ⟨_, ⟨⟩, hother, -⟩
      cases hsame.symm.trans hother
    | false =>
      simp only [hsame, Bool.false_eq_true, if_false]
      constructor
      · rintro ⟨⟩
        exact ⟨first, rfl, hsame, rfl, rfl⟩
      · rintro ⟨_, ⟨⟩, -, rfl, rfl⟩
        rfl

theorem onEquality_disagrees (hon : setting.overrides.sqlRoutingDisabled = false) {e : Expr} {error : RoutingError}
    (h : Disagrees setting column p e error) : ∃ q, onEquality setting false column e p = .error error q := by
  obtain ⟨index, binding, first, value, source, route, hbound, hfirst, hvalue, hroute, hother, rfl⟩ := h
  have haccept : ∀ p, acceptRoute (binding.see column.display) route value p =
      .error (.conflict binding.table.value first route value) p :=
    fun _ => acceptRoute_error_iff.mpr ⟨first, hfirst, hother, rfl, rfl⟩
  refine ⟨{ p with log := .asked binding.schema binding.table.value (some value) :: p.log }, ?_⟩
  rw [onEquality_bound setting hbound]
  refine bind_error ((bind_ok (readFor_known hvalue p)).trans (bind_error ?_))
  exact (routeValue_asked hon (binding.see column.display) hroute p).trans (haccept _)

/-- Where every value is sent somewhere, nothing but a disagreement fails. -/
theorem disagrees_of_error (hon : setting.overrides.sqlRoutingDisabled = false)
    (hbound : p.scope.resolve column.key = .bound index binding) {e : Expr} (hanswered : Answered setting binding e)
    {error : RoutingError} (h : onEquality setting false column e p = .error error q) :
    Disagrees setting column p e error := by
  obtain ⟨reading, hread, hsent⟩ := hanswered
  rw [onEquality_bound setting hbound, bind_error_iff] at h
  rcases h with h | ⟨_, _, -, hupdate⟩
  · rw [routeItem, bind_ok (readFor_known hread p)] at h
    cases reading with
    | unbound key => cases h
    | known value source =>
      obtain ⟨route, hroute⟩ := hsent value source rfl
      rcases bind_error_iff.mp h with hvalue | ⟨_, _, -, hsource⟩
      · have hrun := routeValue_asked hon (binding.see column.display) hroute p
        obtain ⟨first, hfirst, hother, rfl, -⟩ := acceptRoute_error_iff.mp (hrun.symm.trans hvalue)
        exact ⟨index, binding, first, value, source, route, hbound, hfirst, hread, hroute, hother, rfl⟩
      · cases hsource
  · cases hupdate

/-- Equalities on a column do not change which table it is bound to. -/
theorem onEqualities_bound {items : List Expr} (hbound : p.scope.resolve column.key = .bound index binding)
    (h : onEqualities setting column items p = .ok () q) :
    ∃ after, q.scope.resolve column.key = .bound index after ∧ after.schema = binding.schema ∧
      after.table = binding.table := by
  induction items generalizing p binding with
  | nil =>
    cases h
    exact ⟨binding, hbound, rfl, rfl⟩
  | cons e es ih =>
    obtain ⟨_, _, hfirst, hrest⟩ := bind_iff.mp h
    rw [onEquality_bound setting hbound] at hfirst
    obtain ⟨after, p', hitem, hupdate⟩ := bind_iff.mp hfirst
    cases hupdate
    have hscope : p'.scope = p.scope := (routeItem_blind setting column _ e).quiet hitem
    have hbare : after.bare = (binding.see column.display).bare := routeItem_bare hitem
    obtain ⟨last, hlast, hschema, htable⟩ := ih (resolve_update (hscope ▸ hbound) after) hrest
    have hkept : after.schema = (binding.see column.display).schema := Binding.schema_of_bare hbare
    have hnamed : after.table = (binding.see column.display).table := Binding.table_of_bare hbare
    exact ⟨last, hlast, hschema.trans hkept, htable.trans hnamed⟩

theorem Answered.congr {e : Expr} (h : Answered setting binding e) (hschema : after.schema = binding.schema)
    (htable : after.table = binding.table) : Answered setting after e := by
  unfold Answered
  rwa [hschema, htable]

end Walk

/-! ### The law -/

open Walk

/-- A list on a shard key ends as the equalities of its items do, one after the other, and fails at the item at which
    they fail. While values in statements count, a list on a bound column goes through only if all its values are sent
    to one place; an item that is sent elsewhere is a conflict, and where every value is sent somewhere nothing else
    fails. -/
theorem list_as_equalities (setting : Setting) (column : ColumnRef) (items : List Expr) (hitems : items ≠ [])
    (p : Progress) :
    EndsAlike (onInList setting false column false items p) (onEqualities setting column items p) ∧
    (∀ error q, onInList setting false column false items p = .error error q →
      ∃ before e rest, items = before ++ e :: rest ∧
        StopsAt (onInList setting false column false) p before e error ∧
        StopsAt (onEqualities setting column) p before e error) ∧
    ∀ index binding, setting.overrides.sqlRoutingDisabled = false →
      p.scope.resolve column.key = .bound index binding →
      (∀ q, onInList setting false column false items p = .ok () q →
        ∃ after, q.scope.resolve column.key = .bound index after ∧
          ∀ e ∈ items, ∀ value source, readValue setting.scan setting.params e = .ok (.known value source) →
            ∃ route, after.route = some route ∧ Sends setting binding.schema binding.table.value value route) ∧
      (∀ before e rest q error, items = before ++ e :: rest → onEqualities setting column before p = .ok () q →
        Disagrees setting column q e error → ∃ r, onInList setting false column false items p = .error error r) ∧
      ((∀ e ∈ items, Answered setting binding e) → ∀ error r,
        onInList setting false column false items p = .error error r →
          ∃ before e rest q, items = before ++ e :: rest ∧ onEqualities setting column before p = .ok () q ∧
            Disagrees setting column q e error) := by
  have hends := onInList_ends setting column hitems p
  refine ⟨hends, fun _ _ h => onInList_stop hitems h, fun index binding hon hbound => ⟨fun q h => ?_, ?_, ?_⟩⟩
  · rw [onInList_bound hbound hitems] at h
    obtain ⟨after, p', hrun, hupdate⟩ := bind_iff.mp h
    cases hupdate
    have hscope : p'.scope = p.scope := (routeItems_blind setting column items _).quiet hrun
    exact ⟨after, resolve_update (hscope ▸ hbound) after, (routeItems_leads hon hrun).2⟩
  · rintro before e rest q error rfl hbefore hdisagrees
    obtain ⟨r, hfails⟩ := onEquality_disagrees hon hdisagrees
    exact (hends.error_iff error).mpr ⟨r, onEqualities_fail hbefore hfails⟩
  · intro hanswered error r h
    obtain ⟨q, hall⟩ := (hends.error_iff error).mp ⟨r, h⟩
    obtain ⟨before, e, rest, rfl, p', hbefore, hfails⟩ := onEqualities_stop hall
    obtain ⟨now, hnow, hschema, htable⟩ := onEqualities_bound hbound hbefore
    have he : Answered setting now e :=
      (hanswered e (List.mem_append_right _ List.mem_cons_self)).congr hschema htable
    exact ⟨before, e, rest, p', rfl, hbefore, disagrees_of_error hon hnow he hfails⟩

namespace Sample

/-- The orders as they are bound first. -/
def ordersBound : Binding :=
  { slot := .factor 0, schema := none, table := ⟨"orders", none⟩, alias_ := none, key := "id" }

/-- An open scope with the orders. -/
def opened : Progress := { scope := (Scope.register {} ordersBound).1 }

/-- The shard key of the orders as a predicate names it. -/
def key : ColumnRef := ⟨"id", "id"⟩

/-- The orders are sent to their override, whatever a statement says. -/
def idle : Setting := router.setting [] forced {} .empty

end Sample

/-- The values of `id IN (4, 6)` are sent to one place, and those of `id IN (4, 5)` are not. -/
theorem list_as_equalities_orders :
    [Sample.literal "4", Sample.literal "6"] ≠ [] ∧ [Sample.literal "4", Sample.literal "5"] ≠ [] ∧
      (∃ after q, onEqualities (Sample.under []) Sample.key [Sample.literal "4", Sample.literal "6"] Sample.opened =
          .ok () q ∧ q.scope.resolve "id" = .bound 0 after ∧ after.route = some ⟨"main", "orders_even"⟩ ∧
        Sends (Sample.under []) none "orders" (.int 6) ⟨"main", "orders_even"⟩) ∧
      ∃ r, onInList (Sample.under []) false Sample.key false [Sample.literal "4", Sample.literal "5"] Sample.opened =
        .error (.conflict "orders" ⟨"main", "orders_even"⟩ ⟨"main", "orders_odd"⟩ (.int 5)) r := by
  have heven : [Sample.literal "4", Sample.literal "6"] ≠ [] := List.cons_ne_nil _ _
  have hodd : [Sample.literal "4", Sample.literal "5"] ≠ [] := List.cons_ne_nil _ _
  have hbound : Sample.opened.scope.resolve Sample.key.key = .bound 0 Sample.ordersBound := by decide
  obtain ⟨q, hrun, after, hafter, hroute⟩ : ∃ q, onInList (Sample.under []) false Sample.key false
      [Sample.literal "4", Sample.literal "6"] Sample.opened = .ok () q ∧ ∃ after,
        q.scope.resolve "id" = .bound 0 after ∧ after.route = some ⟨"main", "orders_even"⟩ :=
    ⟨_, rfl, _, rfl, rfl⟩
  refine ⟨heven, hodd, ?_, ?_⟩
  · obtain ⟨hends, -, hvalues⟩ := list_as_equalities (Sample.under []) Sample.key _ heven Sample.opened
    obtain ⟨found, hfound, hleads⟩ := (hvalues 0 Sample.ordersBound rfl hbound).1 q hrun
    cases hafter.symm.trans hfound
    obtain ⟨route, hsame, hsends⟩ := hleads (Sample.literal "6") (by simp) (.int 6) (.literal (.int 6)) rfl
    cases hroute.symm.trans hsame
    exact ⟨after, q, (hends.ok_iff q).mp hrun, hafter, hroute, hsends⟩
  · obtain ⟨-, -, hvalues⟩ := list_as_equalities (Sample.under []) Sample.key _ hodd Sample.opened
    obtain ⟨p, hfour⟩ : ∃ p, onEqualities (Sample.under []) Sample.key [Sample.literal "4"] Sample.opened = .ok () p ∧
        Disagrees (Sample.under []) Sample.key p (Sample.literal "5")
          (.conflict "orders" ⟨"main", "orders_even"⟩ ⟨"main", "orders_odd"⟩ (.int 5)) :=
      ⟨_, rfl, 0, _, ⟨"main", "orders_even"⟩, .int 5, .literal (.int 5), ⟨"main", "orders_odd"⟩, rfl, rfl, rfl, rfl,
        by decide, rfl⟩
    exact (hvalues 0 Sample.ordersBound rfl hbound).2.1 [Sample.literal "4"] (Sample.literal "5") [] p _ rfl hfour.1
      hfour.2

/-- While values in statements are disabled, `id IN (4, 5)` goes through although its values are sent to two places. -/
theorem list_parted_though_disabled :
    Sample.opened.scope.resolve Sample.key.key = .bound 0 Sample.ordersBound ∧
      (∃ q, onInList Sample.idle false Sample.key false [Sample.literal "4", Sample.literal "5"] Sample.opened =
        .ok () q) ∧
      readValue Sample.idle.scan Sample.idle.params (Sample.literal "4") = .ok (.known (.int 4) (.literal (.int 4))) ∧
      readValue Sample.idle.scan Sample.idle.params (Sample.literal "5") = .ok (.known (.int 5) (.literal (.int 5))) ∧
      ¬∃ route, Sends Sample.idle none "orders" (.int 4) route ∧ Sends Sample.idle none "orders" (.int 5) route := by
  refine ⟨by decide, ⟨_, rfl⟩, rfl, rfl, ?_⟩
  rintro ⟨route, ⟨even, heven, heven'⟩, ⟨odd, hodd, hodd'⟩⟩
  cases heven
  cases hodd
  have hsame := Destination.same_trans heven' (Destination.same_symm hodd')
  exact absurd hsame (by decide)

end ShardRouting
