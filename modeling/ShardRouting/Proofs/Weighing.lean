import ShardRouting.Proofs.Evidence

/-! Weighing evidence. The values of a source are put to the engine one by one, and the first destination
    stands; a predicate goes through exactly when all of them are sent to one place. -/

namespace ShardRouting

/-- A binding without anything that values have decided. -/
def Binding.bare (binding : Binding) : Binding := { binding with route := none, sources := [] }

theorem Binding.schema_of_bare {binding other : Binding} (h : binding.bare = other.bare) :
    binding.schema = other.schema :=
  (Binding.mk.inj h).2.1

theorem Binding.table_of_bare {binding other : Binding} (h : binding.bare = other.bare) :
    binding.table = other.table :=
  (Binding.mk.inj h).2.2.1

namespace Walk

variable {setting : Setting} {p q : Progress} {binding after : Binding}

/-- The engine sends a value of a table to a destination, but for the case of ASCII letters. -/
def Sends (setting : Setting) (schema : Option String) (table : String) (value : ShardValue)
    (route : Destination) : Prop :=
  ∃ found, setting.engine.route setting.context schema table (some value) = .ok (some found) ∧
    found.same route = true

theorem Sends.trans {schema : Option String} {table : String} {value : ShardValue} {route other : Destination}
    (h : Sends setting schema table value route) (hsame : route.same other = true) :
    Sends setting schema table value other :=
  let ⟨found, hfound, hroute⟩ := h
  ⟨found, hfound, Destination.same_trans hroute hsame⟩

/-- Two destinations of one value are the same. -/
theorem Sends.same {schema : Option String} {table : String} {value : ShardValue} {route other : Destination}
    (h : Sends setting schema table value route) (h' : Sends setting schema table value other) :
    route.same other = true := by
  obtain ⟨found, hfound, hroute⟩ := h
  obtain ⟨_, hfound', hother⟩ := h'
  cases hfound.symm.trans hfound'
  exact Destination.same_trans (Destination.same_symm hroute) hother

/-! ### Values -/

theorem acceptRoute_inv {route : Destination} {value : ShardValue}
    (h : acceptRoute binding route value p = .ok after q) :
    Quiet p q ∧ ∃ first, after = { binding with route := some first } ∧ route.same first = true ∧
      binding.route.or (some route) = some first := by
  unfold acceptRoute at h
  cases hroute : binding.route with
  | some first =>
    simp only [hroute] at h
    split at h
    · rename_i hsame
      obtain ⟨rfl, rfl⟩ := pure_iff.mp h
      refine ⟨.refl p, first, ?_, Destination.same_symm hsame, rfl⟩
      rw [← hroute]
    · exact (throw_iff.mp h).elim
  | none =>
    simp only [hroute, bind_iff] at h
    obtain ⟨_, _, htell, _, _, hschema, h⟩ := h
    obtain ⟨rfl, rfl⟩ := pure_iff.mp h
    exact ⟨(tell_silent htell).toQuiet.trans (addSchema_quiet hschema), route, rfl, Destination.same_refl route, rfl⟩

theorem acceptRoute_run {route : Destination} (value : ShardValue)
    (hfirst : ∀ first, binding.route = some first → first.same route = true) (p : Progress) :
    ∃ first q, acceptRoute binding route value p = .ok { binding with route := some first } q ∧
      first.same route = true := by
  unfold acceptRoute
  cases hroute : binding.route with
  | some first =>
    refine ⟨first, p, ?_, hfirst first hroute⟩
    simp only [hfirst first hroute, if_true, pure_iff, and_true]
    rw [← hroute]
  | none => exact ⟨route, _, rfl, Destination.same_refl route⟩

theorem routeValue_disabled {value : ShardValue} (hoff : setting.overrides.sqlRoutingDisabled = true)
    (h : routeValue setting binding value p = .ok after q) : Quiet p q ∧ after = binding := by
  rw [routeValue, if_pos hoff] at h
  obtain ⟨_, _, htell, h⟩ := bind_iff.mp h
  obtain ⟨rfl, rfl⟩ := pure_iff.mp h
  exact ⟨(tell_silent htell).toQuiet, rfl⟩

theorem routeValue_inv {value : ShardValue} (hon : setting.overrides.sqlRoutingDisabled = false)
    (h : routeValue setting binding value p = .ok after q) :
    Quiet p q ∧ ∃ first, after = { binding with route := some first } ∧
      Sends setting binding.schema binding.table.value value first ∧
      binding.route.or (setting.sent? binding.schema binding.table.value (some value)) = some first := by
  rw [routeValue, if_neg (Bool.eq_false_iff.mp hon)] at h
  obtain ⟨found, _, hask, h⟩ := bind_iff.mp h
  obtain ⟨hfound, rfl⟩ := ask_iff.mp hask
  cases found with
  | none => exact (throw_iff.mp h).elim
  | some route =>
    obtain ⟨hquiet, first, hafter, hsame, hfirst⟩ := acceptRoute_inv h
    rw [Setting.sent?_iff.mpr hfound]
    exact ⟨⟨hquiet.scope, hquiet.routed⟩, first, hafter, ⟨route, hfound, hsame⟩, hfirst⟩

theorem routeValues_disabled (hoff : setting.overrides.sqlRoutingDisabled = true) {values : List ShardValue}
    (h : routeValues setting binding values p = .ok after q) : Quiet p q ∧ after = binding := by
  induction values generalizing p with
  | nil =>
    obtain ⟨rfl, rfl⟩ := pure_iff.mp h
    exact ⟨.refl p, rfl⟩
  | cons value values ih =>
    obtain ⟨_, _, hvalue, h⟩ := bind_iff.mp h
    obtain ⟨hquiet, hbinding⟩ := routeValue_disabled hoff hvalue
    rw [hbinding] at h
    obtain ⟨hrest, hafter⟩ := ih h
    exact ⟨hquiet.trans hrest, hafter⟩

theorem routeValues_ignored (hoff : setting.overrides.sqlRoutingDisabled = true) (binding : Binding)
    (values : List ShardValue) (p : Progress) : ∃ q, routeValues setting binding values p = .ok binding q := by
  induction values generalizing p with
  | nil => exact ⟨p, rfl⟩
  | cons value values ih =>
    obtain ⟨q, hrest⟩ := ih { p with log := .ignored binding.table.value value :: p.log }
    refine ⟨q, bind_iff.mpr ⟨binding, _, ?_, hrest⟩⟩
    rw [routeValue, if_pos hoff]
    rfl

/-- What the values of one source have made of a binding. -/
structure Led (setting : Setting) (values : List ShardValue) (binding after : Binding) : Prop where
  bare : after.bare = binding.bare
  sources : after.sources = binding.sources
  /-- The destination of the first value stands. -/
  route : after.route = binding.route.or
    (values.head?.bind fun value => setting.sent? binding.schema binding.table.value (some value))
  leads : ∀ value ∈ values, ∃ route, after.route = some route ∧
    Sends setting binding.schema binding.table.value value route

theorem Led.first {values : List ShardValue} (h : Led setting values binding after) {route : Destination}
    (hroute : binding.route = some route) : after.route = some route := by
  rw [h.route, hroute]
  rfl

theorem routeValues_inv (hon : setting.overrides.sqlRoutingDisabled = false) {values : List ShardValue}
    (h : routeValues setting binding values p = .ok after q) :
    Quiet p q ∧ Led setting values binding after := by
  induction values generalizing p binding with
  | nil =>
    obtain ⟨rfl, rfl⟩ := pure_iff.mp h
    exact ⟨.refl p, rfl, rfl, Option.or_none.symm, fun _ h => nomatch h⟩
  | cons value values ih =>
    obtain ⟨_, _, hvalue, h⟩ := bind_iff.mp h
    obtain ⟨hquiet, first, rfl, hsends, hfirst⟩ := routeValue_inv hon hvalue
    obtain ⟨hrest, hled⟩ := ih h
    have hafter : after.route = some first := hled.route
    refine ⟨hquiet.trans hrest, hled.bare, hled.sources, ?_, ?_⟩
    · rw [hafter, ← hfirst]
      rfl
    · intro other hother
      rcases List.mem_cons.mp hother with rfl | hother
      · exact ⟨first, hafter, hsends⟩
      · exact hled.leads other hother

/-- Values that are all sent to one place go through. -/
theorem routeValues_run (hon : setting.overrides.sqlRoutingDisabled = false) {route : Destination}
    {values : List ShardValue}
    (hsends : ∀ value ∈ values, Sends setting binding.schema binding.table.value value route)
    (hfirst : ∀ first, binding.route = some first → first.same route = true) (p : Progress) :
    ∃ after q, routeValues setting binding values p = .ok after q := by
  induction values generalizing binding p with
  | nil => exact ⟨binding, p, rfl⟩
  | cons value values ih =>
    obtain ⟨found, hfound, hsame⟩ := hsends value List.mem_cons_self
    obtain ⟨first, p', haccept, hagree⟩ := acceptRoute_run value (fun first hroute =>
      Destination.same_trans (hfirst first hroute) (Destination.same_symm hsame))
      { p with log := .asked binding.schema binding.table.value (some value) :: p.log }
    have hvalue : routeValue setting binding value p = .ok { binding with route := some first } p' := by
      rw [routeValue, if_neg (Bool.eq_false_iff.mp hon)]
      exact bind_iff.mpr ⟨some found, _, ask_iff.mpr ⟨hfound, rfl⟩, haccept⟩
    obtain ⟨after, q, hrest⟩ := @ih { binding with route := some first }
      (fun other hother => hsends other (List.mem_cons_of_mem _ hother))
      (fun _ h => Option.some.inj h ▸ Destination.same_trans hagree hsame) p'
    exact ⟨after, q, bind_iff.mpr ⟨_, p', hvalue, hrest⟩⟩

/-! ### Evidence -/

theorem routeValues_nil : routeValues setting binding [] = pure binding := rfl

theorem routeValues_singleton (value : ShardValue) :
    routeValues setting binding [value] = routeValue setting binding value :=
  bind_pure _

theorem routeRange_known {text : String} {low high : ValueSource} {lowValue highValue : ShardValue}
    (hlow : low.value? setting.params = some lowValue) (hhigh : high.value? setting.params = some highValue) :
    routeRange setting text binding (Reading.of setting.params low) (Reading.of setting.params high) = (do
      let values ← rangeOf setting.options.maxBetweenSpan text lowValue highValue
      let routed ← routeValues setting binding values
      return addSource setting (.range low high) routed) := by
  rw [Reading.of_known hlow, Reading.of_known hhigh]
  rfl

theorem routeRange_unknown {text : String} {low high : ValueSource}
    (h : low.value? setting.params = none ∨ high.value? setting.params = none) :
    routeRange setting text binding (Reading.of setting.params low) (Reading.of setting.params high) = (do
      tell (.deferredRange text)
      return addSource setting (.range low high) binding) := by
  rcases h with h | h
  · obtain ⟨key, rfl, hreading⟩ := Reading.of_unknown h
    rw [hreading]
    unfold routeRange
    simp only [Reading.source_of]
    rfl
  · obtain ⟨key, rfl, hreading⟩ := Reading.of_unknown h
    rw [hreading]
    unfold routeRange
    split
    · rename_i heq
      cases heq
    · simp only [Reading.source_of]
      rfl

theorem ValueSource.known_or_unknown (low high : ValueSource) (params : Params) :
    (∃ lowValue highValue, low.value? params = some lowValue ∧ high.value? params = some highValue) ∨
      (low.value? params = none ∨ high.value? params = none) := by
  cases low.value? params with
  | none => exact .inr (.inl rfl)
  | some lowValue =>
    cases high.value? params with
    | none => exact .inr (.inr rfl)
    | some highValue => exact .inl ⟨lowValue, highValue, rfl, rfl⟩

/-- Evidence that goes through has a source, and that fits. -/
theorem weigh_source {column : ColumnRef} {evidence : Evidence}
    (h : weigh setting column binding evidence p = .ok after q) :
    ∃ source, evidence.source? setting.scan = some source ∧
      source.Fits setting.options.maxBetweenSpan setting.params := by
  cases evidence with
  | item e =>
    obtain ⟨_, _, hread, -⟩ := bind_iff.mp h
    obtain ⟨source, hsource⟩ := readFor_inv hread
    exact ⟨.value source, by simp [Evidence.source?, hsource], trivial⟩
  | range text low high =>
    obtain ⟨_, _, hread, hrest⟩ := bind_iff.mp h
    obtain ⟨lowSource, hlow⟩ := readFor_inv hread
    obtain ⟨_, _, hread, -⟩ := bind_iff.mp hrest
    obtain ⟨highSource, hhigh⟩ := readFor_inv hread
    refine ⟨.range lowSource highSource, by simp [Evidence.source?, hlow, hhigh], ?_⟩
    simp only [weigh, readFor_eq hlow, readFor_eq hhigh, pure_bind] at h
    rcases ValueSource.known_or_unknown lowSource highSource setting.params with
      ⟨lowValue, highValue, hlow, hhigh⟩ | hunknown
    · rw [routeRange_known hlow hhigh] at h
      obtain ⟨values, _, hrange, -⟩ := bind_iff.mp h
      obtain ⟨first, last, hfirst, hlast, hle, hspan, -⟩ := rangeOf_iff.mp hrange
      exact (RouteSource.range_known hlow hhigh).mpr ⟨first, last, hfirst, hlast, hle, hspan⟩
    · exact (RouteSource.range_unknown _ hunknown).1

/-- To weigh evidence is to route the values of its source, if that fits, and to keep the source then. -/
theorem weigh_eq (column : ColumnRef) (binding : Binding) {evidence : Evidence} {source : RouteSource}
    (hsource : evidence.source? setting.scan = some source)
    (hfits : source.Fits setting.options.maxBetweenSpan setting.params) (p : Progress) :
    ∃ p', Silent p p' ∧ weigh setting column binding evidence p = (do
      let routed ← routeValues setting binding (source.values setting.params)
      return addSource setting source routed : Walk Binding) p' := by
  cases evidence with
  | item e =>
    obtain ⟨read, hread, rfl⟩ := Option.map_eq_some_iff.mp hsource
    simp only [weigh, routeItem, readFor_eq hread, pure_bind]
    cases hvalue : read.value? setting.params with
    | some value =>
      refine ⟨p, .refl p, ?_⟩
      rw [Reading.of_known hvalue]
      simp only [RouteSource.values, hvalue, Option.toList_some, routeValues_singleton]
    | none =>
      obtain ⟨key, rfl, hreading⟩ := Reading.of_unknown hvalue
      refine ⟨{ p with log := .deferredValue column.display key :: p.log }, ⟨⟨rfl, rfl⟩, rfl⟩, ?_⟩
      rw [hreading]
      simp only [RouteSource.values, hvalue, Option.toList_none, routeValues_nil, pure_bind]
      rfl
  | range text low high =>
    obtain ⟨lowSource, hlow, hsource⟩ := Option.bind_eq_some_iff.mp hsource
    obtain ⟨highSource, hhigh, hsource⟩ := Option.bind_eq_some_iff.mp hsource
    cases hsource
    simp only [weigh, readFor_eq hlow, readFor_eq hhigh, pure_bind]
    rcases ValueSource.known_or_unknown lowSource highSource setting.params with
      ⟨lowValue, highValue, hlow, hhigh⟩ | hunknown
    · obtain ⟨first, last, hfirst, hlast, hle, hspan⟩ := (RouteSource.range_known hlow hhigh).mp hfits
      refine ⟨p, .refl p, ?_⟩
      have hrange : rangeOf setting.options.maxBetweenSpan text lowValue highValue p =
          .ok (integersBetween first last) p :=
        rangeOf_iff.mpr ⟨first, last, hfirst, hlast, hle, hspan, rfl, rfl⟩
      rw [routeRange_known hlow hhigh, RouteSource.values_range hlow hfirst hhigh hlast]
      change EStateM.bind _ _ p = _
      simp only [EStateM.bind, hrange]
    · refine ⟨{ p with log := .deferredRange text :: p.log }, ⟨⟨rfl, rfl⟩, rfl⟩, ?_⟩
      rw [routeRange_unknown hunknown, (RouteSource.range_unknown 0 hunknown).2]
      rfl

theorem weigh_frame {column : ColumnRef} {binding after : Binding} {evidence : Evidence}
    (h : weigh setting column binding evidence p = .ok after q) : Quiet p q ∧ after.bare = binding.bare := by
  obtain ⟨source, hsource, hfits⟩ := weigh_source h
  obtain ⟨p', hbefore, heq⟩ := weigh_eq column binding hsource hfits p
  rw [heq] at h
  obtain ⟨routed, hvalues, rfl⟩ := map_iff.mp h
  have hkept : (addSource setting source routed).bare = routed.bare := by
    unfold addSource
    split <;> rfl
  cases hoff : setting.overrides.sqlRoutingDisabled with
  | true =>
    obtain ⟨hquiet, rfl⟩ := routeValues_disabled hoff hvalues
    exact ⟨hbefore.toQuiet.trans hquiet, hkept⟩
  | false =>
    obtain ⟨hquiet, hled⟩ := routeValues_inv hoff hvalues
    exact ⟨hbefore.toQuiet.trans hquiet, hkept.trans hled.bare⟩

theorem weighAll_frame {column : ColumnRef} {binding after : Binding} {evidence : List Evidence}
    (h : weighAll setting column binding evidence p = .ok after q) : Quiet p q ∧ after.bare = binding.bare := by
  induction evidence generalizing binding p with
  | nil =>
    obtain ⟨rfl, rfl⟩ := pure_iff.mp h
    exact ⟨.refl p, rfl⟩
  | cons first rest ih =>
    obtain ⟨_, _, hfirst, hrest⟩ := bind_iff.mp h
    obtain ⟨hquiet, hbare⟩ := weigh_frame hfirst
    obtain ⟨hquiet', hbare'⟩ := ih hrest
    exact ⟨hquiet.trans hquiet', hbare'.trans hbare⟩

/-! ### Key predicates -/

/-- A predicate on a column that no table answers to does nothing; any other updates its table. -/
theorem onKey_inv {predicate : KeyPredicate} {u : Unit} (h : onKey setting predicate p = .ok u q) :
    (p.scope.resolve predicate.column.key = .unknown ∧ q = p) ∨
      ∃ index binding after p', p.scope.resolve predicate.column.key = .bound index binding ∧
        predicate.refusal = none ∧
        weighAll setting predicate.column (binding.see predicate.column.display) predicate.evidence p =
          .ok after p' ∧
        q = { p' with scope := p'.scope.update index after } := by
  obtain ⟨found, _, hfound, hrun⟩ := bind_iff.mp h
  rw [boundTable_eq] at hfound
  cases hresolve : p.scope.resolve predicate.column.key with
  | unknown =>
    rw [hresolve] at hfound
    cases hfound
    exact .inl ⟨rfl, (pure_iff.mp hrun).2.symm⟩
  | ambiguous =>
    rw [hresolve] at hfound
    cases hfound
  | bound index binding =>
    rw [hresolve] at hfound
    cases hfound
    cases hrefusal : predicate.refusal with
    | some refusal =>
      simp only [hrefusal] at hrun
      exact (refuse_iff.mp hrun).elim
    | none =>
      simp only [hrefusal] at hrun
      obtain ⟨after, p', hweigh, hupdate⟩ := bind_iff.mp hrun
      exact .inr ⟨index, binding, after, p', rfl, rfl, hweigh, modify_iff.mp hupdate⟩

/-- A predicate that holds no value goes through only where no table answers to its column. -/
theorem onOther_inv {left : Sql.Expr} {operator text : String} {u : Unit}
    (h : onOther left operator text p = .ok u q) :
    q = p ∧ ∀ column, ColumnRef.ofExpr? left = some column → p.scope.resolve column.key = .unknown := by
  unfold onOther at h
  cases hcolumn : ColumnRef.ofExpr? left with
  | none =>
    simp only [hcolumn] at h
    exact ⟨(pure_iff.mp h).2.symm, nofun⟩
  | some column =>
    simp only [hcolumn] at h
    obtain ⟨_, _, hget, hresolve⟩ := bind_iff.mp h
    rw [(get_iff.mp hget).1, (get_iff.mp hget).2] at hresolve
    cases hunknown : p.scope.resolve column.key with
    | unknown =>
      simp only [hunknown] at hresolve
      refine ⟨(pure_iff.mp hresolve).2.symm, ?_⟩
      rintro _ ⟨⟩
      exact hunknown
    | bound index binding =>
      simp only [hunknown] at hresolve
      exact (refuse_iff.mp hresolve).elim
    | ambiguous =>
      simp only [hunknown] at hresolve
      exact (refuse_iff.mp hresolve).elim

end Walk
end ShardRouting
