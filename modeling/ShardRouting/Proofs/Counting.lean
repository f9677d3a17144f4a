import ShardRouting.Proofs.Listing

/-! Ranges of values. A range on a shard key is worth the list of its integers: both put them to the engine one by
    one, and they differ in the sources that they leave behind. A range whose integers cannot be counted, or are too
    many, puts no question at all. -/

namespace ShardRouting
open Sql

/-! ### Counting up -/

/-- All integers from one to another, in order. -/
structure CountsUp (first last : Int64) (values : List ShardValue) : Prop where
  length : (values.length : Int) = last.toInt - first.toInt + 1
  each : ∀ i < values.length, ∃ n : Int64, values[i]? = some (.int n) ∧ n.toInt = first.toInt + i

/-- There is but one such list. -/
theorem CountsUp.unique {first last : Int64} {values others : List ShardValue} (h : CountsUp first last values)
    (h' : CountsUp first last others) : values = others := by
  have hlength : values.length = others.length := by
    have hvalues := h.length
    have hothers := h'.length
    omega
  refine List.ext_getElem? fun i => ?_
  by_cases hi : i < values.length
  · obtain ⟨n, hvalue, hn⟩ := h.each i hi
    obtain ⟨m, hother, hm⟩ := h'.each i (hlength ▸ hi)
    rw [hvalue, hother, Int64.toInt_inj.mp (hn.trans hm.symm)]
  · rw [List.getElem?_eq_none (by omega), List.getElem?_eq_none (by omega)]

theorem integersBetween_countsUp {first last : Int64} (h : first ≤ last) :
    CountsUp first last (integersBetween first last) := by
  rw [Int64.le_iff_toInt_le] at h
  have hlow := first.le_toInt
  have hhigh := last.toInt_lt
  have hlength : (integersBetween first last).length = (last.toInt - first.toInt + 1).toNat := by
    simp [integersBetween]
  refine ⟨by omega, fun i hi => ⟨Int64.ofInt (first.toInt + i), ?_, ?_⟩⟩
  · rw [hlength] at hi
    simp [integersBetween, hi]
  · exact Int64.toInt_ofInt_of_le (by omega) (by omega)

/-! ### Questions -/

/-- A question to the rule engine. -/
def Event.isQuestion : Event → Bool
  | .asked .. => true
  | _ => false

/-- The questions put to the engine so far, in order. -/
def Progress.questions (p : Progress) : List Event := p.log.reverse.filter Event.isQuestion

theorem Progress.questions_log (p : Progress) (event : Event) :
    { p with log := event :: p.log }.questions = p.questions ++ if event.isQuestion then [event] else [] := by
  simp [Progress.questions, List.filter_append, List.filter_cons]

/-- The question where a table is sent for a value. -/
def Binding.question (binding : Binding) (value : ShardValue) : Event :=
  .asked binding.schema binding.table.value (some value)

namespace Walk

variable {α : Type} {setting : Setting} {column : ColumnRef} {p q : Progress} {binding after : Binding}
  {error : RoutingError}

/-- The state at the end of a run, whether it failed or not. -/
def lastState : EStateM.Result RoutingError Progress α → Progress
  | .ok _ p => p
  | .error _ p => p

theorem ask_failed {schema : Option String} {table : String} {value : Option ShardValue} {fault : ShardingError}
    (h : setting.engine.route setting.context schema table value = .error fault) :
    ask setting schema table value p = .error (.engine fault) { p with log := .asked schema table value :: p.log } := by
  have htell : tell (.asked schema table value) p = .ok () { p with log := .asked schema table value :: p.log } := rfl
  unfold ask
  rw [bind_ok htell, h]
  rfl

theorem acceptRoute_questions (binding : Binding) (route : Destination) (value : ShardValue) (p : Progress) :
    (lastState (acceptRoute binding route value p)).questions = p.questions := by
  unfold acceptRoute
  cases binding.route with
  | some first =>
    cases hsame : first.same route <;> simp only [hsame, if_true, Bool.false_eq_true, if_false] <;> rfl
  | none => exact (Progress.questions_log p (.routed binding.table.value route)).trans (List.append_nil _)

/-- To route a value is to put one question. -/
theorem routeValue_questions (hon : setting.overrides.sqlRoutingDisabled = false) (binding : Binding)
    (value : ShardValue) (p : Progress) :
    (lastState (routeValue setting binding value p)).questions = p.questions ++ [binding.question value] := by
  have hasked := Progress.questions_log p (binding.question value)
  rw [routeValue, if_neg (Bool.eq_false_iff.mp hon)]
  change (lastState (EStateM.bind (ask setting _ _ _) _ p)).questions = _
  unfold EStateM.bind
  cases hfound : setting.engine.route setting.context binding.schema binding.table.value (some value) with
  | error fault =>
    rw [ask_failed hfound]
    exact hasked
  | ok found =>
    rw [ask_iff.mpr ⟨hfound, rfl⟩]
    cases found with
    | none => exact hasked
    | some route => exact (acceptRoute_questions binding route value _).trans hasked

/-- What a run over values asks: a question for each, in order, until one fails. -/
inductive AsksEach (setting : Setting) (binding : Binding) (values : List ShardValue) (p : Progress) :
    EStateM.Result RoutingError Progress α → Prop
  | ok (a : α) {q : Progress} (h : q.questions = p.questions ++ values.map binding.question) :
    AsksEach setting binding values p (.ok a q)
  | error {before rest : List ShardValue} {value : ShardValue} {after : Binding} {r q : Progress}
    {found : RoutingError} (hsplit : values = before ++ value :: rest)
    (hbefore : routeValues setting binding before p = .ok after r)
    (hfails : routeValue setting after value r = .error found q)
    (h : q.questions = p.questions ++ (before ++ [value]).map binding.question) :
    AsksEach setting binding values p (.error found q)

theorem routeValues_asks (hon : setting.overrides.sqlRoutingDisabled = false) (values : List ShardValue) :
    ∀ (binding : Binding) (p : Progress), AsksEach setting binding values p (routeValues setting binding values p) := by
  induction values with
  | nil => exact fun binding p => .ok binding (List.append_nil p.questions).symm
  | cons value values ih =>
    intro binding p
    have hfirst : (lastState _).questions = _ := routeValue_questions hon binding value p
    change AsksEach setting binding (value :: values) p
      ((routeValue setting binding value >>= fun after => routeValues setting after values) p)
    cases hrun : routeValue setting binding value p with
    | error found q =>
      rw [hrun] at hfirst
      rw [bind_error hrun]
      exact .error (List.nil_append _).symm rfl hrun hfirst
    | ok after q =>
      have hfirst : q.questions = p.questions ++ [binding.question value] := by rwa [hrun] at hfirst
      rw [bind_ok hrun]
      have hquestion : after.question = binding.question := by
        obtain ⟨-, first, rfl, -⟩ := routeValue_inv hon hrun
        rfl
      have hrest := ih after q
      cases hlast : routeValues setting after values q with
      | ok last r =>
        rw [hlast] at hrest
        cases hrest with
        | ok _ hasked =>
          refine .ok last ?_
          rw [hasked, hfirst, hquestion]
          exact List.append_assoc ..
      | error found r =>
        rw [hlast] at hrest
        cases hrest with
        | @error before rest fails last between _ _ hsplit hbefore hfails hasked =>
          have hreached : routeValues setting binding (value :: before) p = .ok last between :=
            (bind_ok hrun).trans hbefore
          refine .error (congrArg (value :: ·) hsplit) hreached hfails ?_
          rw [hasked, hfirst, hquestion]
          exact List.append_assoc ..

/-! ### Sources -/

theorem acceptRoute_sources (binding : Binding) (sources : List RouteSource) (route : Destination)
    (value : ShardValue) : acceptRoute { binding with sources } route value = (do
      let after ← acceptRoute binding route value
      return { after with sources }) := by
  obtain ⟨slot, schema, table, alias_, key, seenKey, first, kept⟩ := binding
  unfold acceptRoute
  cases first with
  | none => rfl
  | some first =>
    cases hsame : first.same route with
    | true => simp only [hsame, if_true, pure_bind]
    | false =>
      simp only [hsame, Bool.false_eq_true, if_false]
      rfl

theorem routeValue_sources (binding : Binding) (sources : List RouteSource) (value : ShardValue) :
    routeValue setting { binding with sources } value = (do
      let after ← routeValue setting binding value
      return { after with sources }) := by
  unfold routeValue
  split
  · rfl
  · rw [bind_assoc]
    congr 1
    funext found
    cases found with
    | none => rfl
    | some route => exact acceptRoute_sources binding sources route value

/-- The sources of a table have no part in where its values are sent. -/
theorem routeValues_sources (values : List ShardValue) : ∀ (binding : Binding) (sources : List RouteSource),
    routeValues setting { binding with sources } values = (do
      let after ← routeValues setting binding values
      return { after with sources }) := by
  induction values with
  | nil => exact fun _ _ => rfl
  | cons value values ih =>
    intro binding sources
    calc routeValues setting { binding with sources } (value :: values)
      _ = routeValue setting { binding with sources } value >>= fun after => routeValues setting after values := rfl
      _ = routeValue setting binding value >>= fun after => routeValues setting { after with sources } values := by
        rw [routeValue_sources, bind_assoc]
        rfl
      _ = routeValue setting binding value >>= fun after => routeValues setting after values >>= fun last =>
          pure { last with sources } := by
        congr 1
        funext after
        exact ih after sources
      _ = _ := (bind_assoc _ _ _).symm

theorem routeValues_keep (values : List ShardValue) (binding : Binding) (f : Binding → Walk α) :
    routeValues setting binding values >>= f =
      routeValues setting binding values >>= fun after => f { after with sources := binding.sources } := by
  calc routeValues setting binding values >>= f
    _ = (do
        let after ← routeValues setting binding values
        return { after with sources := binding.sources }) >>= f := by
      rw [← routeValues_sources values binding binding.sources]
    _ = routeValues setting binding values >>= fun after => f { after with sources := binding.sources } := by
      rw [bind_assoc]
      rfl

/-! ### Lists of known values -/

/-- The items of a list have these values, from these sources. -/
def ReadAs (setting : Setting) : List Expr → List (ShardValue × ValueSource) → Prop :=
  List.Forall₂ fun e read => readValue setting.scan setting.params e = .ok (.known read.1 read.2)

theorem routeItem_known (hon : setting.overrides.sqlRoutingDisabled = false) {e : Expr} {value : ShardValue}
    {source : ValueSource} (h : readValue setting.scan setting.params e = .ok (.known value source))
    (binding : Binding) : routeItem setting column binding e = (do
      let after ← routeValue setting binding value
      return { after with sources := after.sources ++ [.value source] }) := by
  have hread : readFor setting column e = pure (.known value source) := by
    unfold readFor
    rw [h]
  rw [routeItem, hread, pure_bind]
  simp only [addSource, hon, Bool.false_eq_true, if_false]

/-- To route known items is to route their values and to keep their sources. -/
theorem routeItems_known (hon : setting.overrides.sqlRoutingDisabled = false) {items : List Expr}
    {read : List (ShardValue × ValueSource)} (h : ReadAs setting items read) : ∀ binding : Binding,
    routeItems setting column binding items = (do
      let after ← routeValues setting binding (read.map Prod.fst)
      return { after with sources := binding.sources ++ read.map fun r => .value r.2 }) := by
  induction h with
  | nil =>
    intro binding
    simp [routeItems, routeValues]
  | @cons e r es rs he _ ih =>
    intro binding
    calc routeItems setting column binding (e :: es)
      _ = routeValue setting binding r.1 >>= fun after =>
          routeItems setting column { after with sources := after.sources ++ [.value r.2] } es := by
        rw [routeItems, routeItem_known hon he, bind_assoc]
        rfl
      _ = routeValue setting binding r.1 >>= fun after =>
          routeItems setting column { after with sources := binding.sources ++ [.value r.2] } es := by
        rw [← routeValues_singleton, routeValues_keep]
      _ = routeValue setting binding r.1 >>= fun after => routeValues setting after (rs.map Prod.fst) >>= fun last =>
          pure { last with sources := binding.sources ++ [.value r.2] ++ rs.map fun r => .value r.2 } := by
        congr 1
        funext after
        rw [ih, routeValues_sources, bind_assoc]
        rfl
      _ = _ := by
        simp only [List.append_assoc]
        exact (bind_assoc _ _ _).symm

/-! ### Ranges and lists -/

/-- Both values have an integer view, in order, and no more than `limit` integers lie between them. -/
structure Spans (limit : Nat) (low high : ShardValue) (first last : Int64) : Prop where
  low : low.toWord? = some first
  high : high.toWord? = some last
  ordered : first ≤ last
  narrow : last.toInt - first.toInt + 1 ≤ limit

/-- Two ends of a run that differ at most in the sources that a table has been given. -/
inductive SameBut (index : Nat) (sources others : List RouteSource) :
    EStateM.Result RoutingError Progress Unit → EStateM.Result RoutingError Progress Unit → Prop
  | ok (after : Binding) (p : Progress) : SameBut index sources others
    (.ok () { p with scope := p.scope.update index { after with sources } })
    (.ok () { p with scope := p.scope.update index { after with sources := others } })
  | error (found : RoutingError) (p : Progress) : SameBut index sources others (.error found p) (.error found p)

variable {index : Nat} {low high : Expr} {lowValue highValue : ShardValue} {lowSource highSource : ValueSource}
  {values : List ShardValue}

theorem sameBut_updated (x : Walk Binding) (index : Nat) (sources others : List RouteSource) (p : Progress) :
    SameBut index sources others ((x >>= fun after => updateTable index { after with sources }) p)
      ((x >>= fun after => updateTable index { after with sources := others }) p) := by
  cases hrun : x p with
  | ok after q =>
    rw [bind_ok hrun, bind_ok hrun]
    exact .ok after q
  | error found q =>
    rw [bind_error hrun, bind_error hrun]
    exact .error found q

/-- No question is put when a table is written down. -/
theorem AsksEach.updated {x : Walk Binding} (h : AsksEach setting binding values p (x p)) (index : Nat)
    (f : Binding → Binding) :
    AsksEach setting binding values p ((x >>= fun after => updateTable index (f after)) p) := by
  cases hrun : x p with
  | ok after q =>
    rw [hrun] at h
    rw [bind_ok hrun]
    cases h with
    | ok _ hasked => exact .ok () hasked
  | error found q =>
    rw [hrun] at h
    rw [bind_error hrun]
    cases h with
    | error hsplit hbefore hfails hasked => exact .error hsplit hbefore hfails hasked

section
variable (hon : setting.overrides.sqlRoutingDisabled = false)
  (hbound : p.scope.resolve column.key = .bound index binding)
include hon hbound

/-- A list of known items routes their values. -/
theorem onInList_known {items : List Expr} {read : List (ShardValue × ValueSource)} (hread : ReadAs setting items read)
    (hitems : items ≠ []) :
    onInList setting false column false items p =
      (routeValues setting (binding.see column.display) (read.map Prod.fst) >>= fun after => updateTable index
        { after with sources := binding.sources ++ read.map fun r => .value r.2 }) p := by
  rw [onInList_bound hbound hitems, routeItems_known hon hread, bind_assoc]
  rfl

variable (hlow : readValue setting.scan setting.params low = .ok (.known lowValue lowSource))
  (hhigh : readValue setting.scan setting.params high = .ok (.known highValue highSource))
include hlow hhigh

/-- A range with known bounds routes its integers. -/
theorem onBetween_known :
    onBetween setting false column false low high p =
      (rangeOf setting.options.maxBetweenSpan
          (column.display ++ " BETWEEN " ++ low.text ++ " AND " ++ high.text) lowValue highValue >>= fun values =>
        routeValues setting (binding.see column.display) values >>= fun after => updateTable index
          { after with sources := binding.sources ++ [.range lowSource highSource] }) p := by
  have hsource : ∀ after, addSource setting (.range lowSource highSource) after =
      { after with sources := after.sources ++ [.range lowSource highSource] } := by
    simp [addSource, hon]
  have hreads : onBetween setting false column false low high p =
      (routeRange setting (column.display ++ " BETWEEN " ++ low.text ++ " AND " ++ high.text)
        (binding.see column.display) (.known lowValue lowSource) (.known highValue highSource) >>=
          updateTable index) p :=
    (boundTable_bind hbound).trans ((bind_ok (readFor_known hlow p)).trans (bind_ok (readFor_known hhigh p)))
  rw [hreads, routeRange]
  simp only [bind_assoc, pure_bind, hsource]
  refine congrFun (congrArg (rangeOf _ _ _ _ >>= ·) (funext fun values => ?_)) p
  exact routeValues_keep values (binding.see column.display) _

theorem onBetween_spans {first last : Int64}
    (h : Spans setting.options.maxBetweenSpan lowValue highValue first last) :
    onBetween setting false column false low high p =
      (routeValues setting (binding.see column.display) (integersBetween first last) >>= fun after =>
        updateTable index { after with sources := binding.sources ++ [.range lowSource highSource] }) p := by
  rw [onBetween_known hon hbound hlow hhigh]
  exact bind_ok (rangeOf_iff.mpr ⟨first, last, h.low, h.high, h.ordered, h.narrow, rfl, rfl⟩)

theorem onBetween_refused (negated : Bool)
    (h : negated = true ∨ ¬∃ first last, Spans setting.options.maxBetweenSpan lowValue highValue first last) :
    ∃ text fault, onBetween setting false column negated low high p = .error (.predicate text fault) p := by
  cases negated with
  | true => exact ⟨_, _, boundTable_bind hbound⟩
  | false =>
    have hnone := h.resolve_left Bool.false_ne_true
    rw [onBetween_known hon hbound hlow hhigh]
    cases hfault : rangeFault? setting.options.maxBetweenSpan lowValue highValue with
    | some fault =>
      rw [rangeOf_fault hfault]
      exact ⟨_, fault, rfl⟩
    | none =>
      obtain ⟨values, hrange⟩ := rangeOf_whole "" hfault
      have hrun : rangeOf setting.options.maxBetweenSpan "" lowValue highValue p = .ok values p := by
        rw [hrange]
        rfl
      obtain ⟨first, last, hfirst, hlast, hle, hspan, -⟩ := rangeOf_iff.mp hrun
      exact absurd ⟨first, last, hfirst, hlast, hle, hspan⟩ hnone

end

end Walk

open Walk

/-- A range on a bound column whose bounds are known is worth the list of its integers, one after the other, but for
    the source that it leaves. When they cannot be counted, are too many, or the range is negated, it is refused, and
    nothing comes of it before. -/
theorem range_as_list {setting : Setting} {column : ColumnRef} {p : Progress} {index : Nat} {binding : Binding}
    {low high : Expr} {lowValue highValue : ShardValue} {lowSource highSource : ValueSource}
    (hon : setting.overrides.sqlRoutingDisabled = false)
    (hbound : p.scope.resolve column.key = .bound index binding)
    (hlow : readValue setting.scan setting.params low = .ok (.known lowValue lowSource))
    (hhigh : readValue setting.scan setting.params high = .ok (.known highValue highSource)) :
    (∀ first last, Spans setting.options.maxBetweenSpan lowValue highValue first last →
      ∃ values, CountsUp first last values ∧
        AsksEach setting (binding.see column.display) values p (onBetween setting false column false low high p) ∧
        ∀ items read, ReadAs setting items read → read.map Prod.fst = values →
          SameBut index (binding.sources ++ [.range lowSource highSource])
            (binding.sources ++ read.map fun r => .value r.2)
            (onBetween setting false column false low high p) (onInList setting false column false items p)) ∧
    ∀ negated, (negated = true ∨
        ¬∃ first last, Spans setting.options.maxBetweenSpan lowValue highValue first last) →
      ∃ text fault, onBetween setting false column negated low high p = .error (.predicate text fault) p := by
  refine ⟨fun first last h => ⟨integersBetween first last, integersBetween_countsUp h.ordered, ?_, ?_⟩,
    onBetween_refused hon hbound hlow hhigh⟩
  · rw [onBetween_spans hon hbound hlow hhigh h]
    exact (routeValues_asks hon _ _ p).updated index _
  · intro items read hread hvalues
    have hitems : items ≠ [] := by
      rintro rfl
      cases hread
      have hlength := (integersBetween_countsUp h.ordered).length
      rw [← hvalues] at hlength
      have hordered := Int64.le_iff_toInt_le.mp h.ordered
      simp only [List.map_nil, List.length_nil] at hlength
      omega
    rw [onBetween_spans hon hbound hlow hhigh h, onInList_known hon hbound hread hitems, hvalues]
    exact sameBut_updated _ index _ _ p

namespace Sample

/-- The greatest integer of a word. -/
def greatest : Expr := literal "9223372036854775807"

/-- The one before it. -/
def next : Expr := literal "9223372036854775806"

theorem read_word {digits : String} {n : Int64} (h : numberValue? digits = some (.int n)) :
    readValue (under []).scan (under []).params (literal digits) = .ok (.known (.int n) (.literal (.int n))) := by
  simp only [literal, readValue, literalValue?, h]
  rfl

end Sample

/-- `id BETWEEN 9223372036854775806 AND 9223372036854775807` counts to the end of a word, as the list of both does, and
    its negation is refused. -/
theorem range_as_list_greatest :
    (Sample.under []).overrides.sqlRoutingDisabled = false ∧
      Sample.opened.scope.resolve Sample.key.key = .bound 0 Sample.ordersBound ∧
      AsksEach (Sample.under []) (Sample.ordersBound.see "id") [.int 9223372036854775806, .int 9223372036854775807]
        Sample.opened (onBetween (Sample.under []) false Sample.key false Sample.next Sample.greatest Sample.opened) ∧
      SameBut 0 [.range (.literal (.int 9223372036854775806)) (.literal (.int 9223372036854775807))]
        [.value (.literal (.int 9223372036854775806)), .value (.literal (.int 9223372036854775807))]
        (onBetween (Sample.under []) false Sample.key false Sample.next Sample.greatest Sample.opened)
        (onInList (Sample.under []) false Sample.key false [Sample.next, Sample.greatest] Sample.opened) ∧
      ∃ text fault, onBetween (Sample.under []) false Sample.key true Sample.next Sample.greatest Sample.opened =
        .error (.predicate text fault) Sample.opened := by
  have hon : (Sample.under []).overrides.sqlRoutingDisabled = false := rfl
  have hbound : Sample.opened.scope.resolve Sample.key.key = .bound 0 Sample.ordersBound := by decide
  have hlow := Sample.read_word (by decide : numberValue? "9223372036854775806" = some (.int 9223372036854775806))
  have hhigh := Sample.read_word (by decide : numberValue? "9223372036854775807" = some (.int 9223372036854775807))
  have hspans : Spans (Sample.under []).options.maxBetweenSpan (.int 9223372036854775806) (.int 9223372036854775807)
      9223372036854775806 9223372036854775807 := ⟨rfl, rfl, by decide, by decide⟩
  have htwo : integersBetween 9223372036854775806 9223372036854775807 =
      [.int 9223372036854775806, .int 9223372036854775807] := by decide
  obtain ⟨hcounts, hrefused⟩ := range_as_list hon hbound hlow hhigh
  obtain ⟨values, hup, hasks, hsame⟩ := hcounts _ _ hspans
  obtain rfl := ((integersBetween_countsUp hspans.ordered).unique hup).symm.trans htwo
  refine ⟨hon, hbound, hasks, ?_, hrefused true (.inl rfl)⟩
  exact hsame [Sample.next, Sample.greatest] [(.int 9223372036854775806, .literal (.int 9223372036854775806)),
    (.int 9223372036854775807, .literal (.int 9223372036854775807))] (.cons hlow (.cons hhigh .nil)) rfl

end ShardRouting
