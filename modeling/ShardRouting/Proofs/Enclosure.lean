import ShardRouting.Proofs.Mirroring
import ShardRouting.Proofs.Placement

/-! Queries and the scopes around them. A selection has a scope of its own, and so has a change of rows, but a
    query has none: the values of a `VALUES` list, and the clauses behind any body but a plain selection, are
    walked in the scope around the query. A predicate on a column that stands there speaks to the tables of
    that scope. -/

namespace ShardRouting
open Sql Walk

variable {setting : Setting}

/-! ### Enclosed steps -/

/-- A step that no scope around it takes part in: a scope of its own, or a predicate on no column. -/
def Step.enclosed : Step → Bool
  | .key _ => false
  | .other left _ _ => (ColumnRef.ofExpr? left).isNone
  | .scope .. => true

/-- Where a query stands makes no difference to its scope: that stays as it is, and whatever goes through in no
    scope goes through there, with the same result. -/
structure Sql.Query.Leaves (setting : Setting) (depth : Nat) (p : Progress) (query : Query) : Prop where
  kept : ∀ rewritten q, walkQuery setting depth query p = .ok rewritten q → q.scope = p.scope
  free : ∀ rewritten q, walkQuery setting depth query { p with scope := {} } = .ok rewritten q →
    ∃ q', walkQuery setting depth query p = .ok rewritten q'

namespace Walk

theorem runStep_enclosed {step : Step} (h : step.enclosed = true) (linked : Scope → Scope → Prop) (depth : Nat) :
    Mirrors linked (runStep setting depth step) (runStep setting depth step) := by
  cases step with
  | key predicate => cases h
  | other left operator text =>
    have hnone : ColumnRef.ofExpr? left = none := Option.isNone_iff_eq_none.mp h
    rw [runStep, onOther, hnone]
    exact .pure ()
  | scope aliases sites steps =>
    exact .scope sites rfl rfl (runSteps_mirrors steps (.same setting) (depth + 1) (depth + 1))
      fun _ => (closeScope_mirrors _ _).map _

/-- Enclosed steps do the same in all scopes. -/
theorem runSteps_enclosed {steps : List Step} (h : ∀ step ∈ steps, step.enclosed = true)
    (linked : Scope → Scope → Prop) (depth : Nat) :
    Mirrors linked (runSteps setting depth steps) (runSteps setting depth steps) := by
  induction steps with
  | nil => exact .pure ()
  | cons step steps ih =>
    obtain ⟨hfirst, hrest⟩ := List.forall_mem_cons.mp h
    exact (runStep_enclosed hfirst linked depth).bind fun _ => ih hrest

/-- What does the same in all scopes changes none. -/
theorem Mirrors.keeps_scope {x : Walk Unit} (h : ∀ linked, Mirrors linked x x) {p q : Progress} {u : Unit}
    (hrun : x p = .ok u q) : q.scope = p.scope := by
  obtain ⟨-, -, -, hscope, -, -⟩ := h (fun scope _ => scope = p.scope) p p u q hrun rfl
  exact hscope

/-! ### Steps that are not enclosed -/

/-- A scope in which several tables answer to a key, so that nothing about the key resolves. -/
def contested (key : String) : Scope where
  claims := [(key, .many)]

theorem resolve_contested (key : String) : (contested key).resolve key = .ambiguous := by
  simp [contested, Scope.resolve, Scope.claim?]

/-- A step that is not enclosed fails in some scope. -/
theorem runStep_exposed {step : Step} (h : step.enclosed = false) (setting : Setting) (depth : Nat) :
    ∃ scope, ∀ p q, p.scope = scope → runStep setting depth step p ≠ .ok () q := by
  cases step with
  | key predicate =>
    refine ⟨contested predicate.column.key, fun p q hscope hrun => ?_⟩
    rcases onKey_inv hrun with ⟨hresolve, -⟩ | ⟨index, binding, after, p', hresolve, -, -, -⟩ <;>
      exact absurd (hscope ▸ hresolve) (by simp [resolve_contested])
  | other left operator text =>
    obtain ⟨column, hcolumn⟩ := Option.isSome_iff_exists.mp (Option.isNone_eq_false_iff.mp h)
    refine ⟨contested column.key, fun p q hscope hrun => ?_⟩
    have hresolve := (onOther_inv hrun).2 column hcolumn
    exact absurd (hscope ▸ hresolve) (by simp [resolve_contested])
  | scope aliases sites steps => cases h

theorem runSteps_exposed {steps : List Step} (h : ¬∀ step ∈ steps, step.enclosed = true) (setting : Setting)
    (depth : Nat) : ∃ scope, ∀ p q, p.scope = scope → runSteps setting depth steps p ≠ .ok () q := by
  induction steps with
  | nil => exact absurd (List.forall_mem_nil _) h
  | cons step steps ih =>
    cases hstep : step.enclosed with
    | false =>
      obtain ⟨scope, hfails⟩ := runStep_exposed hstep setting depth
      refine ⟨scope, fun p q hscope hrun => ?_⟩
      obtain ⟨_, p', hfirst, -⟩ := bind_iff.mp hrun
      exact hfails p p' hscope hfirst
    | true =>
      have hrest : ¬∀ step ∈ steps, step.enclosed = true := fun hrest => h (List.forall_mem_cons.mpr ⟨hstep, hrest⟩)
      obtain ⟨scope, hfails⟩ := ih hrest
      refine ⟨scope, fun p q hscope hrun => ?_⟩
      obtain ⟨_, p', hfirst, hsteps⟩ := bind_iff.mp hrun
      have hkept : p'.scope = p.scope :=
        Mirrors.keeps_scope (fun linked => runStep_enclosed hstep linked depth) hfirst
      exact hfails p' q (hkept.trans hscope) hsteps

/-! ### Without sharded tables -/

/-- An engine that shards nothing. -/
def unsharded : Setting where
  engine := { config := fun _ _ _ => none, route := fun _ _ _ _ => .ok none }

theorem binding?_unsharded (site : Site) : site.binding? unsharded = none := by
  unfold Site.binding?
  split <;> rfl

theorem enter_unsharded (sites : List Site) : ({} : Scope).enter (Site.binding? unsharded) sites = {} := by
  induction sites with
  | nil => rfl
  | cons site sites ih => rwa [Scope.enter, binding?_unsharded]

mutual

/-- Where no table is sharded, everything goes through. -/
theorem runStep_unsharded : ∀ (step : Step) (depth : Nat) (p : Progress), p.scope = {} →
    ∃ q, runStep unsharded depth step p = .ok () q ∧ q.scope = {}
  | .key predicate, depth, p, hempty => by
    refine ⟨p, bind_iff.mpr ⟨none, p, ?_, rfl⟩, hempty⟩
    rw [boundTable_eq, hempty]
    rfl
  | .other left operator text, depth, p, hempty => ⟨p, onOther_run fun column _ => by rw [hempty]; rfl, hempty⟩
  | .scope aliases sites steps, depth, p, hempty => by
    obtain ⟨p₀, hbind, hentered, -⟩ := bindSites_run unsharded (depth + 1) sites { p with scope := {} }
    rw [enter_unsharded] at hentered
    obtain ⟨p', hsteps, hleft⟩ := runSteps_unsharded steps (depth + 1) p₀ hentered
    have hinner : (bindSites unsharded (depth + 1) sites >>= fun _ => runSteps unsharded (depth + 1) steps)
        { p with scope := {} } = .ok () p' := bind_iff.mpr ⟨(), p₀, hbind, hsteps⟩
    have hnothing : ∀ binding ∈ p'.scope.bindings, binding.route ≠ none := hleft ▸ List.forall_mem_nil _
    obtain ⟨q, hrun⟩ : ∃ q, runStep unsharded depth (.scope aliases sites steps) p = .ok () q :=
      runScope_run hinner fun binding hbinding hroute =>
      absurd hroute (hnothing binding hbinding)
    obtain ⟨-, -, -, hscope, -⟩ := runScope_inv hrun
    exact ⟨q, hrun, hscope.trans hempty⟩

theorem runSteps_unsharded : ∀ (steps : List Step) (depth : Nat) (p : Progress), p.scope = {} →
    ∃ q, runSteps unsharded depth steps p = .ok () q ∧ q.scope = {}
  | [], _, p, hempty => ⟨p, rfl, hempty⟩
  | step :: steps, depth, p, hempty => by
    obtain ⟨p', hstep, hempty'⟩ := runStep_unsharded step depth p hempty
    obtain ⟨q, hsteps, hempty''⟩ := runSteps_unsharded steps depth p' hempty'
    exact ⟨q, bind_iff.mpr ⟨(), p', hstep, hsteps⟩, hempty''⟩

end

end Walk

/-! ### Queries -/

theorem Sql.Query.leaves_of_enclosed {query : Query} (h : ∀ step ∈ query.steps, step.enclosed = true)
    (setting : Setting) (depth : Nat) (p : Progress) : query.Leaves setting depth p := by
  have hruns : effect (walkQuery setting depth query) = _ := walkQuery_runs query depth
  have hmirrors : ∀ linked, Mirrors linked (effect (walkQuery setting depth query))
      (effect (walkQuery setting depth query)) := fun linked => hruns ▸ runSteps_enclosed h linked depth
  constructor
  · intro rewritten q hrun
    exact Mirrors.keeps_scope hmirrors (effect_iff.mpr ⟨rewritten, hrun⟩)
  · intro rewritten q hrun
    obtain ⟨q', -, heffect, -⟩ := hmirrors (fun _ _ => True) _ p () q (effect_iff.mpr ⟨rewritten, hrun⟩) trivial
    obtain ⟨other, hother⟩ := effect_iff.mp heffect
    -- in no scope the query has but one result
    obtain ⟨_, -, hsame, -⟩ :=
      walkQuery_mirrors query (.alone setting) depth depth p { p with scope := {} } other q' hother rfl
    cases hsame.symm.trans hrun
    exact ⟨q', hother⟩

/-- A query leaves all scopes around it alone if and only if no predicate on a column stands in it outside of its own
    scopes. -/
theorem leaves_iff_enclosed (query : Query) :
    (∀ setting depth p, query.Leaves setting depth p) ↔ ∀ step ∈ query.steps, step.enclosed = true := by
  refine ⟨fun h => ?_, fun h => query.leaves_of_enclosed h⟩
  by_contra hexposed
  have hruns : effect (walkQuery unsharded 0 query) = _ := walkQuery_runs query 0
  obtain ⟨scope, hfails⟩ := runSteps_exposed hexposed unsharded 0
  obtain ⟨q, hrun, -⟩ := runSteps_unsharded query.steps 0 {} rfl
  obtain ⟨rewritten, hwalk⟩ := effect_iff.mp (hruns ▸ hrun)
  obtain ⟨q', hwalk'⟩ := (h unsharded 0 { scope }).free rewritten q hwalk
  exact hfails { scope } q' rfl (hruns ▸ effect_iff.mpr ⟨rewritten, hwalk'⟩)

/-- All predicates of a plain selection stand in its scope, so only common tables can do harm. -/
theorem Sql.Query.enclosed_iff_of_select {query : Query} {select : Select} (hbody : query.body = .select select) :
    (∀ step ∈ query.steps, step.enclosed = true) ↔ ∀ step ∈ Cte.allSteps query.ctes, step.enclosed = true := by
  obtain ⟨recursive, ctes, body, orderBy, limit, offset, limitBy, settings, fetch, ending⟩ := query
  obtain rfl : body = .select select := hbody
  cases select
  rw [Query.steps, List.forall_mem_append]
  exact and_iff_left (List.forall_mem_singleton.mpr rfl)

namespace Sample

/-- `SELECT total FROM audit WHERE total = 1 UNION SELECT total FROM audit WHERE total = 1 ORDER BY id = 2`. -/
def tailed : Query :=
  let audits : Body := .select (select [.table [⟨"audit", none⟩] [] none []]
    (.binary (.ident ⟨"total", none⟩) .eq (literal "1")))
  { query (.setOperation audits "UNION" audits) with orderBy := [keyed "2"] }

/-- `total IN (tailed)`. -/
def among : Expr := .test (.ident ⟨"total", none⟩) false .inSubquery (.subquery tailed)

/-- The scope of a selection from the orders. -/
def open_ : Scope := ({} : Scope).enter (Site.binding? (under [])) (Factor.sites 0 (factors [orders]))

end Sample

/-- The clauses behind a `UNION` route the orders around it, or are in conflict with what routes them. Alone, the
    query has nothing to do with any sharded table. -/
theorem union_tail_routes_around :
    (∃ alone, (Router.routeStatement (Sample.under []) (.query Sample.tailed)).result = .ok alone ∧
      alone.tables = []) ∧
    (∃ routed, (Router.routeStatement (Sample.under [])
        (.query (Sample.query (.select (Sample.select [Sample.orders] Sample.among))))).result = .ok routed ∧
      routed.tables = [⟨none, "orders", ⟨"main", "orders_even"⟩, [.value (.literal (.int 2))]⟩]) ∧
    (Router.routeStatement (Sample.under []) (.query (Sample.query (.select (Sample.select [Sample.orders]
        (.binary (Sample.keyed "1") .and Sample.among)))))).result =
      .error (.conflict "orders" ⟨"main", "orders_odd"⟩ ⟨"main", "orders_even"⟩ (.int 2)) ∧
    ¬Sample.tailed.Leaves (Sample.under []) 1 { scope := Sample.open_ } := by
  refine ⟨⟨_, rfl, rfl⟩, ⟨_, rfl, rfl⟩, rfl, fun h => ?_⟩
  exact absurd (h.kept _ _ rfl) (by decide)

end ShardRouting
