import ShardRouting.Proofs.Effect
import ShardRouting.Proofs.Run
import Mathlib.Data.List.Forall2

/-! The two ends of a scope. The tables of a scope are bound in the order of their places, and settled in
    the order they were bound, each once. -/

namespace ShardRouting
open Sql

/-! ### Binding -/

/-- What a place binds, if the engine shards its table. -/
def Site.binding? (setting : Setting) (site : Site) : Option Binding :=
  match site.name.split? with
  | none => none
  | some (schema, table) =>
    let schema := (schema.map Ident.value).or setting.options.defaultSchema
    (setting.engine.shardKey? setting.context schema table.value).map fun key =>
      { slot := site.slot, schema, table, alias_ := site.alias_, key }

theorem Site.binding?_fresh {setting : Setting} {site : Site} {binding : Binding}
    (h : site.binding? setting = some binding) : binding.route = none ∧ binding.sources = [] := by
  unfold binding? at h
  split at h
  · cases h
  · obtain ⟨key, -, rfl⟩ := Option.map_eq_some_iff.mp h
    exact ⟨rfl, rfl⟩

/-- A scope with one more table, if there is one. -/
def Scope.hold (scope : Scope) : Option Binding → Scope
  | none => scope
  | some binding => (scope.register binding).1

/-- A scope with the tables of some more places. -/
def Scope.enter (bound : Site → Option Binding) (scope : Scope) : List Site → Scope
  | [] => scope
  | site :: sites => (scope.hold (bound site)).enter bound sites

theorem Scope.addClaims_bindings (scope : Scope) (index : Nat) (keys : List String) :
    (scope.addClaims index keys).1.bindings = scope.bindings := by
  induction keys generalizing scope with
  | nil => rfl
  | cons key keys ih => exact ih (scope.addClaim index key).1

theorem Scope.hold_bindings (scope : Scope) (binding : Option Binding) :
    (scope.hold binding).bindings = scope.bindings ++ binding.toList := by
  cases binding with
  | none => exact (List.append_nil _).symm
  | some binding => exact addClaims_bindings _ _ _

theorem Scope.enter_bindings (bound : Site → Option Binding) (scope : Scope) (sites : List Site) :
    (scope.enter bound sites).bindings = scope.bindings ++ sites.filterMap bound := by
  induction sites generalizing scope with
  | nil => exact (List.append_nil _).symm
  | cons site sites ih =>
    rw [enter, ih, hold_bindings, List.append_assoc]
    cases hbound : bound site <;> simp [hbound]

/-! ### Tables that no value decided on -/

/-- The route of such a table: where the engine sends it without value, else its override. -/
def Setting.fallback? (setting : Setting) (schema : Option String) (table : String) : Option Destination :=
  match setting.engine.route setting.context schema table none with
  | .ok (some route) => some route
  | .ok none => match setting.overrides.find? schema table with
    | some (.route route) => some route
    | some (.value value) => setting.sent? schema table (some value)
    | none => none
  | .error _ => none

namespace Walk

variable {setting : Setting} {p q : Progress}

theorem bindTable_run (setting : Setting) (depth : Nat) (site : Site) (p : Progress) :
    ∃ q, bindTable setting depth site.slot site.name site.alias_ p = .ok () q ∧
      q.scope = p.scope.hold (site.binding? setting) ∧ q.routed = p.routed ∧ q.schemas = p.schemas := by
  unfold bindTable Site.binding?
  cases site.name.split? with
  | none => exact ⟨p, rfl, rfl, rfl, rfl⟩
  | some parts =>
    obtain ⟨schema, table⟩ := parts
    simp only
    cases setting.engine.shardKey? setting.context ((schema.map Ident.value).or setting.options.defaultSchema)
        table.value with
    | none => exact ⟨p, rfl, rfl, rfl, rfl⟩
    | some key =>
      let schema := (schema.map Ident.value).or setting.options.defaultSchema
      let binding : Binding := { slot := site.slot, schema, table, alias_ := site.alias_, key }
      obtain ⟨q, hq, hsilent⟩ := forM_tell .ambiguous (p.scope.register binding).2
        { p with log := .bound table.value key depth :: p.log, scope := (p.scope.register binding).1 }
      exact ⟨q, hq, hsilent.scope, hsilent.routed, hsilent.schemas⟩

theorem bindSites_run (setting : Setting) (depth : Nat) (sites : List Site) (p : Progress) :
    ∃ q, bindSites setting depth sites p = .ok () q ∧
      q.scope = p.scope.enter (Site.binding? setting) sites ∧ q.routed = p.routed := by
  induction sites generalizing p with
  | nil => exact ⟨p, rfl, rfl, rfl⟩
  | cons site sites ih =>
    obtain ⟨p', hsite, hscope, hrouted, -⟩ := bindTable_run setting depth site p
    obtain ⟨q, hsites, hscope', hrouted'⟩ := ih p'
    exact ⟨q, bind_iff.mpr ⟨(), p', hsite, hsites⟩, by rw [hscope', hscope, Scope.enter],
      hrouted'.trans hrouted⟩

theorem bindSites_schemas {depth : Nat} {sites : List Site} {u : Unit}
    (h : bindSites setting depth sites p = .ok u q) : q.schemas = p.schemas := by
  induction sites generalizing p with
  | nil =>
    obtain ⟨-, rfl⟩ := pure_iff.mp h
    rfl
  | cons site sites ih =>
    obtain ⟨_, p', hsite, hrest⟩ := bind_iff.mp h
    obtain ⟨_, hsite', -, -, hschemas⟩ := bindTable_run setting depth site p
    cases hsite.symm.trans hsite'
    exact (ih hrest).trans hschemas

/-! ### Settling -/

/-- A bound table and what it has become. -/
structure Settles (setting : Setting) (binding : Binding) (routed : RoutedTable) : Prop where
  schema : routed.schema = binding.schema
  table : routed.table = binding.table.value
  route : ∀ route, binding.route = some route → routed.route = route ∧ routed.sources = binding.sources
  fallback : binding.route = none →
    setting.fallback? binding.schema binding.table.value = some routed.route ∧ routed.sources = []

theorem fallbackRoute_inv {binding : Binding} {route : Destination}
    (h : fallbackRoute setting binding p = .ok route q) :
    Silent p q ∧ setting.fallback? binding.schema binding.table.value = some route := by
  unfold Setting.fallback?
  obtain ⟨found, _, hask, h⟩ := bind_iff.mp h
  rw [(ask_iff.mp hask).1]
  cases found with
  | some route =>
    obtain ⟨_, _, htell, h⟩ := bind_iff.mp h
    obtain ⟨rfl, rfl⟩ := pure_iff.mp h
    exact ⟨(ask_silent hask).trans (tell_silent htell), rfl⟩
  | none =>
    cases hfind : setting.overrides.find? binding.schema binding.table.value with
    | none =>
      simp only [hfind] at h
      split at h <;> exact (throw_iff.mp h).elim
    | some override =>
      cases override with
      | route route =>
        simp only [hfind] at h
        obtain ⟨_, _, htell, h⟩ := bind_iff.mp h
        obtain ⟨rfl, rfl⟩ := pure_iff.mp h
        exact ⟨(ask_silent hask).trans (tell_silent htell), rfl⟩
      | value value =>
        simp only [hfind] at h
        obtain ⟨_, _, htell, h⟩ := bind_iff.mp h
        obtain ⟨found, _, hask', h⟩ := bind_iff.mp h
        cases found with
        | some route =>
          obtain ⟨rfl, rfl⟩ := pure_iff.mp h
          exact ⟨(ask_silent hask).trans ((tell_silent htell).trans (ask_silent hask')),
            Setting.sent?_iff.mpr (ask_iff.mp hask').1⟩
        | none => exact (throw_iff.mp h).elim

theorem fallbackRoute_run {binding : Binding} {route : Destination}
    (h : setting.fallback? binding.schema binding.table.value = some route) (p : Progress) :
    ∃ q, fallbackRoute setting binding p = .ok route q := by
  unfold Setting.fallback? at h
  unfold fallbackRoute
  cases hroute : setting.engine.route setting.context binding.schema binding.table.value none with
  | error e => simp [hroute] at h
  | ok found =>
    cases found with
    | some _ =>
      simp only [hroute, Option.some.injEq] at h
      subst h
      exact ⟨_, bind_iff.mpr ⟨_, _, ask_iff.mpr ⟨hroute, rfl⟩, rfl⟩⟩
    | none =>
      simp only [hroute] at h
      cases hfind : setting.overrides.find? binding.schema binding.table.value with
      | none => simp [hfind] at h
      | some override =>
        cases override with
        | route _ =>
          simp only [hfind, Option.some.injEq] at h
          subst h
          exact ⟨_, bind_iff.mpr ⟨_, _, ask_iff.mpr ⟨hroute, rfl⟩, rfl⟩⟩
        | value value =>
          simp only [hfind] at h
          have hsent (p : Progress) : ∃ q, ask setting binding.schema binding.table.value (some value) p =
              .ok (some route) q :=
            ⟨_, ask_iff.mpr ⟨Setting.sent?_iff.mp h, rfl⟩⟩
          obtain ⟨q, hq⟩ := hsent { p with
            log := .overriddenBy binding.table.value value :: .asked binding.schema binding.table.value none :: p.log }
          exact ⟨q, bind_iff.mpr ⟨none, _, ask_iff.mpr ⟨hroute, rfl⟩,
            bind_iff.mpr ⟨(), _, tell_iff.mpr rfl, bind_iff.mpr ⟨some route, q, hq, rfl⟩⟩⟩⟩

theorem settle_inv {binding : Binding} {routed : RoutedTable} (h : settle setting binding p = .ok routed q) :
    Quiet p q ∧ Settles setting binding routed := by
  unfold settle at h
  cases hroute : binding.route with
  | some route =>
    simp only [hroute] at h
    obtain ⟨rfl, rfl⟩ := pure_iff.mp h
    exact ⟨.refl p, rfl, rfl, fun _ h => ⟨Option.some.inj (hroute.symm.trans h), rfl⟩,
      fun h => absurd h (by simp [hroute])⟩
  | none =>
    simp only [hroute] at h
    obtain ⟨route, _, hfallback, h⟩ := bind_iff.mp h
    obtain ⟨_, _, hschema, h⟩ := bind_iff.mp h
    obtain ⟨rfl, rfl⟩ := pure_iff.mp h
    obtain ⟨hsilent, hroute'⟩ := fallbackRoute_inv hfallback
    exact ⟨hsilent.toQuiet.trans (addSchema_quiet hschema), rfl, rfl, fun _ h => absurd h (by simp [hroute]),
      fun _ => ⟨hroute', rfl⟩⟩

/-- A table that has a route, or a fallback, is settled. -/
theorem settle_run {binding : Binding}
    (h : binding.route = none → setting.fallback? binding.schema binding.table.value ≠ none) (p : Progress) :
    ∃ routed q, settle setting binding p = .ok routed q := by
  unfold settle
  cases hroute : binding.route with
  | some route => exact ⟨_, p, rfl⟩
  | none =>
    obtain ⟨route, hfallback⟩ := Option.ne_none_iff_exists'.mp (h hroute)
    obtain ⟨q, hrun⟩ := fallbackRoute_run hfallback p
    exact ⟨_, _, bind_iff.mpr ⟨route, q, hrun, bind_iff.mpr ⟨(), _, modify_iff.mpr rfl, rfl⟩⟩⟩

/-- The relocation of a settled table. -/
def relocationFor (setting : Setting) (aliases : Bool) (binding : Binding) (routed : RoutedTable) : Relocation where
  slot := binding.slot
  route := routed.route
  alias_ := if aliases then aliasFor setting.scan binding routed.route else none

theorem closeScope_inv {aliases : Bool} {bindings : List Binding} {relocations : List Relocation}
    (h : closeScope setting aliases bindings p = .ok relocations q) :
    ∃ tables, q.scope = p.scope ∧ q.routed = p.routed ++ tables ∧ List.Forall₂ (Settles setting) bindings tables ∧
      relocations = List.zipWith (relocationFor setting aliases) bindings tables := by
  induction bindings generalizing p relocations with
  | nil =>
    obtain ⟨rfl, rfl⟩ := pure_iff.mp h
    exact ⟨[], rfl, (List.append_nil _).symm, .nil, rfl⟩
  | cons binding bindings ih =>
    obtain ⟨routed, _, hsettle, h⟩ := bind_iff.mp h
    obtain ⟨_, _, hadd, h⟩ := bind_iff.mp h
    obtain ⟨rest, hrest, rfl⟩ := map_iff.mp h
    obtain ⟨hquiet, hsettles⟩ := settle_inv hsettle
    obtain ⟨tables, hscope, hrouted, hall, hrelocations⟩ := ih hrest
    rw [modify_iff.mp hadd] at hscope hrouted
    refine ⟨routed :: tables, hscope.trans hquiet.scope, ?_, .cons hsettles hall, ?_⟩
    · simp [hrouted, hquiet.routed]
    · rw [hrelocations]
      rfl

/-- A scope closes when each of its tables has a route or a fallback. -/
theorem closeScope_run (setting : Setting) (aliases : Bool) {bindings : List Binding}
    (h : ∀ binding ∈ bindings, binding.route = none →
      setting.fallback? binding.schema binding.table.value ≠ none) (p : Progress) :
    ∃ relocations q, closeScope setting aliases bindings p = .ok relocations q := by
  induction bindings generalizing p with
  | nil => exact ⟨[], p, rfl⟩
  | cons binding bindings ih =>
    obtain ⟨hfirst, hothers⟩ := List.forall_mem_cons.mp h
    obtain ⟨routed, p', hsettle⟩ := settle_run hfirst p
    obtain ⟨relocations, q, hrest⟩ := ih hothers { p' with routed := p'.routed ++ [routed] }
    exact ⟨_, q, bind_iff.mpr ⟨routed, p', hsettle, bind_iff.mpr ⟨(), _, modify_iff.mpr rfl, map_iff.mpr
      ⟨relocations, hrest, rfl⟩⟩⟩⟩

/-! ### Scopes as a whole -/

theorem runScope_inv {aliases : Bool} {step : Walk Unit} {u : Unit} (h : runScope setting aliases step p = .ok u q) :
    ∃ p' tables, step { p with scope := {} } = .ok () p' ∧ q.scope = p.scope ∧
      q.routed = p'.routed ++ tables ∧ List.Forall₂ (Settles setting) p'.scope.bindings tables := by
  obtain ⟨⟨_, scope⟩, _, hscope, hclose⟩ := bind_iff.mp h
  obtain ⟨p', hstep, hleft, rfl⟩ := inScope_iff.mp hscope
  obtain rfl : scope = p'.scope := hleft
  obtain ⟨relocations, hclose, -⟩ := map_iff.mp hclose
  obtain ⟨tables, hscope, hrouted, hsettles, -⟩ := closeScope_inv hclose
  exact ⟨p', tables, hstep, hscope, hrouted, hsettles⟩

theorem runScope_run {aliases : Bool} {step : Walk Unit} {p' : Progress}
    (hstep : step { p with scope := {} } = .ok () p')
    (h : ∀ binding ∈ p'.scope.bindings, binding.route = none →
      setting.fallback? binding.schema binding.table.value ≠ none) :
    ∃ q, runScope setting aliases step p = .ok () q := by
  obtain ⟨relocations, q, hclose⟩ := closeScope_run setting aliases h { p' with scope := p.scope }
  exact ⟨q, bind_iff.mpr ⟨((), p'.scope), _, inScope_iff.mpr ⟨p', hstep, rfl, rfl⟩,
    map_iff.mpr ⟨relocations, hclose, rfl⟩⟩⟩

end Walk
end ShardRouting
