import ShardRouting.Proofs.Agreement
import ShardRouting.Proofs.Commuting

/-! Filling placeholders in. A bound parameter behaves as the literal that it carries: when expressions that read as
    literals of the same values stand in the places of some bound placeholders, the statement is routed in the same
    way. -/

namespace ShardRouting
open Sql Walk

variable {setting : Setting} {statement : Statement} {routed : Routed}
  {filling : List Nat → String → Position → Option Expr}

/-- Each placeholder that gives way is bound, and what gives way to reads as a literal of the bound value. -/
def Setting.Fills (setting : Setting) (filling : List Nat → String → Position → Option Expr) : Prop :=
  ∀ place text position e, filling place text position = some e → ∃ key value,
    readValue setting.scan setting.params (.literal (.placeholder text position)) = .ok (.known value (.param key)) ∧
      readValue setting.scan setting.params e = .ok (.ofLiteral value)

/-- A source of a script and what is read in its place in a filled script: the same source, but for parameters
    that have become literals of their values. -/
structure Replaced (setting : Setting) (steps steps' : List Step) (source source' : RouteSource) : Prop where
  filled : source.Filled setting.params source'
  read : ∃ piece piece', (piece, piece') ∈ (Step.allEvidence steps).zip (Step.allEvidence steps') ∧
    piece.source? setting.scan = some source ∧ piece'.source? setting.scan = some source'

/-- A table of a filled statement, routed as it was before. -/
structure Refilled (setting : Setting) (steps steps' : List Step) (first again : RoutedTable) : Prop where
  schema : again.schema = first.schema
  table : again.table = first.table
  route : again.route = first.route
  sources : List.Forall₂ (Replaced setting steps steps') first.sources again.sources

theorem schemasOf_congr {tables others : List RoutedTable}
    (h : List.Forall₂ (fun first again => again.route = first.route) tables others) :
    schemasOf others = schemasOf tables := by
  induction h with
  | nil => rfl
  | cons hroute _ ih =>
    rw [schemasOf, schemasOf, List.foldr_cons, List.foldr_cons, hroute, ← schemasOf, ih, schemasOf]

/-- A statement whose placeholders are filled in is routed as the statement is, and the same places of the result are
    filled in. -/
theorem filled_routed_alike (hfilling : setting.Fills filling)
    (h : (Router.routeStatement setting statement).result = .ok routed) :
    ∃ again, (Router.routeStatement setting (statement.altered { filling })).result = .ok again ∧
      List.Forall₂ (Refilled setting statement.steps (statement.altered { filling }).steps)
        routed.tables again.tables ∧
      again.schemas = routed.schemas ∧ again.statement = routed.statement.altered { filling } := by
  have hsuits : ({ filling } : Alteration).Suits setting False True :=
    ⟨rfl, fun _ => ⟨fun _ => rfl, fun _ => rfl⟩, fun hbare => absurd trivial hbare, hfilling⟩
  have hread : ∀ piece piece' source, Evidence.Altered setting False True piece piece' ∧ (piece, piece') ∈
        (Step.allEvidence statement.steps).zip (Step.allEvidence (statement.altered { filling }).steps) →
      piece.source? setting.scan = some source → ∃ source', piece'.source? setting.scan = some source' ∧
        Replaced setting statement.steps (statement.altered { filling }).steps source source' := by
    rintro piece piece' source ⟨hpiece, hpaired⟩ hsource
    obtain ⟨source', hsource', hfilled⟩ := hpiece.source hsource
    exact ⟨source', hsource', hfilled, piece, piece', hpaired, hsource, hsource'⟩
  have hsteps := ((Statement.steps_altered statement hsuits).paired not_false).2
  obtain ⟨again, hagain, htables⟩ := hsteps.routed hread (fun _ _ hreplaced => hreplaced.filled.values) h
  have hpairs : List.Forall₂ (Refilled setting statement.steps (statement.altered { filling }).steps)
      routed.tables again.tables :=
    (htables.forall₂ not_false).imp fun table table' hrerouted =>
      ⟨hrerouted.schema, hrerouted.table, hrerouted.still not_false, hrerouted.sources.forall₂ not_false⟩
  refine ⟨again, hagain, hpairs, ?_, ?_⟩
  · rw [routeStatement_schemas h, routeStatement_schemas hagain]
    exact schemasOf_congr (hpairs.imp fun _ _ hpair => hpair.route)
  · let plain : Spelling setting False := ⟨id, fun route route' hnear name => by rw [hnear.2 not_false]⟩
    have hstatement := routeStatement_altered hsuits h hagain plain
    rwa [Statement.altered_idle] at hstatement

namespace Sample

/-- Six in the place of the first parameter. -/
def six (_ : List Nat) (text : String) (_ : Position) : Option Expr :=
  if text = "?1" then some (literal "6") else none

/-- The orders as they are left when six stands in the place of the first parameter. -/
def evenly : RoutedTable :=
  ⟨none, "orders", ⟨"main", "orders_even"⟩, [.value (.literal (.int 4)), .value (.literal (.int 6))]⟩

end Sample

theorem filled_routed_alike_listed :
    ∃ routed again, (Sample.under [(.index 1, .int 6)]).Fills Sample.six ∧
      (Router.routeStatement (Sample.under [(.index 1, .int 6)]) Sample.listed).result = .ok routed ∧
      routed.tables = [Sample.even] ∧
      (Router.routeStatement (Sample.under [(.index 1, .int 6)])
        (Sample.listed.altered { filling := Sample.six })).result = .ok again ∧
      again.tables = [Sample.evenly] ∧ again.schemas = routed.schemas ∧
      again.statement = routed.statement.altered { filling := Sample.six } := by
  have hfilling : (Sample.under [(.index 1, .int 6)]).Fills Sample.six := by
    intro place text position e he
    unfold Sample.six at he
    split at he
    · next htext =>
      subst htext
      cases he
      exact ⟨.index 1, .int 6, rfl, rfl⟩
    · cases he
  obtain ⟨routed, h, htables⟩ : ∃ routed,
      (Router.routeStatement (Sample.under [(.index 1, .int 6)]) Sample.listed).result = .ok routed ∧
        routed.tables = [Sample.even] := ⟨_, rfl, rfl⟩
  obtain ⟨again, hagain, -, hschemas, hstatement⟩ := filled_routed_alike hfilling h
  obtain ⟨other, hother, htables'⟩ : ∃ other, (Router.routeStatement (Sample.under [(.index 1, .int 6)])
      (Sample.listed.altered { filling := Sample.six })).result = .ok other ∧ other.tables = [Sample.evenly] :=
    ⟨_, rfl, rfl⟩
  cases hother.symm.trans hagain
  exact ⟨routed, _, hfilling, h, htables, hagain, htables', hschemas, hstatement⟩

end ShardRouting
