import ShardRouting.Proofs.Altering
import ShardRouting.Proofs.Easing
import ShardRouting.Proofs.Placement

/-! Eased scripts. A `NOT` around a silent expression changes neither what is permitted nor what the tables hear, for
    the depth of `NOT` matters only to predicates of its own block. So the script of an eased statement has the digest
    of the statement, and the two are routed alike. -/

namespace ShardRouting
open Sql Walk

/-! ### Scripts with one digest -/

variable {setting : Setting} {steps steps' rest rest' : List Step} {bindings : List Binding} {sites : List Site}

/-- Two scripts that mean the same in a scope with these tables: both are permitted or none is, they close the same
    tables, and they tell the tables of the scope the same. -/
structure SameDigest (setting : Setting) (bindings : List Binding) (steps steps' : List Step) : Prop where
  permitted : Step.allPermitted setting bindings steps ↔ Step.allPermitted setting bindings steps'
  closed : Step.allClosed setting steps = Step.allClosed setting steps'
  told : ∀ keys, steps.flatMap (Step.told setting.scan keys) = steps'.flatMap (Step.told setting.scan keys)

namespace SameDigest

theorem refl (steps : List Step) : SameDigest setting bindings steps steps := ⟨Iff.rfl, rfl, fun _ => rfl⟩

theorem trans {steps'' : List Step} (h : SameDigest setting bindings steps steps')
    (h' : SameDigest setting bindings steps' steps'') : SameDigest setting bindings steps steps'' :=
  ⟨h.permitted.trans h'.permitted, h.closed.trans h'.closed, fun keys => (h.told keys).trans (h'.told keys)⟩

theorem symm (h : SameDigest setting bindings steps steps') : SameDigest setting bindings steps' steps :=
  ⟨h.permitted.symm, h.closed.symm, fun keys => (h.told keys).symm⟩

theorem append (h : SameDigest setting bindings steps steps') (h' : SameDigest setting bindings rest rest') :
    SameDigest setting bindings (steps ++ rest) (steps' ++ rest') where
  permitted := by rw [Step.allPermitted_append, Step.allPermitted_append, h.permitted, h'.permitted]
  closed := by rw [Step.allClosed_append, Step.allClosed_append, h.closed, h'.closed]
  told keys := by rw [List.flatMap_append, List.flatMap_append, h.told, h'.told]

theorem scope (aliases : Bool) (h : SameDigest setting (setting.bindingsOf sites) steps steps') :
    SameDigest setting bindings [.scope aliases sites steps] [.scope aliases sites steps'] where
  permitted := by simp only [Step.allPermitted, Step.permitted, h.permitted]
  closed := by
    have hheard : Binding.hear setting.scan steps = Binding.hear setting.scan steps' := by
      funext binding
      rw [Binding.hear, Binding.hear, h.told]
    simp only [Step.allClosed, Step.closed, h.closed, hheard]
  told _ := rfl

theorem other {left left' : Expr} (hcolumn : ColumnRef.ofExpr? left' = ColumnRef.ofExpr? left)
    (operator text operator' text' : String) :
    SameDigest setting bindings [.other left operator text] [.other left' operator' text'] where
  permitted := by simp only [Step.allPermitted, Step.permitted, hcolumn]
  closed := rfl
  told _ := rfl

/-- A predicate may be refused in one script only if no table answers to its column alone. -/
theorem key {predicate predicate' : KeyPredicate} (hcolumn : predicate'.column = predicate.column)
    (hrefusal : claimants bindings predicate.column.key = 1 →
      (predicate.refusal = none ↔ predicate'.refusal = none))
    (hevidence : predicate'.evidence.map (Evidence.source? setting.scan) =
      predicate.evidence.map (Evidence.source? setting.scan)) :
    SameDigest setting bindings [.key predicate] [.key predicate'] where
  permitted := by
    have hsources : ∀ predicate : KeyPredicate,
        (∀ piece ∈ predicate.evidence, ∃ source, piece.source? setting.scan = some source) ↔
          ∀ found ∈ predicate.evidence.map (Evidence.source? setting.scan), ∃ source, found = some source := by
      simp
    simp only [Step.allPermitted, Step.permitted, hcolumn, and_true, hsources, hevidence]
    by_cases hone : claimants bindings predicate.column.key = 1
    · rw [hrefusal hone]
    · simp only [hone, false_and]
  closed := rfl
  told keys := by
    have hsources : predicate'.evidence.filterMap (Evidence.source? setting.scan) =
        predicate.evidence.filterMap (Evidence.source? setting.scan) := by
      simpa only [List.filterMap_map, Function.id_comp] using congrArg (List.filterMap id) hevidence
    simp only [List.flatMap_singleton, Step.told, hcolumn, hsources]

/-- Statements with one digest are routed alike. -/
theorem routed {statement again : Statement} {routed : Routed}
    (h : SameDigest setting [] statement.steps again.steps)
    (hrouted : (Router.routeStatement setting statement).result = .ok routed) :
    ∃ rerouted, (Router.routeStatement setting again).result = .ok rerouted ∧ rerouted.tables = routed.tables ∧
      rerouted.schemas = routed.schemas := by
  obtain ⟨hpermitted, hclosed, hschemas, -⟩ := routeStatement_iff.mp hrouted
  refine ⟨⟨again.written setting.naming routed.tables, routed.schemas, routed.tables⟩,
    routeStatement_iff.mpr ⟨h.permitted.mp hpermitted, ?_, hschemas, rfl⟩, rfl, rfl⟩
  rwa [← h.closed]

end SameDigest

/-! ### Silent expressions -/

theorem Quieted.left {occurrences others : List Occurrence} (h : Quieted setting sites (occurrences ++ others)) :
    Quieted setting sites occurrences :=
  fun o ho => h o (List.mem_append_left _ ho)

theorem Quieted.right {occurrences others : List Occurrence} (h : Quieted setting sites (occurrences ++ others)) :
    Quieted setting sites others :=
  fun o ho => h o (List.mem_append_right _ ho)

/-- A predicate that no table answers to alone may be refused or not. -/
theorem Quieted.key {column : ColumnRef} {nots : Nat} (h : Quieted setting sites [⟨column, true, nots⟩])
    {predicate predicate' : KeyPredicate} (hcolumn : predicate.column = column) (hcolumn' : predicate'.column = column)
    (hevidence : predicate'.evidence = predicate.evidence) :
    SameDigest setting (setting.bindingsOf sites) [.key predicate] [.key predicate'] := by
  subst hcolumn
  have hunresolved := h _ List.mem_cons_self rfl
  rw [ColumnRef.resolves_iff] at hunresolved
  exact .key hcolumn' (fun hone => absurd hone hunresolved) (by rw [hevidence])

theorem Sql.Expr.ownSteps_silent (e : Expr) {nots : Nat} (h : Quieted setting sites (e.occurrence? nots).toList)
    (underNot underNot' : Bool) :
    SameDigest setting (setting.bindingsOf sites) (e.ownSteps underNot) (e.ownSteps underNot') := by
  cases e with
  | binary left op right =>
    cases op with
    | eq =>
      simp only [Expr.occurrence?, Expr.ownSteps] at h ⊢
      cases hleft : ColumnRef.ofExpr? left with
      | none => exact .refl _
      | some column => exact Quieted.key (hleft ▸ h) rfl rfl rfl
    | _ => exact .refl _
  | inList left negated items =>
    simp only [Expr.occurrence?, Expr.ownSteps] at h ⊢
    cases hleft : ColumnRef.ofExpr? left with
    | none => exact .refl _
    | some column => exact Quieted.key (hleft ▸ h) rfl rfl rfl
  | between left negated low high =>
    simp only [Expr.occurrence?, Expr.ownSteps] at h ⊢
    cases hleft : ColumnRef.ofExpr? left with
    | none => exact .refl _
    | some column => exact Quieted.key (hleft ▸ h) rfl rfl rfl
  | _ => exact .refl _

mutual

theorem Sql.Expr.steps_silent : ∀ (e : Expr) {nots : Nat}, Quieted setting sites (e.occurrences nots) →
    ∀ underNot underNot',
      SameDigest setting (setting.bindingsOf sites) (e.steps underNot) (e.steps underNot')
  | .ident _, _, _, _, _ => .refl _
  | .column _, _, _, _, _ => .refl _
  | .literal _, _, _, _, _ => .refl _
  | .typed _ _, _, _, _, _ => .refl _
  | .nested operand, _, h, u, u' => operand.steps_silent h u u'
  | .not _, _, _, _, _ => .refl _
  | .sign _ operand, _, h, u, u' => operand.steps_silent h u u'
  | .binary left _ right, _, h, u, u' => (Expr.ownSteps_silent _ h.left u u').append
      ((left.steps_silent h.right.left u u').append (right.steps_silent h.right.right u u'))
  | .inList left _ items, _, h, u, u' => (Expr.ownSteps_silent _ h.left u u').append
      ((left.steps_silent h.right.left u u').append (Expr.allSteps_silent items h.right.right u u'))
  | .between left _ low high, _, h, u, u' => (Expr.ownSteps_silent _ h.left u u').append
      ((left.steps_silent h.right.left u u').append
        ((low.steps_silent h.right.right.left u u').append (high.steps_silent h.right.right.right u u')))
  | .test left _ _ right, _, h, u, u' => (Expr.ownSteps_silent _ h.left u u').append
      ((left.steps_silent h.right.left u u').append (right.steps_silent h.right.right u u'))
  | .isNull operand, _, h, u, u' => (SameDigest.refl _).append (operand.steps_silent h u u')
  | .subquery _, _, _, _, _ => .refl _
  | .trim _ what subject, _, h, u, u' => (subject.steps_silent h.left u u').append (what.steps_silent h.right u u')
  | .call _ pieces, _, h, u, u' => Piece.allSteps_silent pieces h u u'
  | .form pieces, _, h, u, u' => Piece.allSteps_silent pieces h u u'

theorem Sql.Expr.allSteps_silent : ∀ (es : List Expr) {nots : Nat},
    Quieted setting sites (Expr.allOccurrences nots es) → ∀ underNot underNot',
      SameDigest setting (setting.bindingsOf sites) (Expr.allSteps underNot es) (Expr.allSteps underNot' es)
  | [], _, _, _, _ => .refl _
  | e :: es, _, h, u, u' => (e.steps_silent h.left u u').append (Expr.allSteps_silent es h.right u u')

theorem Sql.Piece.steps_silent : ∀ (piece : Piece) {nots : Nat}, Quieted setting sites (piece.occurrences nots) →
    ∀ underNot underNot',
      SameDigest setting (setting.bindingsOf sites) (piece.steps underNot) (piece.steps underNot')
  | .words _, _, _, _, _ => .refl _
  | .part operand, _, h, u, u' => operand.steps_silent h u u'
  | .aside _, _, _, _, _ => .refl _

/-- A `NOT` around silent expressions does not matter. -/
theorem Sql.Piece.allSteps_silent : ∀ (pieces : List Piece) {nots : Nat},
    Quieted setting sites (Piece.allOccurrences nots pieces) → ∀ underNot underNot',
      SameDigest setting (setting.bindingsOf sites) (Piece.allSteps underNot pieces) (Piece.allSteps underNot' pieces)
  | [], _, _, _, _ => .refl _
  | piece :: pieces, _, h, u, u' => (piece.steps_silent h.left u u').append (Piece.allSteps_silent pieces h.right u u')

end

theorem Sql.Expr.Eased.script {e e' : Expr} (h : e.Eased setting sites e') : ∀ underNot,
    SameDigest setting (setting.bindingsOf sites) (e.steps underNot) (e'.steps underNot) := by
  induction h with
  | kept e => exact fun underNot => .refl _
  | and _ _ ihleft ihright =>
    exact fun underNot => (SameDigest.refl _).append ((ihleft underNot).append (ihright underNot))
  | or _ _ ihleft ihright =>
    exact fun underNot => (SameDigest.refl _).append ((ihleft underNot).append (ihright underNot))
  | nested _ ih => exact fun underNot => ih underNot
  | not _ ih => exact fun _ => ih true
  | freed hsilent _ ih => exact fun underNot => (Expr.steps_silent _ hsilent true underNot).trans (ih underNot)

/-! ### Easings that keep the meaning -/

variable {ease : Easing}

/-- An easing that takes away nothing but `NOT` around silent expressions. -/
structure Sql.Easing.Frees (setting : Setting) (ease : Easing) : Prop where
  walked : ease.walked = true
  eases : ∀ (place : List Nat) (sites : List Site) (e : Expr), e.Eased setting sites (ease.condition place sites e)

namespace Sql.Easing

/-- Two scripts that mean the same in the scope around. -/
abbrev Same (setting : Setting) (ease : Easing) : List Step → List Step → Prop :=
  SameDigest setting (setting.bindingsOf ease.sites)

/-- The clauses behind a body stand in the same scope, seen from the body and from its query. -/
theorem same_behind {i : Nat} {body : Body} (h : (ease.behind body).Same setting steps steps') :
    ((ease.into i).behind body).Same setting steps steps' := by
  cases body <;> exact h

namespace Frees

theorem into (h : ease.Frees setting) (i : Nat) : (ease.into i).Frees setting where
  walked := h.walked
  eases place := h.eases (i :: place)

theorem within (h : ease.Frees setting) (sites : List Site) : (ease.within sites).Frees setting where
  walked := h.walked
  eases := h.eases

theorem scope (h : ease.Frees setting) (aliases : Bool) (hinside : (ease.within sites).Same setting steps steps') :
    SameDigest setting bindings [.scope aliases sites steps] [.scope aliases sites steps'] := by
  have hsites : (ease.within sites).sites = sites := if_pos h.walked
  rw [Easing.Same, hsites] at hinside
  exact .scope aliases hinside

theorem behind (h : ease.Frees setting) (body : Body) : (ease.behind body).Frees setting := by
  cases body <;> first | exact h.within _ | exact h

theorem root (h : ease.Frees setting) (e : Expr) (underNot : Bool) :
    SameDigest setting (setting.bindingsOf ease.sites) (e.steps underNot) ((ease.root e).steps underNot) :=
  (h.eases [] ease.sites e).script underNot

end Frees

end Sql.Easing

/-! ### Reading eased expressions -/

theorem ofExpr?_eased (ease : Easing) (e : Expr) : ColumnRef.ofExpr? (e.eased ease) = ColumnRef.ofExpr? e := by
  cases e <;> rfl

theorem valueSource?_eased (scan : Scan) : ∀ (e : Expr) (ease : Easing),
    valueSource? scan (e.eased ease) = valueSource? scan e
  | .sign negative operand, ease => by
    rw [Expr.eased, valueSource?_sign, valueSource?_sign, valueSource?_eased scan operand]
  | .nested operand, ease => valueSource?_eased scan operand (ease.into 0)
  | .literal _, _ | .typed _ _, _ | .ident _, _ | .column _, _ | .not _, _ | .binary .., _ | .inList .., _
  | .between .., _ | .test .., _ | .isNull _, _ | .subquery _, _ | .trim .., _ | .call .., _ | .form _, _ => rfl

theorem items_eased (scan : Scan) : ∀ (items : List Expr) (ease : Easing),
    ((Expr.easedAll ease items).map .item).map (Evidence.source? scan) =
      (items.map .item).map (Evidence.source? scan)
  | [], _ => rfl
  | e :: es, ease => by
    simp only [Expr.easedAll, List.map_cons, Evidence.source?, valueSource?_eased, items_eased scan es]

/-! ### Predicates -/

theorem ownSteps_binary_eased (ease : Easing) (underNot : Bool) (left : Expr) (op : BinaryOp) (right : Expr) :
    SameDigest setting bindings (Expr.ownSteps underNot (.binary left op right))
      (Expr.ownSteps underNot (.binary (left.eased (ease.into 0)) op (right.eased (ease.into 1)))) := by
  cases op with
  | eq =>
    simp only [Expr.ownSteps, ofExpr?_eased]
    cases ColumnRef.ofExpr? left with
    | none => exact .refl _
    | some column =>
      refine .key rfl (fun _ => ?_) ?_
      · cases underNot <;> simp [KeyPredicate.equality]
      · simp only [KeyPredicate.equality, List.map_cons, List.map_nil, Evidence.source?, valueSource?_eased]
  | and => exact .refl _
  | or => exact .refl _
  | other symbol => exact .refl _
  | _ => exact .other (ofExpr?_eased _ left) _ _ _ _

theorem ownSteps_inList_eased (ease : Easing) (underNot : Bool) (left : Expr) (negated : Bool) (items : List Expr) :
    SameDigest setting bindings (Expr.ownSteps underNot (.inList left negated items))
      (Expr.ownSteps underNot (.inList (left.eased (ease.into 0)) negated (Expr.easedAll (ease.into 1) items))) := by
  simp only [Expr.ownSteps, ofExpr?_eased]
  cases ColumnRef.ofExpr? left with
  | none => exact .refl _
  | some column =>
    refine .key rfl (fun _ => ?_) (items_eased setting.scan items (ease.into 1))
    cases negated <;> cases underNot <;> cases items <;> simp [KeyPredicate.inList, Expr.easedAll]

theorem ownSteps_between_eased (ease : Easing) (underNot : Bool) (left : Expr) (negated : Bool) (low high : Expr) :
    SameDigest setting bindings (Expr.ownSteps underNot (.between left negated low high))
      (Expr.ownSteps underNot (.between (left.eased (ease.into 0)) negated (low.eased (ease.into 1))
        (high.eased (ease.into 2)))) := by
  simp only [Expr.ownSteps, ofExpr?_eased]
  cases ColumnRef.ofExpr? left with
  | none => exact .refl _
  | some column =>
    refine .key rfl (fun _ => ?_) ?_
    · cases negated <;> cases underNot <;> simp [KeyPredicate.between]
    · simp only [KeyPredicate.between, List.map_cons, List.map_nil, Evidence.source?, valueSource?_eased]

theorem ownSteps_test_eased (ease : Easing) (underNot : Bool) (left : Expr) (negated : Bool) (kind : Test)
    (right : Expr) :
    SameDigest setting bindings (Expr.ownSteps underNot (.test left negated kind right))
      (Expr.ownSteps underNot (.test (left.eased (ease.into 0)) negated kind (right.eased (ease.into 1)))) := by
  cases kind <;> exact .other (ofExpr?_eased _ left) _ _ _ _

theorem row_eased : ∀ (columns : List Ident) (row : List Expr) (ease : Easing),
    SameDigest setting bindings
      ((columns.zip row).map fun (name, value) => .key (.equality false (.ofName name) value))
      ((columns.zip (Expr.easedAll ease row)).map fun (name, value) => .key (.equality false (.ofName name) value))
  | [], _, _ => .refl _
  | _ :: _, [], _ => .refl _
  | name :: columns, value :: row, ease => by
    have hfirst : SameDigest setting bindings [.key (.equality false (.ofName name) value)]
        [.key (.equality false (.ofName name) (value.eased (ease.into 0)))] := by
      refine .key rfl (fun _ => Iff.rfl) ?_
      simp only [KeyPredicate.equality, List.map_cons, List.map_nil, Evidence.source?, valueSource?_eased]
    exact hfirst.append (row_eased columns row (ease.into 1))

theorem rows_eased (columns : List Ident) : ∀ (rows : List (List Expr)) (ease : Easing),
    SameDigest setting bindings
      (rows.flatMap fun row => (columns.zip row).map fun (name, value) => .key (.equality false (.ofName name) value))
      ((Expr.easedRows ease rows).flatMap fun row =>
        (columns.zip row).map fun (name, value) => .key (.equality false (.ofName name) value))
  | [], _ => .refl _
  | row :: rows, ease => .append (row_eased columns row (ease.into 0)) (rows_eased columns rows (ease.into 1))

theorem insert_ownSteps_eased (ease : Easing) (insert : Insert) :
    SameDigest setting bindings insert.ownSteps (insert.eased ease).ownSteps := by
  obtain ⟨head, target, alias_, columns, middle, source, trailer⟩ := insert
  cases columns with
  | nil => exact .refl _
  | cons column columns =>
    cases source with
    | none => exact .refl _
    | some query =>
      obtain ⟨recursive, ctes, body, orderBy, limit, offset, limitBy, settings, fetch, ending⟩ := query
      cases body with
      | values explicitRow rows => exact rows_eased (column :: columns) rows _
      | _ => exact .refl _

/-! ### Tables -/

theorem tableFactors_eased : ∀ (table : TableRef) (ease : Easing), tableFactors (table.eased ease) = tableFactors table
  | .nested inner _, ease => tableFactors_eased inner (ease.into 0)
  | .join left _ right _ _ _, ease =>
    congrArg₂ (· ++ ·) (tableFactors_eased left (ease.into 0)) (tableFactors_eased right (ease.into 1))
  | .table .., _ => rfl
  | .derived .., _ => rfl
  | .turned .., _ => rfl
  | .other .., _ => rfl

theorem factors_eased : ∀ (tables : List TableRef) (ease : Easing),
    factors (TableRef.easedAll ease tables) = factors tables
  | [], _ => rfl
  | table :: tables, ease =>
    congrArg₂ (· ++ ·) (tableFactors_eased table (ease.into 0)) (factors_eased tables (ease.into 1))

theorem factors_easedOptional (tables : Option (List TableRef)) (ease : Easing) :
    factors ((TableRef.easedOptional ease tables).getD []) = factors (tables.getD []) := by
  cases tables with
  | none => rfl
  | some tables => exact factors_eased tables ease

/-! ### Trees -/

mutual

theorem Sql.Expr.steps_eased : ∀ (e : Expr) (underNot : Bool) {ease : Easing}, ease.Frees setting →
    ease.Same setting (e.steps underNot) ((e.eased ease).steps underNot)
  | .ident _, _, _, _ => .refl _
  | .column _, _, _, _ => .refl _
  | .literal _, _, _, _ => .refl _
  | .typed _ _, _, _, _ => .refl _
  | .nested operand, underNot, _, h => Expr.steps_eased operand underNot (h.into 0)
  | .not operand, _, _, h => Expr.steps_eased operand true (h.into 0)
  | .sign _ operand, underNot, _, h => Expr.steps_eased operand underNot (h.into 0)
  | .binary left op right, underNot, ease, h => (ownSteps_binary_eased ease underNot left op right).append
      ((Expr.steps_eased left underNot (h.into 0)).append (Expr.steps_eased right underNot (h.into 1)))
  | .inList left negated items, underNot, ease, h => (ownSteps_inList_eased ease underNot left negated items).append
      ((Expr.steps_eased left underNot (h.into 0)).append (Expr.allSteps_eased items underNot (h.into 1)))
  | .between left negated low high, underNot, ease, h =>
    (ownSteps_between_eased ease underNot left negated low high).append
      ((Expr.steps_eased left underNot (h.into 0)).append
        ((Expr.steps_eased low underNot (h.into 1)).append (Expr.steps_eased high underNot (h.into 2))))
  | .test left negated kind right, underNot, ease, h =>
    (ownSteps_test_eased ease underNot left negated kind right).append
      ((Expr.steps_eased left underNot (h.into 0)).append (Expr.steps_eased right underNot (h.into 1)))
  | .isNull operand, underNot, ease, h =>
    (SameDigest.other (ofExpr?_eased (ease.into 0) operand) _ _ _ _).append (Expr.steps_eased operand underNot (h.into 0))
  | .subquery query, _, _, h => Query.steps_eased query (h.into 0)
  | .trim _ what subject, underNot, _, h =>
    (Expr.steps_eased subject underNot (h.into 1)).append (Expr.steps_eased what underNot (h.into 0))
  | .call _ pieces, underNot, _, h => Piece.allSteps_eased pieces underNot (h.into 0)
  | .form pieces, underNot, _, h => Piece.allSteps_eased pieces underNot (h.into 0)

theorem Sql.Expr.allSteps_eased : ∀ (es : List Expr) (underNot : Bool) {ease : Easing}, ease.Frees setting →
    ease.Same setting (Expr.allSteps underNot es) (Expr.allSteps underNot (Expr.easedAll ease es))
  | [], _, _, _ => .refl _
  | e :: es, underNot, _, h =>
    (Expr.steps_eased e underNot (h.into 0)).append (Expr.allSteps_eased es underNot (h.into 1))

theorem Sql.Expr.optionalSteps_eased : ∀ (e : Option Expr) {ease : Easing}, ease.Frees setting →
    ease.Same setting (Expr.optionalSteps false e) (Expr.optionalSteps false (Expr.easedOptional ease e))
  | none, _, _ => .refl _
  | some e, _, h => Expr.steps_eased e false h

theorem Sql.Expr.conditionSteps_eased : ∀ (e : Option Expr) {ease : Easing}, ease.Frees setting →
    ease.Same setting (Expr.optionalSteps false e) (Expr.optionalSteps false (Expr.easedCondition ease e))
  | none, _, _ => .refl _
  | some e, _, h => (Expr.steps_eased e false (h.into 0)).trans (h.root _ false)

theorem Sql.Expr.rowSteps_eased : ∀ (rows : List (List Expr)) {ease : Easing}, ease.Frees setting →
    ease.Same setting (Expr.rowSteps rows) (Expr.rowSteps (Expr.easedRows ease rows))
  | [], _, _ => .refl _
  | row :: rows, _, h => (Expr.allSteps_eased row false (h.into 0)).append (Expr.rowSteps_eased rows (h.into 1))

theorem Sql.Piece.steps_eased : ∀ (piece : Piece) (underNot : Bool) {ease : Easing}, ease.Frees setting →
    ease.Same setting (piece.steps underNot) ((piece.eased ease).steps underNot)
  | .words _, _, _, _ => .refl _
  | .part operand, underNot, _, h => (Expr.steps_eased operand underNot (h.into 0)).trans (h.root _ underNot)
  | .aside _, _, _, _ => .refl _

theorem Sql.Piece.allSteps_eased : ∀ (pieces : List Piece) (underNot : Bool) {ease : Easing}, ease.Frees setting →
    ease.Same setting (Piece.allSteps underNot pieces) (Piece.allSteps underNot (Piece.easedAll ease pieces))
  | [], _, _, _ => .refl _
  | piece :: pieces, underNot, _, h =>
    (Piece.steps_eased piece underNot (h.into 0)).append (Piece.allSteps_eased pieces underNot (h.into 1))

theorem Sql.Query.steps_eased : ∀ (query : Query) {ease : Easing}, ease.Frees setting →
    ease.Same setting query.steps (query.eased ease).steps
  | { recursive := _, ctes, body, orderBy, limit, offset, limitBy, settings := _, fetch, ending := _ }, _, h => by
    have hbehind := h.behind body
    have horderBy := Expr.allSteps_eased orderBy false (hbehind.into 2)
    have hlimit := Expr.optionalSteps_eased limit (hbehind.into 3)
    have hoffset := Expr.optionalSteps_eased offset (hbehind.into 4)
    have hlimitBy := Expr.allSteps_eased limitBy false (hbehind.into 5)
    have hfetch := Expr.optionalSteps_eased fetch (hbehind.into 7)
    have htail := horderBy.append (hlimit.append (hlimitBy.append (hoffset.append hfetch)))
    exact (Cte.allSteps_eased ctes (h.into 0)).append (Body.steps_eased body (h.into 1) (Easing.same_behind htail))

theorem Sql.Cte.steps_eased : ∀ (cte : Cte) {ease : Easing}, ease.Frees setting →
    ease.Same setting cte.steps (cte.eased ease).steps
  | { alias_ := _, keyword := _, query, source := _ }, _, h => Query.steps_eased query (h.into 0)

theorem Sql.Cte.allSteps_eased : ∀ (ctes : List Cte) {ease : Easing}, ease.Frees setting →
    ease.Same setting (Cte.allSteps ctes) (Cte.allSteps (Cte.easedAll ease ctes))
  | [], _, _ => .refl _
  | cte :: ctes, _, h => (Cte.steps_eased cte (h.into 0)).append (Cte.allSteps_eased ctes (h.into 1))

theorem Sql.Body.steps_eased : ∀ (body : Body) {ease : Easing} {tail tail' : List Step}, ease.Frees setting →
    (ease.behind body).Same setting tail tail' →
      ease.Same setting (body.steps tail) ((body.eased ease).steps tail')
  | .select select, ease, _, _, h, htail => by
    have hinside := Select.inside_eased select (h.into 0) htail
    have hfrom : factors (select.eased (ease.into 0)).from_ = factors select.from_ := by
      obtain ⟨⟩ := select
      exact factors_eased _ _
    rw [Body.eased, Body.steps, Body.steps, select.steps_eq, Select.steps_eq (select.eased _), hfrom]
    exact (h.into 0).scope true hinside
  | .query query, _, _, _, h, htail => (Query.steps_eased query (h.into 0)).append htail
  | .setOperation left _ right, _, _, _, h, htail =>
    (Body.steps_eased left (h.into 0) (.refl [])).append
      ((Body.steps_eased right (h.into 1) (.refl [])).append htail)
  | .values _ rows, _, _, _, h, htail => (Expr.rowSteps_eased rows (h.into 0)).append htail
  | .table _ _, _, _, _, _, htail => htail
  | .statement statement, _, _, _, h, htail => (Statement.steps_eased statement (h.into 0)).append htail

/-- What stands inside the scope of a selection. -/
theorem Sql.Select.inside_eased : ∀ (select : Select) {ease : Easing} {tail tail' : List Step},
    ease.Frees setting →
      (ease.within (Factor.sites 0 (factors select.from_))).Same setting tail tail' →
        (ease.within (Factor.sites 0 (factors select.from_))).Same setting
          (Step.inside (select.steps tail)) (Step.inside ((select.eased ease).steps tail'))
  | { head := _, projection, into := _, from_, views := _, prewhere, selection, groupBy, groupTail := _,
      clusterBy, distributeBy, sortBy, having, windowsBefore := _, qualify, windowsAfter := _,
      connectBy := _ }, _, _, _, hfrees, htail => by
    have h := hfrees.within (Factor.sites 0 (factors from_))
    have hfrom := TableRef.allSteps_eased from_ (h.into 3)
    have hprojection := Expr.allSteps_eased projection false (h.into 1)
    have hprewhere := Expr.conditionSteps_eased prewhere (h.into 5)
    have hselection := Expr.conditionSteps_eased selection (h.into 6)
    have hgroupBy := Expr.allSteps_eased groupBy false (h.into 7)
    have hclusterBy := Expr.allSteps_eased clusterBy false (h.into 9)
    have hdistributeBy := Expr.allSteps_eased distributeBy false (h.into 10)
    have hsortBy := Expr.allSteps_eased sortBy false (h.into 11)
    have hhaving := Expr.conditionSteps_eased having (h.into 12)
    have hqualify := Expr.conditionSteps_eased qualify (h.into 14)
    exact hfrom.append (hprojection.append (hprewhere.append (hselection.append (hgroupBy.append (hhaving.append
      (hqualify.append (hclusterBy.append (hdistributeBy.append (hsortBy.append htail)))))))))

theorem Sql.TableRef.steps_eased : ∀ (table : TableRef) {ease : Easing}, ease.Frees setting →
    ease.Same setting table.steps (table.eased ease).steps
  | .table .., _, _ => .refl _
  | .derived _ query _, _, h => Query.steps_eased query (h.into 0)
  | .nested inner _, _, h => TableRef.steps_eased inner (h.into 0)
  | .join left _ right matching on _, _, h =>
    (TableRef.steps_eased left (h.into 0)).append ((TableRef.steps_eased right (h.into 1)).append
      ((Expr.conditionSteps_eased matching (h.into 2)).append (Expr.conditionSteps_eased on (h.into 3))))
  | .turned .., _, _ => .refl _
  | .other .., _, _ => .refl _

theorem Sql.TableRef.allSteps_eased : ∀ (tables : List TableRef) {ease : Easing}, ease.Frees setting →
    ease.Same setting (TableRef.allSteps tables) (TableRef.allSteps (TableRef.easedAll ease tables))
  | [], _, _ => .refl _
  | table :: tables, _, h =>
    (TableRef.steps_eased table (h.into 0)).append (TableRef.allSteps_eased tables (h.into 1))

theorem Sql.Insert.inside_eased : ∀ (insert : Insert) {ease : Easing}, ease.Frees setting →
    (ease.within [⟨.target, insert.target, none⟩]).Same setting
      (Step.inside insert.steps) (Step.inside (insert.eased ease).steps)
  | { head := _, target := _, alias_ := _, columns := _, middle := _, source := some query, trailer := _ }, ease, h =>
    (insert_ownSteps_eased ease _).append (Query.steps_eased query ((h.within _).into 1))
  | { head := _, target := _, alias_ := _, columns := _, middle := _, source := none, trailer := _ }, ease, _ =>
    (insert_ownSteps_eased ease _).append (.refl _)

theorem Sql.Update.inside_eased : ∀ (update : Update) {ease : Easing}, ease.Frees setting →
    (ease.within (Factor.sites 0 (tableFactors update.table))).Same setting
      (Step.inside update.steps) (Step.inside (update.eased ease).steps)
  | { conflict := _, table, fromBefore := _, assignments, fromAfter := _, selection, returning := _ }, _, hfrees => by
    have h := hfrees.within (Factor.sites 0 (tableFactors table))
    exact (TableRef.steps_eased table (h.into 0)).append ((Expr.allSteps_eased assignments false (h.into 2)).append
      (Expr.conditionSteps_eased selection (h.into 4)))

theorem Sql.Delete.inside_eased : ∀ (delete : Delete) {ease : Easing}, ease.Frees setting →
    (ease.within (Factor.sites 0 (factors delete.from_ ++ factors (delete.using_.getD [])))).Same setting
      (Step.inside delete.steps) (Step.inside (delete.eased ease).steps)
  | { targets := _, fromKeyword := _, from_, using_, selection, returning := _, orderBy, limit }, _, hfrees => by
    have h := hfrees.within (Factor.sites 0 (factors from_ ++ factors (using_.getD [])))
    have hselection := Expr.conditionSteps_eased selection (h.into 2)
    have horderBy := Expr.allSteps_eased orderBy false (h.into 4)
    have hlimit := Expr.optionalSteps_eased limit (h.into 5)
    have hrest := hselection.append (horderBy.append hlimit)
    have hfrom := TableRef.allSteps_eased from_ (h.into 0)
    cases using_ with
    | some others => exact hfrom.append ((TableRef.allSteps_eased others (h.into 1)).append hrest)
    | none => exact hfrom.append (.append (.refl []) hrest)

/-- The script of an eased statement has the digest of the statement. -/
theorem Sql.Statement.steps_eased : ∀ (statement : Statement) {ease : Easing}, ease.Frees setting →
    ease.Same setting statement.steps (statement.eased ease).steps
  | .query query, _, h => Query.steps_eased query (h.into 0)
  | .insert insert, ease, h => by
    have hinside := Insert.inside_eased insert (h.into 0)
    have htarget : (insert.eased (ease.into 0)).target = insert.target := by
      obtain ⟨⟩ := insert
      rfl
    rw [Statement.eased, Statement.steps, Statement.steps, insert.steps_eq, Insert.steps_eq (insert.eased _), htarget]
    exact (h.into 0).scope false hinside
  | .update update, ease, h => by
    have hinside := Update.inside_eased update (h.into 0)
    have htable : tableFactors (update.eased (ease.into 0)).table = tableFactors update.table := by
      obtain ⟨⟩ := update
      exact tableFactors_eased _ _
    rw [Statement.eased, Statement.steps, Statement.steps, update.steps_eq, Update.steps_eq (update.eased _), htable]
    exact (h.into 0).scope true hinside
  | .delete delete, ease, h => by
    have hinside := Delete.inside_eased delete (h.into 0)
    have hfrom : factors (delete.eased (ease.into 0)).from_ = factors delete.from_ := by
      obtain ⟨⟩ := delete
      exact factors_eased _ _
    have husing : factors ((delete.eased (ease.into 0)).using_.getD []) = factors (delete.using_.getD []) := by
      obtain ⟨⟩ := delete
      exact factors_easedOptional _ _
    rw [Statement.eased, Statement.steps, Statement.steps, delete.steps_eq, Delete.steps_eq (delete.eased _),
      hfrom, husing]
    exact (h.into 0).scope false hinside
  | .other, _, _ => .refl _

end

/-! ### Statements -/

/-- Where a `NOT` stands around a predicate of its block that speaks of the key of a table in its scope, the statement
    is not routed. Where a `NOT` stands around none, the statement is routed as it is without. -/
theorem not_refused_or_idle (setting : Setting) (statement : Statement) :
    (∀ clause ∈ statement.clauses [], ∀ o ∈ clause.root.occurrences 0, 0 < o.nots →
      o.column.Resolves setting clause.sites →
        ∃ error, (Router.routeStatement setting statement).result = .error error) ∧
    ∀ condition : List Nat → List Site → Expr → Expr,
      (∀ (place : List Nat) (sites : List Site) (e : Expr), e.Eased setting sites (condition place sites e)) →
        ((∃ routed, (Router.routeStatement setting statement).result = .ok routed) ↔
          ∃ again, (Router.routeStatement setting (statement.eased { condition })).result = .ok again) ∧
        ∀ routed again, (Router.routeStatement setting statement).result = .ok routed →
          (Router.routeStatement setting (statement.eased { condition })).result = .ok again →
            again.tables = routed.tables ∧ again.schemas = routed.schemas := by
  refine ⟨fun clause hclause o ho hnots hresolves => refused_under_not hclause ho hnots hresolves,
    fun condition hcondition => ?_⟩
  have hfrees : Easing.Frees setting { condition } := ⟨rfl, hcondition⟩
  have hsame : SameDigest setting [] statement.steps (statement.eased { condition }).steps :=
    statement.steps_eased hfrees
  refine ⟨⟨?_, ?_⟩, ?_⟩
  · rintro ⟨routed, hrouted⟩
    obtain ⟨again, hagain, -⟩ := hsame.routed hrouted
    exact ⟨again, hagain⟩
  · rintro ⟨again, hagain⟩
    obtain ⟨routed, hrouted, -⟩ := hsame.symm.routed hagain
    exact ⟨routed, hrouted⟩
  · intro routed again hrouted hagain
    obtain ⟨other, hother, htables, hschemas⟩ := hsame.routed hrouted
    cases hother.symm.trans hagain
    exact ⟨htables, hschemas⟩

namespace Sample

/-- `SELECT total FROM orders WHERE NOT id = 6`. -/
def denied : Statement := .query (query (.select (select [orders] (.not (keyed "6")))))

/-- `SELECT total FROM orders WHERE id = 4 AND NOT (SELECT total FROM orders WHERE id = 2)`. -/
def barred : Statement :=
  .query (query (.select (select [orders] (.binary (keyed "4") .and (.not (.subquery (ofKey "2")))))))

/-- `SELECT total FROM orders WHERE id = 4 AND (SELECT total FROM orders WHERE id = 2)`. -/
def unbarred : Statement :=
  .query (query (.select (select [orders] (.binary (keyed "4") .and (.subquery (ofKey "2"))))))

/-- A `NOT` around a query, behind an `AND`, is taken away. -/
def unbar (_ : List Nat) (_ : List Site) : Expr → Expr
  | .binary left .and (.not (.subquery query)) => .binary left .and (.subquery query)
  | e => e

end Sample

theorem not_refused_or_idle_barred :
    (∃ error, (Router.routeStatement (Sample.under []) Sample.denied).result = .error error) ∧
      Sample.barred.eased { condition := Sample.unbar } = Sample.unbarred ∧
      ∃ routed again, (Router.routeStatement (Sample.under []) Sample.barred).result = .ok routed ∧
        (Router.routeStatement (Sample.under []) Sample.unbarred).result = .ok again ∧
        routed.tables.length = 2 ∧ again.tables = routed.tables ∧ again.schemas = routed.schemas := by
  have hdenied := (not_refused_or_idle (Sample.under []) Sample.denied).1
    ⟨Factor.sites 0 (factors [Sample.orders]), .not (Sample.keyed "6")⟩
    (List.mem_cons_of_mem _ List.mem_cons_self)
    ⟨.ofName ⟨"id", none⟩, true, 1⟩ List.mem_cons_self Nat.one_pos ⟨0, _, rfl⟩
  have hunbar : ∀ (place : List Nat) (sites : List Site) (e : Expr),
      e.Eased (Sample.under []) sites (Sample.unbar place sites e) := by
    intro place sites e
    unfold Sample.unbar
    split
    · exact .and (.kept _) (.freed nofun (.kept _))
    · exact .kept _
  obtain ⟨hiff, hkept⟩ := (not_refused_or_idle (Sample.under []) Sample.barred).2 Sample.unbar hunbar
  have heased : Sample.barred.eased { condition := Sample.unbar } = Sample.unbarred := rfl
  obtain ⟨routed, hrouted, htwo⟩ : ∃ routed,
      (Router.routeStatement (Sample.under []) Sample.barred).result = .ok routed ∧ routed.tables.length = 2 :=
    ⟨_, rfl, rfl⟩
  obtain ⟨again, hagain⟩ := hiff.mp ⟨routed, hrouted⟩
  obtain ⟨htables, hschemas⟩ := hkept routed again hrouted hagain
  rw [heased] at hagain
  exact ⟨hdenied, heased, routed, again, hrouted, hagain, htwo, htables, hschemas⟩

end ShardRouting
