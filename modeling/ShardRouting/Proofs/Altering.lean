import ShardRouting.Proofs.Alteration
import ShardRouting.Proofs.Resemblance

/-! Altered scripts. The script of an altered tree resembles that of the tree: the sides of `AND` and `OR` and the
    tables of a selection have their steps in the same scope, and what gives way to a placeholder has no steps. -/

namespace ShardRouting
open Sql Walk

variable {setting : Setting} {turning filled : Prop} {scan : Scan} {params : Params} {alt : Alteration}

/-! ### Alterations that keep the meaning -/

/-- An alteration that keeps what a tree means: without turning nothing changes places, and what fills the place
    of a placeholder reads as a literal of the value that is bound to it. -/
structure Sql.Alteration.Suits (setting : Setting) (turning filled : Prop) (alt : Alteration) : Prop where
  named : alt.named = id
  still : ¬turning → (∀ place, alt.swapped place = false) ∧ ∀ place, alt.order place = []
  bare : ¬filled → ∀ place text position, alt.filling place text position = none
  fits : ∀ place text position e, alt.filling place text position = some e → ∃ key value,
    readValue setting.scan setting.params (.literal (.placeholder text position)) = .ok (.known value (.param key)) ∧
      readValue setting.scan setting.params e = .ok (.ofLiteral value)

namespace Sql.Alteration.Suits

theorem into (h : alt.Suits setting turning filled) (i : Nat) : (alt.into i).Suits setting turning filled where
  named := h.named
  still hstill := ⟨fun place => (h.still hstill).1 (i :: place), fun place => (h.still hstill).2 (i :: place)⟩
  bare hbare place := h.bare hbare (i :: place)
  fits place := h.fits (i :: place)

end Sql.Alteration.Suits

/-! ### Reading altered expressions -/

/-- The source of what fills the place of a placeholder is a literal of the value of the parameter. -/
inductive ValueSource.Filled (params : Params) : ValueSource → ValueSource → Prop
  | kept (source : ValueSource) : Filled params source source
  | filled {key : ParamKey} {value : ShardValue} (h : params.get? key = some value) :
    Filled params (.param key) (.literal value)

inductive RouteSource.Filled (params : Params) : RouteSource → RouteSource → Prop
  | value {source source' : ValueSource} (h : source.Filled params source') :
    Filled params (.value source) (.value source')
  | range {low low' high high' : ValueSource} (hlow : low.Filled params low') (hhigh : high.Filled params high') :
    Filled params (.range low high) (.range low' high')

theorem ValueSource.Filled.value? {source source' : ValueSource} (h : source.Filled params source') :
    source'.value? params = source.value? params := by
  cases h with
  | kept => rfl
  | filled h => exact h.symm

theorem RouteSource.Filled.values {source source' : RouteSource} (h : source.Filled params source') {limit : Nat} :
    source'.values params = source.values params ∧ (source.Fits limit params → source'.Fits limit params) := by
  cases h with
  | value h => exact ⟨by rw [RouteSource.values, RouteSource.values, h.value?], fun _ => trivial⟩
  | range hlow hhigh =>
    simp only [RouteSource.values, RouteSource.Fits, hlow.value?, hhigh.value?, true_and]
    exact id

theorem valueSource?_sign (scan : Scan) (negative : Bool) (operand : Expr) :
    valueSource? scan (.sign negative operand) = match valueSource? scan operand with
      | some (.literal value) => (if negative then value.negate? else some value).map .literal
      | _ => none := by
  have hself := readValue_eq scan operand {}
  unfold valueSource?
  simp only [readValue]
  cases hread : readValue scan {} operand with
  | error part => rfl
  | ok reading =>
    rw [hread] at hself
    obtain ⟨source, rfl⟩ : ∃ source, reading = Reading.of {} source := ⟨_, Except.ok.inj hself⟩
    simp only [Reading.source_of]
    cases source with
    | literal value =>
      simp only [Reading.of, Reading.ofLiteral]
      cases (if negative then value.negate? else some value) <;> rfl
    | param key =>
      simp only [Reading.of, Reading.ofParam]
      cases Params.get? {} key <;> rfl

/-- What has a value has no steps. -/
theorem steps_of_source : ∀ {e : Expr} {source : ValueSource}, valueSource? scan e = some source →
    ∀ underNot, e.steps underNot = []
  | .literal _, _, _, _ => rfl
  | .typed _ _, _, _, _ => rfl
  | .nested operand, _, h, underNot => steps_of_source (e := operand) h underNot
  | .sign negative operand, source, h, underNot => by
    rw [valueSource?_sign] at h
    cases hoperand : valueSource? scan operand with
    | none => simp [hoperand] at h
    | some found => exact steps_of_source hoperand underNot

theorem ofExpr?_of_source {e : Expr} {source : ValueSource} (h : valueSource? scan e = some source) :
    ColumnRef.ofExpr? e = none := by
  cases e <;> first | rfl | cases h

namespace Sql.Alteration.Suits

/-- What fills the place of a placeholder. -/
theorem fill (h : alt.Suits setting turning filled) (value : Literal) :
    alt.fill value = .literal value ∨ filled ∧ ∃ source source',
      valueSource? setting.scan (.literal value) = some source ∧
        valueSource? setting.scan (alt.fill value) = some source' ∧ source.Filled setting.params source' := by
  cases value with
  | placeholder text position =>
    cases hfilling : alt.filling [] text position with
    | none => exact .inl (by simp [Alteration.fill, hfilling])
    | some e =>
      obtain ⟨key, value, hplaceholder, hliteral⟩ := h.fits [] text position e hfilling
      obtain ⟨hsource, hvalue⟩ := readValue_known_iff.mp hplaceholder
      obtain ⟨hsource', -⟩ := readValue_known_iff.mp hliteral
      refine .inr ⟨by_contra fun hbare => ?_, _, _, hsource, ?_, .filled hvalue⟩
      · cases (h.bare hbare [] text position).symm.trans hfilling
      · rwa [Alteration.fill, hfilling]
  | _ => exact .inl rfl

theorem join (h : alt.Suits setting turning filled) (left : Expr) (op : BinaryOp) (right : Expr) :
    alt.join left op right = .binary left op right ∨
      turning ∧ op.commutes = true ∧ alt.join left op right = .binary right op left := by
  unfold Alteration.join
  cases hswap : op.commutes && alt.swapped [] with
  | false => exact .inl rfl
  | true =>
    obtain ⟨hcommutes, hswapped⟩ := Bool.and_eq_true_iff.mp hswap
    refine .inr ⟨?_, hcommutes, rfl⟩
    by_contra hstill
    simp [(h.still hstill).1] at hswapped

end Sql.Alteration.Suits

theorem ofExpr?_altered (h : alt.Suits setting turning filled) (e : Expr) :
    ColumnRef.ofExpr? (e.altered alt) = ColumnRef.ofExpr? e := by
  cases e with
  | literal value =>
    rw [Expr.altered]
    rcases h.fill value with hkept | ⟨-, _, _, -, hsource, -⟩
    · rw [hkept]
    · exact ofExpr?_of_source hsource
  | binary left op right =>
    rw [Expr.altered]
    rcases h.join (left.altered (alt.into 0)) op (right.altered (alt.into 1)) with hjoin | ⟨-, -, hjoin⟩ <;>
      rw [hjoin] <;> rfl
  | _ => rfl

theorem valueSource?_altered : ∀ (e : Expr) {alt : Alteration} {source : ValueSource},
    alt.Suits setting turning filled → valueSource? setting.scan e = some source →
      ∃ source', valueSource? setting.scan (e.altered alt) = some source' ∧ source.Filled setting.params source'
  | .literal value, _, source, h, hsource => by
    rw [Expr.altered]
    rcases h.fill value with hkept | ⟨-, _, source', hfirst, hsource', hfilled⟩
    · rw [hkept]
      exact ⟨source, hsource, .kept source⟩
    · cases hfirst.symm.trans hsource
      exact ⟨source', hsource', hfilled⟩
  | .typed _ _, _, source, _, hsource => ⟨source, hsource, .kept source⟩
  | .nested operand, _, _, h, hsource => valueSource?_altered operand (h.into 0) hsource
  | .sign negative operand, alt, source, h, hsource => by
    rw [valueSource?_sign] at hsource
    rw [Expr.altered, valueSource?_sign]
    cases hoperand : valueSource? setting.scan operand with
    | none => simp [hoperand] at hsource
    | some found =>
      rw [hoperand] at hsource
      obtain ⟨found', hfound', hfilled⟩ := valueSource?_altered operand (h.into 0) hoperand
      rw [hfound']
      -- only a literal takes a sign, and that is kept
      cases hfilled with
      | kept => exact ⟨source, hsource, .kept source⟩
      | filled => cases hsource

/-- Without fillings an altered expression has the same value, or has none still. -/
theorem valueSource?_bare (hbare : ¬filled) : ∀ (e : Expr) {alt : Alteration}, alt.Suits setting turning filled →
    valueSource? setting.scan (e.altered alt) = valueSource? setting.scan e
  | .literal value, _, h => by
    rcases h.fill value with hkept | ⟨hfilled, -⟩
    · rw [Expr.altered, hkept]
    · exact absurd hfilled hbare
  | .sign negative operand, _, h => by
    rw [Expr.altered, valueSource?_sign, valueSource?_sign, valueSource?_bare hbare operand (h.into 0)]
  | .nested operand, _, h => valueSource?_bare hbare operand (h.into 0)
  | .binary left op right, alt, h => by
    rw [Expr.altered]
    rcases h.join (left.altered (alt.into 0)) op (right.altered (alt.into 1)) with hjoin | ⟨-, -, hjoin⟩ <;>
      rw [hjoin] <;> rfl
  | .typed _ _, _, _ | .ident _, _, _ | .column _, _, _ | .not _, _, _ | .inList .., _, _ | .between .., _, _
  | .test .., _, _ | .isNull _, _, _ | .subquery _, _, _ | .trim .., _, _ | .call .., _, _ | .form _, _, _ => rfl

/-! ### Predicates -/

/-- Evidence and what an alteration makes of it. -/
inductive Evidence.Altered (setting : Setting) (turning filled : Prop) : Evidence → Evidence → Prop
  | item {alt : Alteration} (h : alt.Suits setting turning filled) (e : Expr) :
    Altered setting turning filled (.item e) (.item (e.altered alt))
  | range {alt alt' : Alteration} (h : alt.Suits setting turning filled)
    (h' : alt'.Suits setting turning filled) (text text' : String) (low high : Expr) :
    Altered setting turning filled (.range text low high) (.range text' (low.altered alt) (high.altered alt'))

theorem Evidence.Altered.source {piece piece' : Evidence} {source : RouteSource}
    (h : Evidence.Altered setting turning filled piece piece') (hsource : piece.source? setting.scan = some source) :
    ∃ source', piece'.source? setting.scan = some source' ∧ source.Filled setting.params source' := by
  cases h with
  | item h e =>
    obtain ⟨found, hfound, rfl⟩ := Option.map_eq_some_iff.mp hsource
    obtain ⟨found', hfound', hfilled⟩ := valueSource?_altered e h hfound
    exact ⟨.value found', by rw [Evidence.source?, hfound', Option.map_some], .value hfilled⟩
  | range h h' text text' low high =>
    simp only [Evidence.source?, Option.bind_eq_bind, Option.bind_eq_some_iff] at hsource
    obtain ⟨lowSource, hlow, highSource, hhigh, heq⟩ := hsource
    cases heq
    obtain ⟨low', hlow', hlowFilled⟩ := valueSource?_altered low h hlow
    obtain ⟨high', hhigh', hhighFilled⟩ := valueSource?_altered high h' hhigh
    exact ⟨.range low' high', by simp [Evidence.source?, hlow', hhigh'], .range hlowFilled hhighFilled⟩

theorem Evidence.Altered.source_bare {piece piece' : Evidence} (hbare : ¬filled)
    (h : Evidence.Altered setting turning filled piece piece') :
    piece'.source? setting.scan = piece.source? setting.scan := by
  cases h with
  | item h e => rw [Evidence.source?, Evidence.source?, valueSource?_bare hbare e h]
  | range h h' text text' low high =>
    simp only [Evidence.source?, valueSource?_bare hbare low h, valueSource?_bare hbare high h']

/-- The sides of `AND` and `OR` are walked, but they are no predicate themselves. -/
theorem ownSteps_commutes {op : BinaryOp} (h : op.commutes = true) (underNot : Bool) (left right : Expr) :
    Expr.ownSteps underNot (.binary left op right) = [] := by
  cases op <;> first | rfl | cases h

theorem items_altered : ∀ (items : List Expr) {alt : Alteration}, alt.Suits setting turning filled →
      List.Forall₂ (Evidence.Altered setting turning filled) (items.map .item)
        ((Expr.alteredAll alt items).map .item)
  | [], _, _ => .nil
  | e :: es, _, h => .cons (.item (h.into 0) e) (items_altered es (h.into 1))

/-- Scripts that resemble each other as those of a tree and of the altered tree do. -/
abbrev Altered (setting : Setting) (turning filled : Prop) : List Step → List Step → Prop :=
  Resembles setting turning (Evidence.Altered setting turning filled)

section
variable {alt' alt'' : Alteration} (h : alt.Suits setting turning filled) (h' : alt'.Suits setting turning filled)
  (h'' : alt''.Suits setting turning filled)
include h

theorem ownSteps_other (left : Expr) (operator text operator' text' : String) :
    Altered setting turning filled [.other left operator text] [.other (left.altered alt) operator' text'] :=
  .other (ofExpr?_altered h left) operator text operator' text'

include h' in
theorem ownSteps_binary (underNot : Bool) (left : Expr) (op : BinaryOp) (right : Expr) :
    Altered setting turning filled (Expr.ownSteps underNot (.binary left op right))
      (Expr.ownSteps underNot (.binary (left.altered alt) op (right.altered alt'))) := by
  cases op with
  | eq =>
    simp only [Expr.ownSteps, ofExpr?_altered h]
    cases ColumnRef.ofExpr? left with
    | none => exact .nil
    | some column =>
      refine .key rfl ?_ (.cons (.item h' right) .nil)
      cases underNot <;> simp [KeyPredicate.equality]
  | and => exact .nil
  | or => exact .nil
  | other symbol => exact .nil
  | _ => exact ownSteps_other h left _ _ _ _

include h' in
theorem ownSteps_inList (underNot : Bool) (left : Expr) (negated : Bool) (items : List Expr) :
    Altered setting turning filled (Expr.ownSteps underNot (.inList left negated items))
      (Expr.ownSteps underNot (.inList (left.altered alt) negated (Expr.alteredAll alt' items))) := by
  simp only [Expr.ownSteps, ofExpr?_altered h]
  cases ColumnRef.ofExpr? left with
  | none => exact .nil
  | some column =>
    refine .key rfl ?_ (items_altered items h')
    cases negated <;> cases underNot <;> cases items <;> simp [KeyPredicate.inList, Expr.alteredAll]

include h' h'' in
theorem ownSteps_between (underNot : Bool) (left : Expr) (negated : Bool) (low high : Expr) :
    Altered setting turning filled (Expr.ownSteps underNot (.between left negated low high))
      (Expr.ownSteps underNot (.between (left.altered alt) negated (low.altered alt') (high.altered alt''))) := by
  simp only [Expr.ownSteps, ofExpr?_altered h]
  cases ColumnRef.ofExpr? left with
  | none => exact .nil
  | some column =>
    refine .key rfl ?_ (.cons (.range h' h'' _ _ low high) .nil)
    cases negated <;> cases underNot <;> simp [KeyPredicate.between]

theorem ownSteps_test (underNot : Bool) (left : Expr) (negated : Bool) (kind : Test) (right right' : Expr) :
    Altered setting turning filled (Expr.ownSteps underNot (.test left negated kind right))
      (Expr.ownSteps underNot (.test (left.altered alt) negated kind right')) := by
  cases kind <;> exact ownSteps_other h left _ _ _ _

end

/-- The values of an inserted row. -/
theorem row_altered : ∀ (columns : List Ident) (row : List Expr) {alt : Alteration},
    alt.Suits setting turning filled →
      Altered setting turning filled
        ((columns.zip row).map fun (name, value) => .key (.equality false (.ofName name) value))
        ((columns.zip (Expr.alteredAll alt row)).map fun (name, value) => .key (.equality false (.ofName name) value))
  | [], _, _, _ => .nil
  | _ :: _, [], _, _ => .nil
  | name :: columns, value :: row, alt, h => by
    have hfirst : Altered setting turning filled [.key (.equality false (.ofName name) value)]
        [.key (.equality false (.ofName name) (value.altered (alt.into 0)))] :=
      .key rfl Iff.rfl (.cons (.item (h.into 0) value) .nil)
    exact hfirst.append (row_altered columns row (h.into 1))

theorem rows_altered (columns : List Ident) : ∀ (rows : List (List Expr)) {alt : Alteration},
    alt.Suits setting turning filled →
      Altered setting turning filled (rows.flatMap fun row => (columns.zip row).map fun (name, value) =>
          .key (.equality false (.ofName name) value))
        ((Expr.alteredRows alt rows).flatMap fun row => (columns.zip row).map fun (name, value) =>
          .key (.equality false (.ofName name) value))
  | [], _, _ => .nil
  | row :: rows, _, h => .append (row_altered columns row (h.into 0)) (rows_altered columns rows (h.into 1))

theorem insert_ownSteps_altered (h : alt.Suits setting turning filled) (insert : Insert) :
    Altered setting turning filled insert.ownSteps (insert.altered alt).ownSteps := by
  obtain ⟨head, target, alias_, columns, middle, source, trailer⟩ := insert
  cases columns with
  | nil => exact .nil
  | cons column columns =>
    cases source with
    | none => exact .nil
    | some query =>
      obtain ⟨recursive, ctes, body, orderBy, limit, offset, limitBy, settings, fetch, ending⟩ := query
      cases body with
      | values explicitRow rows => exact rows_altered (column :: columns) rows (((h.into 1).into 1).into 0)
      | _ => exact .nil

/-! ### Tables -/

theorem tableFactors_altered : ∀ (table : TableRef) {alt : Alteration}, alt.named = id →
    tableFactors (table.altered alt) = tableFactors table
  | .table name arguments alias_ hints, alt, h => by rw [TableRef.altered, tableFactors, tableFactors, h, id]
  | .nested inner _, _, h => tableFactors_altered inner h
  | .join left _ right _ _ _, _, h =>
    congrArg₂ (· ++ ·) (tableFactors_altered left h) (tableFactors_altered right h)
  | .derived .., _, _ => rfl
  | .turned .., _, _ => rfl
  | .other .., _, _ => rfl

theorem factors_altered : ∀ (tables : List TableRef) {alt : Alteration}, alt.named = id →
    factors (TableRef.alteredAll alt tables) = factors tables
  | [], _, _ => rfl
  | table :: tables, alt, h => by
    have hfirst : tableFactors (table.altered (alt.into 0)) = tableFactors table := tableFactors_altered table h
    have hrest : factors (TableRef.alteredAll (alt.into 1) tables) = factors tables := factors_altered tables h
    exact congrArg₂ (· ++ ·) hfirst hrest

theorem factors_alteredOptional (tables : Option (List TableRef)) (h : alt.named = id) :
    factors ((TableRef.alteredOptional alt tables).getD []) = factors (tables.getD []) := by
  cases tables with
  | none => rfl
  | some tables => exact factors_altered tables h

theorem allSteps_eq (tables : List TableRef) : TableRef.allSteps tables = tables.flatMap TableRef.steps := by
  induction tables with
  | nil => rfl
  | cons table tables ih => rw [TableRef.allSteps, ih, List.flatMap_cons]

/-! ### Trees -/

/-- The tables of a selection have their steps in another order. -/
theorem permute_steps (h : alt.Suits setting turning filled) {steps : List Step} {tables : List TableRef}
    (hsteps : Altered setting turning filled steps (TableRef.allSteps tables)) :
    Altered setting turning filled steps (TableRef.allSteps (permute (alt.order []) tables)) := by
  by_cases hturning : turning
  · rw [allSteps_eq] at hsteps ⊢
    exact .perm hturning (.refl _) hsteps ((permute_perm _ _).symm.flatMap_right _)
  · rwa [(h.still hturning).2, permute_nil]

theorem permute_sites (h : alt.Suits setting turning filled) (tables : List TableRef) :
    (setting.bindingsOf (Factor.sites 0 (factors tables))).Perm (setting.bindingsOf (Factor.sites 0
        (factors (permute (alt.order []) (TableRef.alteredAll (alt.into 3) tables))))) ∧
      (¬turning → setting.bindingsOf (Factor.sites 0 (factors tables)) = setting.bindingsOf (Factor.sites 0
        (factors (permute (alt.order []) (TableRef.alteredAll (alt.into 3) tables))))) := by
  have hfactors : factors (TableRef.alteredAll (alt.into 3) tables) = factors tables := factors_altered tables h.named
  constructor
  · rw [setting.bindingsOf_sites, setting.bindingsOf_sites, ← hfactors]
    exact ((permute_perm _ _).symm.flatMap_right _).filterMap _
  · intro hstill
    rw [(h.still hstill).2, permute_nil, hfactors]

mutual

theorem Expr.steps_altered : ∀ (e : Expr) (underNot : Bool) {alt : Alteration}, alt.Suits setting turning filled →
    Altered setting turning filled (e.steps underNot) ((e.altered alt).steps underNot)
  | .ident _, _, _, _ => .nil
  | .column _, _, _, _ => .nil
  | .literal value, underNot, _, h => by
    rw [Expr.altered]
    rcases h.fill value with hkept | ⟨-, _, _, -, hsource, -⟩
    · rw [hkept]
      exact .nil
    · rw [steps_of_source hsource]
      exact .nil
  | .typed _ _, _, _, _ => .nil
  | .nested operand, underNot, _, h => Expr.steps_altered operand underNot (h.into 0)
  | .not operand, _, _, h => Expr.steps_altered operand true (h.into 0)
  | .sign _ operand, underNot, _, h => Expr.steps_altered operand underNot (h.into 0)
  | .binary left op right, underNot, alt, h => by
    have hleft := Expr.steps_altered left underNot (h.into 0)
    have hright := Expr.steps_altered right underNot (h.into 1)
    rw [Expr.altered]
    rcases h.join (left.altered (alt.into 0)) op (right.altered (alt.into 1)) with
      hjoin | ⟨hturning, hcommutes, hjoin⟩
    · rw [hjoin]
      exact .append (ownSteps_binary (h.into 0) (h.into 1) underNot left op right) (hleft.append hright)
    · rw [hjoin, Expr.steps, Expr.steps, ownSteps_commutes hcommutes, ownSteps_commutes hcommutes]
      exact .perm hturning (.refl _) (hleft.append hright) List.perm_append_comm
  | .inList left negated items, underNot, _, h =>
    .append (ownSteps_inList (h.into 0) (h.into 1) underNot left negated items)
      ((Expr.steps_altered left underNot (h.into 0)).append (Expr.allSteps_altered items underNot (h.into 1)))
  | .between left negated low high, underNot, _, h =>
    .append (ownSteps_between (h.into 0) (h.into 1) (h.into 2) underNot left negated low high)
      ((Expr.steps_altered left underNot (h.into 0)).append
        ((Expr.steps_altered low underNot (h.into 1)).append (Expr.steps_altered high underNot (h.into 2))))
  | .test left negated kind right, underNot, alt, h =>
    .append (ownSteps_test (h.into 0) underNot left negated kind right (right.altered (alt.into 1)))
      ((Expr.steps_altered left underNot (h.into 0)).append (Expr.steps_altered right underNot (h.into 1)))
  | .isNull operand, underNot, _, h =>
    .append (ownSteps_other (h.into 0) operand _ _ _ _) (Expr.steps_altered operand underNot (h.into 0))
  | .subquery query, _, _, h => Query.steps_altered query (h.into 0)
  | .trim _ what subject, underNot, _, h =>
    (Expr.steps_altered subject underNot (h.into 1)).append (Expr.steps_altered what underNot (h.into 0))
  | .call _ pieces, underNot, _, h => Piece.allSteps_altered pieces underNot (h.into 0)
  | .form pieces, underNot, _, h => Piece.allSteps_altered pieces underNot (h.into 0)

theorem Expr.allSteps_altered : ∀ (es : List Expr) (underNot : Bool) {alt : Alteration},
    alt.Suits setting turning filled →
      Altered setting turning filled (Expr.allSteps underNot es) (Expr.allSteps underNot (Expr.alteredAll alt es))
  | [], _, _, _ => .nil
  | e :: es, underNot, _, h =>
    (Expr.steps_altered e underNot (h.into 0)).append (Expr.allSteps_altered es underNot (h.into 1))

theorem Expr.optionalSteps_altered : ∀ (e : Option Expr) (underNot : Bool) {alt : Alteration},
    alt.Suits setting turning filled →
      Altered setting turning filled
        (Expr.optionalSteps underNot e) (Expr.optionalSteps underNot (Expr.alteredOptional alt e))
  | none, _, _, _ => .nil
  | some e, underNot, _, h => Expr.steps_altered e underNot h

theorem Expr.rowSteps_altered : ∀ (rows : List (List Expr)) {alt : Alteration}, alt.Suits setting turning filled →
    Altered setting turning filled (Expr.rowSteps rows) (Expr.rowSteps (Expr.alteredRows alt rows))
  | [], _, _ => .nil
  | row :: rows, _, h =>
    (Expr.allSteps_altered row false (h.into 0)).append (Expr.rowSteps_altered rows (h.into 1))

theorem Piece.steps_altered : ∀ (piece : Piece) (underNot : Bool) {alt : Alteration},
    alt.Suits setting turning filled →
      Altered setting turning filled (piece.steps underNot) ((piece.altered alt).steps underNot)
  | .words _, _, _, _ => .nil
  | .part operand, underNot, _, h => Expr.steps_altered operand underNot (h.into 0)
  | .aside _, _, _, _ => .nil

theorem Piece.allSteps_altered : ∀ (pieces : List Piece) (underNot : Bool) {alt : Alteration},
    alt.Suits setting turning filled →
      Altered setting turning filled
        (Piece.allSteps underNot pieces) (Piece.allSteps underNot (Piece.alteredAll alt pieces))
  | [], _, _, _ => .nil
  | piece :: pieces, underNot, _, h =>
    (Piece.steps_altered piece underNot (h.into 0)).append (Piece.allSteps_altered pieces underNot (h.into 1))

theorem Query.steps_altered : ∀ (query : Query) {alt : Alteration}, alt.Suits setting turning filled →
    Altered setting turning filled query.steps (query.altered alt).steps
  | { recursive := _, ctes, body, orderBy, limit, offset, limitBy, settings := _, fetch, ending := _ }, _, h => by
    have horderBy := Expr.allSteps_altered orderBy false (h.into 2)
    have hlimit := Expr.optionalSteps_altered limit false (h.into 3)
    have hoffset := Expr.optionalSteps_altered offset false (h.into 4)
    have hlimitBy := Expr.allSteps_altered limitBy false (h.into 5)
    have hfetch := Expr.optionalSteps_altered fetch false (h.into 7)
    exact (Cte.allSteps_altered ctes (h.into 0)).append (Body.steps_altered body (h.into 1)
      (horderBy.append (hlimit.append (hlimitBy.append (hoffset.append hfetch)))))

theorem Cte.steps_altered : ∀ (cte : Cte) {alt : Alteration}, alt.Suits setting turning filled →
    Altered setting turning filled cte.steps (cte.altered alt).steps
  | { alias_ := _, keyword := _, query, source := _ }, _, h => Query.steps_altered query (h.into 0)

theorem Cte.allSteps_altered : ∀ (ctes : List Cte) {alt : Alteration}, alt.Suits setting turning filled →
    Altered setting turning filled (Cte.allSteps ctes) (Cte.allSteps (Cte.alteredAll alt ctes))
  | [], _, _ => .nil
  | cte :: ctes, _, h => (Cte.steps_altered cte (h.into 0)).append (Cte.allSteps_altered ctes (h.into 1))

theorem Body.steps_altered : ∀ (body : Body) {alt : Alteration} {tail tail' : List Step},
    alt.Suits setting turning filled →
      Altered setting turning filled tail tail' →
        Altered setting turning filled (body.steps tail) ((body.altered alt).steps tail')
  | .select select, alt, _, _, h, htail => by
    have hinside := Select.inside_altered select (h.into 0) htail
    obtain ⟨hsites, hsame⟩ := permute_sites (h.into 0) select.from_
    have hfrom : (select.altered (alt.into 0)).from_ =
        permute ((alt.into 0).order []) (TableRef.alteredAll ((alt.into 0).into 3) select.from_) := by
      cases select
      rfl
    rw [Body.altered, Body.steps, Body.steps, select.steps_eq, Select.steps_eq (select.altered _), hfrom]
    exact .scope true hsites hsame hinside
  | .query query, _, _, _, h, htail => (Query.steps_altered query (h.into 0)).append htail
  | .setOperation left _ right, _, _, _, h, htail =>
    (Body.steps_altered left (h.into 0) .nil).append ((Body.steps_altered right (h.into 1) .nil).append htail)
  | .values _ rows, _, _, _, h, htail => (Expr.rowSteps_altered rows (h.into 0)).append htail
  | .table _ _, _, _, _, _, htail => htail
  | .statement statement, _, _, _, h, htail => (Statement.steps_altered statement (h.into 0)).append htail

/-- What stands inside the scope of a selection. -/
theorem Select.inside_altered : ∀ (select : Select) {alt : Alteration} {tail tail' : List Step},
    alt.Suits setting turning filled →
      Altered setting turning filled tail tail' →
        Altered setting turning filled
          (Step.inside (select.steps tail)) (Step.inside ((select.altered alt).steps tail'))
  | { head := _, projection, into := _, from_, views := _, prewhere, selection, groupBy, groupTail := _,
      clusterBy, distributeBy, sortBy, having, windowsBefore := _, qualify, windowsAfter := _,
      connectBy := _ }, _, _, _, h, htail => by
    have hfrom := permute_steps h (TableRef.allSteps_altered from_ (h.into 3))
    have hprojection := Expr.allSteps_altered projection false (h.into 1)
    have hprewhere := Expr.optionalSteps_altered prewhere false (h.into 5)
    have hselection := Expr.optionalSteps_altered selection false (h.into 6)
    have hgroupBy := Expr.allSteps_altered groupBy false (h.into 7)
    have hclusterBy := Expr.allSteps_altered clusterBy false (h.into 9)
    have hdistributeBy := Expr.allSteps_altered distributeBy false (h.into 10)
    have hsortBy := Expr.allSteps_altered sortBy false (h.into 11)
    have hhaving := Expr.optionalSteps_altered having false (h.into 12)
    have hqualify := Expr.optionalSteps_altered qualify false (h.into 14)
    exact hfrom.append (hprojection.append (hprewhere.append (hselection.append (hgroupBy.append (hhaving.append
      (hqualify.append (hclusterBy.append (hdistributeBy.append (hsortBy.append htail)))))))))

theorem TableRef.steps_altered : ∀ (table : TableRef) {alt : Alteration}, alt.Suits setting turning filled →
    Altered setting turning filled table.steps (table.altered alt).steps
  | .table .., _, _ => .nil
  | .derived _ query _, _, h => Query.steps_altered query (h.into 0)
  | .nested inner _, _, h => TableRef.steps_altered inner (h.into 0)
  | .join left _ right matching on _, _, h =>
    (TableRef.steps_altered left (h.into 0)).append ((TableRef.steps_altered right (h.into 1)).append
      ((Expr.optionalSteps_altered matching false (h.into 2)).append
        (Expr.optionalSteps_altered on false (h.into 3))))
  | .turned .., _, _ => .nil
  | .other .., _, _ => .nil

theorem TableRef.allSteps_altered : ∀ (tables : List TableRef) {alt : Alteration},
    alt.Suits setting turning filled →
      Altered setting turning filled
        (TableRef.allSteps tables) (TableRef.allSteps (TableRef.alteredAll alt tables))
  | [], _, _ => .nil
  | table :: tables, _, h =>
    (TableRef.steps_altered table (h.into 0)).append (TableRef.allSteps_altered tables (h.into 1))

theorem Insert.inside_altered : ∀ (insert : Insert) {alt : Alteration}, alt.Suits setting turning filled →
    Altered setting turning filled (Step.inside insert.steps) (Step.inside (insert.altered alt).steps)
  | { head := _, target := _, alias_ := _, columns := _, middle := _, source := some query, trailer := _ }, _, h =>
    (insert_ownSteps_altered h _).append (Query.steps_altered query (h.into 1))
  | { head := _, target := _, alias_ := _, columns := _, middle := _, source := none, trailer := _ }, _, h =>
    (insert_ownSteps_altered h _).append .nil

theorem Update.inside_altered : ∀ (update : Update) {alt : Alteration}, alt.Suits setting turning filled →
    Altered setting turning filled (Step.inside update.steps) (Step.inside (update.altered alt).steps)
  | { conflict := _, table, fromBefore := _, assignments, fromAfter := _, selection, returning := _ }, _, h =>
    (TableRef.steps_altered table (h.into 0)).append ((Expr.allSteps_altered assignments false (h.into 2)).append
      (Expr.optionalSteps_altered selection false (h.into 4)))

theorem Delete.inside_altered : ∀ (delete : Delete) {alt : Alteration}, alt.Suits setting turning filled →
    Altered setting turning filled (Step.inside delete.steps) (Step.inside (delete.altered alt).steps)
  | { targets := _, fromKeyword := _, from_, using_ := some others, selection, returning := _, orderBy, limit }, _, h =>
    (TableRef.allSteps_altered from_ (h.into 0)).append ((TableRef.allSteps_altered others (h.into 1)).append
      ((Expr.optionalSteps_altered selection false (h.into 2)).append
        ((Expr.allSteps_altered orderBy false (h.into 4)).append
          (Expr.optionalSteps_altered limit false (h.into 5)))))
  | { targets := _, fromKeyword := _, from_, using_ := none, selection, returning := _, orderBy, limit }, _, h =>
    (TableRef.allSteps_altered from_ (h.into 0)).append (.append .nil
      ((Expr.optionalSteps_altered selection false (h.into 2)).append
        ((Expr.allSteps_altered orderBy false (h.into 4)).append
          (Expr.optionalSteps_altered limit false (h.into 5)))))

/-- The script of an altered statement resembles that of the statement. -/
theorem Statement.steps_altered : ∀ (statement : Statement) {alt : Alteration}, alt.Suits setting turning filled →
    Altered setting turning filled statement.steps (statement.altered alt).steps
  | .query query, _, h => Query.steps_altered query (h.into 0)
  | .insert insert, alt, h => by
    have hinside := Insert.inside_altered insert (h.into 0)
    have htarget : (insert.altered (alt.into 0)).target = insert.target := by
      cases insert
      exact congrFun h.named _
    rw [Statement.altered, Statement.steps, Statement.steps, insert.steps_eq, Insert.steps_eq (insert.altered _),
      htarget]
    exact .scope false (.refl _) (fun _ => rfl) hinside
  | .update update, alt, h => by
    have hinside := Update.inside_altered update (h.into 0)
    have htable : tableFactors (update.altered (alt.into 0)).table = tableFactors update.table := by
      obtain ⟨conflict, table, fromBefore, assignments, fromAfter, selection, returning⟩ := update
      exact tableFactors_altered table h.named
    rw [Statement.altered, Statement.steps, Statement.steps, update.steps_eq, Update.steps_eq (update.altered _),
      htable]
    exact .scope true (.refl _) (fun _ => rfl) hinside
  | .delete delete, alt, h => by
    have hinside := Delete.inside_altered delete (h.into 0)
    have hfrom : factors (delete.altered (alt.into 0)).from_ = factors delete.from_ := by
      obtain ⟨targets, fromKeyword, from_, using_, selection, returning, orderBy, limit⟩ := delete
      exact factors_altered from_ h.named
    have husing : factors ((delete.altered (alt.into 0)).using_.getD []) = factors (delete.using_.getD []) := by
      obtain ⟨targets, fromKeyword, from_, using_, selection, returning, orderBy, limit⟩ := delete
      exact factors_alteredOptional using_ h.named
    rw [Statement.altered, Statement.steps, Statement.steps, delete.steps_eq, Delete.steps_eq (delete.altered _),
      hfrom, husing]
    exact .scope false (.refl _) (fun _ => rfl) hinside
  | .other, _, _ => .nil

end

end ShardRouting
