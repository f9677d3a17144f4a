import ShardRouting.Proofs.Altering
import ShardRouting.Proofs.Placing
import Mathlib.Data.Option.Basic

/-! Placing and altering commute. The tables of an altered tree have their homes near those of the tree, so placing
    them and spelling their new names anew gives what altering the placed tree gives. -/

namespace ShardRouting
open Sql Walk

variable {setting : Setting} {turning filled : Prop} {alt : Alteration} {spell : ObjectName → ObjectName}
  {steps rest steps' : List Step} {bindings : List Binding} {home home' : Factor → Option Destination}

/-! ### Spelling -/

/-- The same alteration, with other spellings of the tables. -/
def Sql.Alteration.spelled (alt : Alteration) (spell : ObjectName → ObjectName) : Alteration :=
  { alt with named := spell }

namespace Sql.Alteration

theorem into_spelled (alt : Alteration) (spell : ObjectName → ObjectName) (i : Nat) :
    (alt.spelled spell).into i = (alt.into i).spelled spell := rfl

theorem beside_spelled (alt : Alteration) (spell : ObjectName → ObjectName) (i : Nat) :
    (alt.spelled spell).beside i = alt.beside i := rfl

theorem order_spelled (alt : Alteration) (spell : ObjectName → ObjectName) :
    (alt.spelled spell).order = alt.order := rfl

end Sql.Alteration

/-- Destinations that are the same, and equal unless tables may turn. -/
def Destination.Near (turning : Prop) (route route' : Destination) : Prop :=
  route.same route' = true ∧ (¬turning → route' = route)

/-- A spelling that does not tell apart what is near. -/
structure Spelling (setting : Setting) (turning : Prop) where
  spell : ObjectName → ObjectName
  near : ∀ route route', Destination.Near turning route route' → ∀ name,
    spell (rename setting.options.defaultSchema route' name) = spell (rename setting.options.defaultSchema route name)

/-- The tables of a scope have their homes near each other. -/
def Nearby (turning : Prop) (home home' : Factor → Option Destination) (fs : List Factor) : Prop :=
  ∀ factor ∈ fs, Option.Rel (Destination.Near turning) (home factor) (home' factor)

theorem Nearby.left {fs gs : List Factor} (h : Nearby turning home home' (fs ++ gs)) :
    Nearby turning home home' fs :=
  fun factor hfactor => h factor (List.mem_append_left gs hfactor)

theorem Nearby.right {fs gs : List Factor} (h : Nearby turning home home' (fs ++ gs)) :
    Nearby turning home home' gs :=
  fun factor hfactor => h factor (List.mem_append_right fs hfactor)

theorem Naming.aliasFor_near {naming : Naming} {route route' : Destination}
    (h : Destination.Near turning route route') (name : ObjectName) (alias_ : Option TableAlias) :
    naming.aliasFor name alias_ route' = naming.aliasFor name alias_ route := by
  obtain ⟨-, htable⟩ := Destination.same_iff.mp h.1
  have hsame (other : String) : Text.sameAscii route'.table other = Text.sameAscii route.table other := by
    rw [Text.sameAscii, Text.sameAscii, Text.sameAscii_iff.mp htable]
  unfold aliasFor
  simp only [hsame]

/-! ### Scripts that go through -/

/-- A script that goes through, all tables of which settle. -/
structure Step.Sound (setting : Setting) (bindings : List Binding) (steps : List Step) : Prop where
  permitted : Step.allPermitted setting bindings steps
  settles : ∀ plain ∈ Step.allClosed setting steps, ∃ table, Closed setting plain table

namespace Step.Sound

theorem left (h : Sound setting bindings (steps ++ rest)) : Sound setting bindings steps where
  permitted := (Step.allPermitted_append.mp h.permitted).1
  settles plain hplain := h.settles plain (by rw [Step.allClosed_append]; exact List.mem_append_left _ hplain)

theorem right (h : Sound setting bindings (steps ++ rest)) : Sound setting bindings rest where
  permitted := (Step.allPermitted_append.mp h.permitted).2
  settles plain hplain := h.settles plain (by rw [Step.allClosed_append]; exact List.mem_append_right _ hplain)

variable {aliases : Bool} {sites : List Site}

theorem inside (h : Sound setting bindings [.scope aliases sites steps]) :
    Sound setting (setting.bindingsOf sites) steps where
  permitted := h.permitted.1
  settles plain hplain := h.settles plain (by
    rw [Step.allClosed, Step.closed, Step.allClosed, List.append_nil]
    exact List.mem_append_left _ hplain)

/-- In a script that resembles it, the tables of a scope have their homes nearby. -/
theorem nearby (h : Sound setting bindings [.scope aliases sites steps]) {fs : List Factor}
    (hsites : setting.bindingsOf sites = fs.filterMap setting.bindingAt?)
    (hsteps : Altered setting turning filled steps steps') :
    Nearby turning (setting.home? steps) (setting.home? steps') fs := by
  intro factor hfactor
  cases hbound : setting.bindingAt? factor with
  | none =>
    rw [Setting.home?_of_none hbound, Setting.home?_of_none hbound]
    exact .none
  | some binding =>
    have hbinding : binding ∈ setting.bindingsOf sites := by
      rw [hsites]
      exact List.mem_filterMap.mpr ⟨factor, hfactor, hbound⟩
    obtain ⟨table, htable⟩ : ∃ table, Closed setting (binding.hear setting.scan steps) table := by
      refine h.settles _ ?_
      rw [Step.allClosed, Step.closed, Step.allClosed, List.append_nil]
      exact List.mem_append_right _ (List.mem_map_of_mem hbinding)
    have halike := hsteps.heard (fun _ _ _ hpiece => hpiece.source) hbinding h.inside.permitted
    obtain ⟨again, hagain, hrerouted⟩ := halike.closed (fun _ _ hsource => hsource.values) htable
    rw [Setting.home?_of_closed hbound htable, Setting.home?_of_closed hbound hagain]
    exact .some ⟨hrerouted.route, hrerouted.still⟩

/-- The clauses behind a body run in its scope or behind it. -/
theorem tail {tail : List Step} (body : Body) (h : Sound setting bindings (body.steps tail)) :
    ∃ bindings, Sound setting bindings tail := by
  cases body with
  | select select =>
    obtain ⟨head, projection, into, from_, views, prewhere, selection, groupBy, groupTail, clusterBy, distributeBy,
      sortBy, having, windowsBefore, qualify, windowsAfter, connectBy⟩ := select
    exact ⟨_, h.inside.right.right.right.right.right.right.right.right.right.right⟩
  | query query => exact ⟨_, h.right⟩
  | setOperation left words right => exact ⟨_, h.right.right⟩
  | values explicitRow rows => exact ⟨_, h.right⟩
  | table schema name => exact ⟨_, h⟩
  | statement statement => exact ⟨_, h.right⟩

end Step.Sound

/-! ### Lists of tables -/

namespace Sql

theorem TableRef.placedAll_eq (tables : List TableRef) :
    TableRef.placedAll setting tables = tables.map (TableRef.placed setting) := by
  induction tables with
  | nil => rfl
  | cons table tables ih => rw [TableRef.placedAll, ih, List.map_cons]

theorem TableRef.alteredAll_named (tables : List TableRef) :
    TableRef.alteredAll { named := spell } tables = tables.map (TableRef.altered { named := spell }) := by
  induction tables with
  | nil => rfl
  | cons table tables ih => rw [TableRef.alteredAll, Alteration.into_named, Alteration.into_named, ih, List.map_cons]

theorem TableRef.permute_placed (order : List Nat) (tables : List TableRef) (aliases : Bool) :
    TableRef.alteredAll { named := spell } ((TableRef.placedAll setting (permute order tables)).map
        (TableRef.moved setting.naming home aliases)) =
      permute order (TableRef.alteredAll { named := spell } ((TableRef.placedAll setting tables).map
        (TableRef.moved setting.naming home aliases))) := by
  simp only [TableRef.placedAll_eq, TableRef.alteredAll_named, permute_map]

/-- What has a value has no tables to place or to spell. -/
theorem Expr.placed_of_source {scan : Scan} : ∀ {e : Expr} {source : ValueSource}, valueSource? scan e = some source →
    (e.placed setting).altered { named := spell } = e
  | .literal value, _, _ => Alteration.fill_named spell value
  | .typed _ _, _, _ => rfl
  | .nested operand, _, h => congrArg Expr.nested (Expr.placed_of_source (e := operand) h)
  | .sign negative operand, source, h => by
    rw [valueSource?_sign] at h
    cases hoperand : valueSource? scan operand with
    | none => simp [hoperand] at h
    | some found => exact congrArg (Expr.sign negative) (Expr.placed_of_source hoperand)

theorem Alteration.join_placed (alt : Alteration) (left : Expr) (op : BinaryOp) (right : Expr) :
    ((alt.join left op right).placed setting).altered { named := spell } =
      alt.join ((left.placed setting).altered { named := spell }) op
        ((right.placed setting).altered { named := spell }) := by
  unfold Alteration.join
  split <;> rw [Expr.placed, Expr.altered, Alteration.join_named, Alteration.into_named, Alteration.into_named]

theorem Factor.homes_near {fs : List Factor} (h : Nearby turning home home' fs) :
    List.Forall₂ (fun first again => again.1 = first.1 ∧ Destination.Near turning first.2 again.2)
      (Factor.homes home fs) (Factor.homes home' fs) := by
  induction fs with
  | nil => exact .nil
  | cons factor fs ih =>
    have hrest := ih fun other hother => h other (List.mem_cons_of_mem _ hother)
    have hfirst := h factor List.mem_cons_self
    rw [Factor.homes_cons, Factor.homes_cons]
    cases hhome : home factor <;> cases hhome' : home' factor <;> rw [hhome, hhome'] at hfirst <;> cases hfirst
    · exact hrest
    · next hnear => exact .cons ⟨rfl, hnear⟩ hrest

section
variable {spelling : Spelling setting turning}

theorem ObjectName.spell_moved (spelling : Spelling setting turning) {name : ObjectName}
    (h : Nearby turning home home' [⟨name, none⟩]) :
    spelling.spell (name.moved setting.naming home') = spelling.spell (name.moved setting.naming home) := by
  have hnear := h _ List.mem_cons_self
  unfold ObjectName.moved
  cases hhome : home ⟨name, none⟩ <;> cases hhome' : home' ⟨name, none⟩ <;> rw [hhome, hhome'] at hnear
  · cases hnear
  · cases hnear
  · cases hnear with
    | some hnear => exact spelling.near _ _ hnear name

theorem spell_follow (spelling : Spelling setting turning) {fs : List Factor}
    (h : Nearby turning home home' fs) (name : ObjectName) :
    spelling.spell (setting.naming.follow (Factor.homes home' fs) name) =
      spelling.spell (setting.naming.follow (Factor.homes home fs) name) := by
  rw [Naming.follow, Naming.follow, ← Option.elim_comp spelling.spell, ← Option.elim_comp spelling.spell]
  refine (find?_elim (Factor.homes_near h) ?_ _).symm
  rintro ⟨factor, route⟩ ⟨_, route'⟩ ⟨rfl, hnear⟩
  exact ⟨rfl, (spelling.near route route' hnear name).symm⟩

/-! ### Trees -/

/-- An insertion without what is inserted. -/
theorem Insert.placed_altered_of {insert : Insert} (h : alt.Suits setting turning filled)
    (hsound : Step.Sound setting bindings insert.steps)
    (hsource : Query.alteredOptional { named := spelling.spell }
        (Query.placedOptional setting (Query.alteredOptional (alt.into 1) insert.source)) =
      Query.alteredOptional ((alt.into 1).spelled spelling.spell) (Query.placedOptional setting insert.source)) :
    ((insert.altered alt).placed setting).altered { named := spelling.spell } =
      (insert.placed setting).altered (alt.spelled spelling.spell) := by
  rw [Insert.steps_eq] at hsound
  have hnearby := hsound.nearby (Setting.bindingsOf_target insert.target) (Insert.inside_altered insert h)
  obtain ⟨head, target, alias_, columns, middle, source, trailer⟩ := insert
  have hname : alt.named target = target := congrFun h.named target
  simp only [Insert.altered, Insert.placed, Alteration.into_named, Alteration.beside_named, Alteration.into_spelled,
    Alteration.beside_spelled, hname, hsource, Piece.alteredAll_idle]
  exact congrArg (Insert.mk head · alias_ columns _ _ _) (ObjectName.spell_moved spelling hnearby)

theorem Delete.inside_eq (targets : List ObjectName) (fromKeyword : Bool) (from_ : List TableRef)
    (using_ : Option (List TableRef)) (selection : Option Expr) (returning : List Piece) (orderBy : List Expr)
    (limit : Option Expr) :
    Step.inside (Delete.steps ⟨targets, fromKeyword, from_, using_, selection, returning, orderBy, limit⟩) =
      TableRef.allSteps from_ ++ (TableRef.allSteps (using_.getD []) ++ (Expr.optionalSteps false selection ++
        (Expr.allSteps false orderBy ++ Expr.optionalSteps false limit))) := by
  cases using_ <;> rfl

mutual

theorem Expr.placed_altered : ∀ (e : Expr) (underNot : Bool) {alt : Alteration} {bindings : List Binding},
    alt.Suits setting turning filled → Step.Sound setting bindings (e.steps underNot) →
      ((e.altered alt).placed setting).altered { named := spelling.spell } =
        (e.placed setting).altered (alt.spelled spelling.spell)
  | .ident _, _, _, _, _, _ => rfl
  | .column _, _, _, _, _, _ => rfl
  | .literal value, _, alt, _, h, _ => by
    rw [Expr.altered, Expr.placed, Expr.altered]
    rcases h.fill value with hkept | ⟨-, _, _, -, hsource, -⟩
    · exact (congrArg (fun e : Expr => (e.placed setting).altered { named := spelling.spell }) hkept).trans
        ((Alteration.fill_named spelling.spell value).trans hkept.symm)
    · exact Expr.placed_of_source hsource
  | .typed _ _, _, _, _, _, _ => rfl
  | .nested operand, underNot, _, _, h, hsound =>
    congrArg Expr.nested (Expr.placed_altered operand underNot (h.into 0) hsound)
  | .not operand, _, _, _, h, hsound => congrArg Expr.not (Expr.placed_altered operand true (h.into 0) hsound)
  | .sign negative operand, underNot, _, _, h, hsound =>
    congrArg (Expr.sign negative) (Expr.placed_altered operand underNot (h.into 0) hsound)
  | .binary left op right, underNot, alt, _, h, hsound => by
    have hleft := Expr.placed_altered left underNot (h.into 0) hsound.right.left
    have hright := Expr.placed_altered right underNot (h.into 1) hsound.right.right
    rw [Expr.altered, Expr.placed, Expr.altered, Alteration.join_placed, hleft, hright]
    rfl
  | .inList left negated items, underNot, _, _, h, hsound =>
    congrArg₂ (Expr.inList · negated ·) (Expr.placed_altered left underNot (h.into 0) hsound.right.left)
      (Expr.placedAll_altered items underNot (h.into 1) hsound.right.right)
  | .between left negated low high, underNot, _, _, h, hsound => by
    have hleft := Expr.placed_altered left underNot (h.into 0) hsound.right.left
    have hlow := Expr.placed_altered low underNot (h.into 1) hsound.right.right.left
    have hhigh := Expr.placed_altered high underNot (h.into 2) hsound.right.right.right
    simp only [Expr.altered, Expr.placed, Alteration.into_named, hleft, hlow, hhigh]
    rfl
  | .test left negated kind right, underNot, _, _, h, hsound =>
    congrArg₂ (Expr.test · negated kind ·) (Expr.placed_altered left underNot (h.into 0) hsound.right.left)
      (Expr.placed_altered right underNot (h.into 1) hsound.right.right)
  | .isNull operand, underNot, _, _, h, hsound =>
    congrArg Expr.isNull (Expr.placed_altered operand underNot (h.into 0) hsound.right)
  | .subquery query, _, _, _, h, hsound => congrArg Expr.subquery (Query.placed_altered query (h.into 0) hsound)
  | .trim side what subject, underNot, _, _, h, hsound =>
    congrArg₂ (Expr.trim side) (Expr.placed_altered what underNot (h.into 0) hsound.right)
      (Expr.placed_altered subject underNot (h.into 1) hsound.left)
  | .call name pieces, underNot, _, _, h, hsound =>
    congrArg (Expr.call name) (Piece.placedAll_altered pieces underNot (h.into 0) hsound)
  | .form pieces, underNot, _, _, h, hsound =>
    congrArg Expr.form (Piece.placedAll_altered pieces underNot (h.into 0) hsound)

theorem Expr.placedAll_altered : ∀ (es : List Expr) (underNot : Bool) {alt : Alteration} {bindings : List Binding},
    alt.Suits setting turning filled → Step.Sound setting bindings (Expr.allSteps underNot es) →
      Expr.alteredAll { named := spelling.spell } (Expr.placedAll setting (Expr.alteredAll alt es)) =
        Expr.alteredAll (alt.spelled spelling.spell) (Expr.placedAll setting es)
  | [], _, _, _, _, _ => rfl
  | e :: es, underNot, _, _, h, hsound => congrArg₂ List.cons (Expr.placed_altered e underNot (h.into 0) hsound.left)
    (Expr.placedAll_altered es underNot (h.into 1) hsound.right)

theorem Expr.placedOptional_altered : ∀ (e : Option Expr) (underNot : Bool) {alt : Alteration}
    {bindings : List Binding}, alt.Suits setting turning filled →
      Step.Sound setting bindings (Expr.optionalSteps underNot e) →
        Expr.alteredOptional { named := spelling.spell } (Expr.placedOptional setting (Expr.alteredOptional alt e)) =
          Expr.alteredOptional (alt.spelled spelling.spell) (Expr.placedOptional setting e)
  | none, _, _, _, _, _ => rfl
  | some e, underNot, _, _, h, hsound => congrArg some (Expr.placed_altered e underNot h hsound)

theorem Expr.placedRows_altered : ∀ (rows : List (List Expr)) {alt : Alteration} {bindings : List Binding},
    alt.Suits setting turning filled → Step.Sound setting bindings (Expr.rowSteps rows) →
      Expr.alteredRows { named := spelling.spell } (Expr.placedRows setting (Expr.alteredRows alt rows)) =
        Expr.alteredRows (alt.spelled spelling.spell) (Expr.placedRows setting rows)
  | [], _, _, _, _ => rfl
  | row :: rows, _, _, h, hsound => congrArg₂ List.cons (Expr.placedAll_altered row false (h.into 0) hsound.left)
    (Expr.placedRows_altered rows (h.into 1) hsound.right)

theorem Piece.placed_altered : ∀ (piece : Piece) (underNot : Bool) {alt : Alteration} {bindings : List Binding},
    alt.Suits setting turning filled → Step.Sound setting bindings (piece.steps underNot) →
      ((piece.altered alt).placed setting).altered { named := spelling.spell } =
        (piece.placed setting).altered (alt.spelled spelling.spell)
  | .words _, _, _, _, _, _ => rfl
  | .part operand, underNot, _, _, h, hsound =>
    congrArg Piece.part (Expr.placed_altered operand underNot (h.into 0) hsound)
  | .aside operand, _, _, _, _, _ => congrArg Piece.aside (Expr.altered_idle (operand.altered _))

theorem Piece.placedAll_altered : ∀ (pieces : List Piece) (underNot : Bool) {alt : Alteration}
    {bindings : List Binding}, alt.Suits setting turning filled →
      Step.Sound setting bindings (Piece.allSteps underNot pieces) →
        Piece.alteredAll { named := spelling.spell } (Piece.placedAll setting (Piece.alteredAll alt pieces)) =
          Piece.alteredAll (alt.spelled spelling.spell) (Piece.placedAll setting pieces)
  | [], _, _, _, _, _ => rfl
  | piece :: pieces, underNot, _, _, h, hsound =>
    congrArg₂ List.cons (Piece.placed_altered piece underNot (h.into 0) hsound.left)
      (Piece.placedAll_altered pieces underNot (h.into 1) hsound.right)

theorem Query.placed_altered : ∀ (query : Query) {alt : Alteration} {bindings : List Binding},
    alt.Suits setting turning filled → Step.Sound setting bindings query.steps →
      ((query.altered alt).placed setting).altered { named := spelling.spell } =
        (query.placed setting).altered (alt.spelled spelling.spell)
  | { recursive := _, ctes, body, orderBy, limit, offset, limitBy, settings, fetch, ending }, _, _, h, hsound => by
    obtain ⟨_, htail⟩ := hsound.right.tail
    have hctes := Cte.placedAll_altered ctes (h.into 0) hsound.left
    have horderBy := Expr.placedAll_altered orderBy false (h.into 2) htail.left
    have hlimit := Expr.placedOptional_altered limit false (h.into 3) htail.right.left
    have hlimitBy := Expr.placedAll_altered limitBy false (h.into 5) htail.right.right.left
    have hoffset := Expr.placedOptional_altered offset false (h.into 4) htail.right.right.right.left
    have hfetch := Expr.placedOptional_altered fetch false (h.into 7) htail.right.right.right.right
    have hbody := Body.placed_altered body (h.into 1) hsound.right
      ((Expr.allSteps_altered orderBy false (h.into 2)).append
        ((Expr.optionalSteps_altered limit false (h.into 3)).append
          ((Expr.allSteps_altered limitBy false (h.into 5)).append
            ((Expr.optionalSteps_altered offset false (h.into 4)).append
              (Expr.optionalSteps_altered fetch false (h.into 7))))))
    simp only [Query.altered, Query.placed, Alteration.into_named, Alteration.beside_named, Alteration.into_spelled,
      Alteration.beside_spelled, hctes, horderBy, hlimit, hlimitBy, hoffset, hfetch, hbody, Piece.alteredAll_idle]

theorem Cte.placed_altered : ∀ (cte : Cte) {alt : Alteration} {bindings : List Binding},
    alt.Suits setting turning filled → Step.Sound setting bindings cte.steps →
      ((cte.altered alt).placed setting).altered { named := spelling.spell } =
        (cte.placed setting).altered (alt.spelled spelling.spell)
  | { alias_, keyword, query, source }, _, _, h, hsound =>
    congrArg (Cte.mk alias_ keyword · source) (Query.placed_altered query (h.into 0) hsound)

theorem Cte.placedAll_altered : ∀ (ctes : List Cte) {alt : Alteration} {bindings : List Binding},
    alt.Suits setting turning filled → Step.Sound setting bindings (Cte.allSteps ctes) →
      Cte.alteredAll { named := spelling.spell } (Cte.placedAll setting (Cte.alteredAll alt ctes)) =
        Cte.alteredAll (alt.spelled spelling.spell) (Cte.placedAll setting ctes)
  | [], _, _, _, _ => rfl
  | cte :: ctes, _, _, h, hsound => congrArg₂ List.cons (Cte.placed_altered cte (h.into 0) hsound.left)
    (Cte.placedAll_altered ctes (h.into 1) hsound.right)

theorem Body.placed_altered : ∀ (body : Body) {alt : Alteration} {bindings : List Binding} {tail tail' : List Step},
    alt.Suits setting turning filled → Step.Sound setting bindings (body.steps tail) →
      Altered setting turning filled tail tail' →
        ((body.altered alt).placed setting tail').altered { named := spelling.spell } =
          (body.placed setting tail).altered (alt.spelled spelling.spell)
  | .select select, _, _, _, _, h, hsound, htail =>
    congrArg Body.select (Select.placed_altered select (h.into 0) hsound htail)
  | .query query, _, _, _, _, h, hsound, _ =>
    congrArg Body.query (Query.placed_altered query (h.into 0) hsound.left)
  | .setOperation left words right, _, _, _, _, h, hsound, _ =>
    congrArg₂ (Body.setOperation · words ·) (Body.placed_altered left (h.into 0) hsound.left .nil)
      (Body.placed_altered right (h.into 1) hsound.right.left .nil)
  | .values explicitRow rows, _, _, _, _, h, hsound, _ =>
    congrArg (Body.values explicitRow) (Expr.placedRows_altered rows (h.into 0) hsound.left)
  | .table _ _, _, _, _, _, _, _, _ => rfl
  | .statement statement, _, _, _, _, h, hsound, _ =>
    congrArg Body.statement (Statement.placed_altered statement (h.into 0) hsound.left)

theorem Select.placed_altered : ∀ (select : Select) {alt : Alteration} {bindings : List Binding}
    {tail tail' : List Step}, alt.Suits setting turning filled →
      Step.Sound setting bindings (select.steps tail) → Altered setting turning filled tail tail' →
        ((select.altered alt).placed setting tail').altered { named := spelling.spell } =
          (select.placed setting tail).altered (alt.spelled spelling.spell)
  | { head, projection, into, from_, views, prewhere, selection, groupBy, groupTail, clusterBy, distributeBy,
      sortBy, having, windowsBefore, qualify, windowsAfter, connectBy }, _, _, tail, tail', h, hsound, htail => by
    have hnearby := hsound.nearby (setting.bindingsOf_sites 0 _) (Select.inside_altered
      ⟨head, projection, into, from_, views, prewhere, selection, groupBy, groupTail, clusterBy, distributeBy, sortBy,
        having, windowsBefore, qualify, windowsAfter, connectBy⟩ h htail)
    have hinside := hsound.inside
    have hfrom := TableRef.placedAll_altered from_ true (h.into 3) hinside.left hnearby
    have hprojection := Expr.placedAll_altered projection false (h.into 1) hinside.right.left
    have hprewhere := Expr.placedOptional_altered prewhere false (h.into 5) hinside.right.right.left
    have hselection := Expr.placedOptional_altered selection false (h.into 6) hinside.right.right.right.left
    have hgroupBy := Expr.placedAll_altered groupBy false (h.into 7) hinside.right.right.right.right.left
    have hhaving := Expr.placedOptional_altered having false (h.into 12) hinside.right.right.right.right.right.left
    have hrest := hinside.right.right.right.right.right.right
    have hqualify := Expr.placedOptional_altered qualify false (h.into 14) hrest.left
    have hclusterBy := Expr.placedAll_altered clusterBy false (h.into 9) hrest.right.left
    have hdistributeBy := Expr.placedAll_altered distributeBy false (h.into 10) hrest.right.right.left
    have hsortBy := Expr.placedAll_altered sortBy false (h.into 11) hrest.right.right.right.left
    simp only [Select.altered, Select.placed, Alteration.into_named, Alteration.beside_named, permute_nil,
      Alteration.into_spelled, Alteration.beside_spelled, Alteration.order_spelled, TableRef.permute_placed,
      hprojection, hprewhere, hselection, hgroupBy, hhaving, hqualify, hclusterBy, hdistributeBy, hsortBy,
      Piece.alteredAll_idle]
    congr 1
    exact congrArg (permute _) hfrom

theorem TableRef.placed_altered : ∀ (table : TableRef) (aliases : Bool) {alt : Alteration} {bindings : List Binding}
    {home home' : Factor → Option Destination}, alt.Suits setting turning filled →
      Step.Sound setting bindings table.steps → Nearby turning home home' (tableFactors table) →
        (((table.altered alt).placed setting).moved setting.naming home' aliases).altered
            { named := spelling.spell } =
          ((table.placed setting).moved setting.naming home aliases).altered (alt.spelled spelling.spell)
  | .table name arguments alias_ hints, aliases, alt, _, home, home', h, _, hnearby => by
    have hnear := hnearby _ List.mem_cons_self
    have hname : alt.named name = name := congrFun h.named name
    rw [TableRef.altered, hname, TableRef.placed, TableRef.placed, TableRef.moved, TableRef.moved]
    cases hhome : home ⟨name, alias_⟩ <;> cases hhome' : home' ⟨name, alias_⟩ <;> rw [hhome, hhome'] at hnear
    · simp only [TableRef.altered, Alteration.beside_named, Alteration.beside_spelled, Piece.alteredAll_idle]
      rfl
    · cases hnear
    · cases hnear
    · cases hnear with
      | some hnear =>
        simp only [TableRef.altered, Alteration.beside_named, Alteration.beside_spelled, Piece.alteredAll_idle,
          Naming.aliasFor_near hnear]
        exact congrArg (TableRef.table · _ _ _) (spelling.near _ _ hnear name)
  | .derived lateral query alias_, _, _, _, _, _, h, hsound, _ =>
    congrArg (TableRef.derived lateral · alias_) (Query.placed_altered query (h.into 0) hsound)
  | .nested inner alias_, aliases, _, _, _, _, h, hsound, hnearby =>
    congrArg (TableRef.nested · alias_) (TableRef.placed_altered inner aliases (h.into 0) hsound hnearby)
  | .join left words right matching on using_, aliases, _, _, _, _, h, hsound, hnearby => by
    have hleft := TableRef.placed_altered left aliases (h.into 0) hsound.left hnearby.left
    have hright := TableRef.placed_altered right aliases (h.into 1) hsound.right.left hnearby.right
    have hmatching := Expr.placedOptional_altered matching false (h.into 2) hsound.right.right.left
    have hon := Expr.placedOptional_altered on false (h.into 3) hsound.right.right.right
    simp only [TableRef.altered, TableRef.placed, TableRef.moved, Alteration.into_named, Alteration.into_spelled,
      hleft, hright, hmatching, hon]
  | .turned source pieces alias_, _, _, _, _, _, _, _, _ => by
    simp only [TableRef.altered, TableRef.placed, TableRef.moved, Alteration.beside_named, Alteration.beside_spelled,
      TableRef.altered_idle, Piece.alteredAll_idle]
  | .other pieces alias_ trailer, _, _, _, _, _, _, _, _ => by
    simp only [TableRef.altered, TableRef.placed, TableRef.moved, Alteration.beside_named, Alteration.beside_spelled,
      Piece.alteredAll_idle]

theorem TableRef.placedAll_altered : ∀ (tables : List TableRef) (aliases : Bool) {alt : Alteration}
    {bindings : List Binding} {home home' : Factor → Option Destination}, alt.Suits setting turning filled →
      Step.Sound setting bindings (TableRef.allSteps tables) → Nearby turning home home' (factors tables) →
        TableRef.alteredAll { named := spelling.spell }
            ((TableRef.placedAll setting (TableRef.alteredAll alt tables)).map
              (TableRef.moved setting.naming home' aliases)) =
          TableRef.alteredAll (alt.spelled spelling.spell)
            ((TableRef.placedAll setting tables).map (TableRef.moved setting.naming home aliases))
  | [], _, _, _, _, _, _, _, _ => rfl
  | table :: tables, aliases, _, _, _, _, h, hsound, hnearby =>
    congrArg₂ List.cons (TableRef.placed_altered table aliases (h.into 0) hsound.left hnearby.left)
      (TableRef.placedAll_altered tables aliases (h.into 1) hsound.right hnearby.right)

theorem TableRef.placedOptional_altered : ∀ (tables : Option (List TableRef)) (aliases : Bool) {alt : Alteration}
    {bindings : List Binding} {home home' : Factor → Option Destination}, alt.Suits setting turning filled →
      Step.Sound setting bindings (TableRef.allSteps (tables.getD [])) →
      Nearby turning home home' (factors (tables.getD [])) →
        TableRef.alteredOptional { named := spelling.spell }
            ((TableRef.placedOptional setting (TableRef.alteredOptional alt tables)).map
              (List.map (TableRef.moved setting.naming home' aliases))) =
          TableRef.alteredOptional (alt.spelled spelling.spell)
            ((TableRef.placedOptional setting tables).map (List.map (TableRef.moved setting.naming home aliases)))
  | none, _, _, _, _, _, _, _, _ => rfl
  | some tables, aliases, _, _, _, _, h, hsound, hnearby =>
    congrArg some (TableRef.placedAll_altered tables aliases h hsound hnearby)

theorem Insert.placed_altered : ∀ (insert : Insert) {alt : Alteration} {bindings : List Binding},
    alt.Suits setting turning filled → Step.Sound setting bindings insert.steps →
      ((insert.altered alt).placed setting).altered { named := spelling.spell } =
        (insert.placed setting).altered (alt.spelled spelling.spell)
  | { head := _, target := _, alias_ := _, columns := _, middle := _, source := some query, trailer := _ }, _, _, h,
      hsound =>
    Insert.placed_altered_of h hsound (congrArg some (Query.placed_altered query (h.into 1) hsound.inside.right))
  | { head := _, target := _, alias_ := _, columns := _, middle := _, source := none, trailer := _ }, _, _, h,
      hsound => Insert.placed_altered_of h hsound rfl

theorem Update.placed_altered : ∀ (update : Update) {alt : Alteration} {bindings : List Binding},
    alt.Suits setting turning filled → Step.Sound setting bindings update.steps →
      ((update.altered alt).placed setting).altered { named := spelling.spell } =
        (update.placed setting).altered (alt.spelled spelling.spell)
  | { conflict, table, fromBefore, assignments, fromAfter, selection, returning }, _, _, h, hsound => by
    have hnearby := hsound.nearby (setting.bindingsOf_sites 0 _)
      (Update.inside_altered ⟨conflict, table, fromBefore, assignments, fromAfter, selection, returning⟩ h)
    have htable := TableRef.placed_altered table true (h.into 0) hsound.inside.left hnearby
    have hassignments := Expr.placedAll_altered assignments false (h.into 2) hsound.inside.right.left
    have hselection := Expr.placedOptional_altered selection false (h.into 4) hsound.inside.right.right
    simp only [Update.altered, Update.placed, Alteration.into_named, Alteration.beside_named, Alteration.into_spelled,
      Alteration.beside_spelled, hassignments, hselection, Piece.alteredAll_idle, TableRef.alteredAll_idle]
    exact congrArg (Update.mk conflict · _ _ _ _ _) htable

theorem Delete.placed_altered : ∀ (delete : Delete) {alt : Alteration} {bindings : List Binding},
    alt.Suits setting turning filled → Step.Sound setting bindings delete.steps →
      ((delete.altered alt).placed setting).altered { named := spelling.spell } =
        (delete.placed setting).altered (alt.spelled spelling.spell)
  | { targets, fromKeyword, from_, using_, selection, returning, orderBy, limit }, alt, _, h, hsound => by
    rw [Delete.steps_eq] at hsound
    have hnearby := hsound.nearby (setting.bindingsOf_sites 0 _) (Delete.inside_altered _ h)
    have hinside := hsound.inside
    rw [Delete.inside_eq] at hinside
    have hfrom := TableRef.placedAll_altered from_ false (h.into 0) hinside.left hnearby.left
    have husing := TableRef.placedOptional_altered using_ false (h.into 1) hinside.right.left hnearby.right
    have hselection := Expr.placedOptional_altered selection false (h.into 2) hinside.right.right.left
    have horderBy := Expr.placedAll_altered orderBy false (h.into 4) hinside.right.right.right.left
    have hlimit := Expr.placedOptional_altered limit false (h.into 5) hinside.right.right.right.right
    have hfactors : factors (TableRef.alteredAll (alt.into 0) from_) = factors from_ := factors_altered from_ h.named
    have hfactors' : factors ((TableRef.alteredOptional (alt.into 1) using_).getD []) = factors (using_.getD []) :=
      factors_alteredOptional using_ h.named
    have hname : alt.named = id := h.named
    simp only [Delete.altered, Delete.placed, Alteration.into_named, Alteration.beside_named, Alteration.into_spelled,
      Alteration.beside_spelled, hselection, horderBy, hlimit, Piece.alteredAll_idle, hname, List.map_id,
      List.map_map, hfactors, hfactors']
    -- the tables behind `FROM` and `USING` agree by `hfrom` and `husing`
    congr 1
    exact List.map_congr_left fun name _ => spell_follow spelling hnearby name

theorem Statement.placed_altered : ∀ (statement : Statement) {alt : Alteration} {bindings : List Binding},
    alt.Suits setting turning filled → Step.Sound setting bindings statement.steps →
      ((statement.altered alt).placed setting).altered { named := spelling.spell } =
        (statement.placed setting).altered (alt.spelled spelling.spell)
  | .query query, _, _, h, hsound => congrArg Statement.query (Query.placed_altered query (h.into 0) hsound)
  | .insert insert, _, _, h, hsound => congrArg Statement.insert (Insert.placed_altered insert (h.into 0) hsound)
  | .update update, _, _, h, hsound => congrArg Statement.update (Update.placed_altered update (h.into 0) hsound)
  | .delete delete, _, _, h, hsound => congrArg Statement.delete (Delete.placed_altered delete (h.into 0) hsound)
  | .other, _, _, _, _ => rfl

end

end

end Sql

/-- When a statement and the altered statement are routed, what is made of the one is the altered result of the
    other, but for spellings of destinations that are near. -/
theorem routeStatement_altered {statement : Statement} {routed again : Routed} (h : alt.Suits setting turning filled)
    (hrouted : (Router.routeStatement setting statement).result = .ok routed)
    (hagain : (Router.routeStatement setting (statement.altered alt)).result = .ok again)
    (spelling : Spelling setting turning) :
    again.statement.altered { named := spelling.spell } = routed.statement.altered (alt.spelled spelling.spell) := by
  obtain ⟨hpermitted, hclosed, -, -⟩ := routeStatement_iff.mp hrouted
  have hsettles : ∀ plain ∈ Step.allClosed setting statement.steps, ∃ table, Closed setting plain table := by
    intro plain hplain
    obtain ⟨table, -, htable⟩ := exists_right_of_mem hclosed hplain
    exact ⟨table, htable⟩
  rw [routeStatement_placed hrouted, routeStatement_placed hagain]
  exact statement.placed_altered h ⟨hpermitted, hsettles⟩

end ShardRouting
