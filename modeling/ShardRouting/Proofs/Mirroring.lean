import ShardRouting.Proofs.Coverage

/-! Mirrored runs. What a query does depends on the scope around it only through the predicates that stand in no
    scope of the query itself, and it does not depend at all on the tables that are settled before it. So two
    walks of one tree, from states that may differ much, end with the same tree and settle the same tables. -/

namespace ShardRouting
open Sql
namespace Walk

variable {α β : Type} {setting : Setting} {linked : Scope → Scope → Prop}

/-- Whenever the first step goes through, so does the second one from any state whose scope is `linked` to that of
    the first, with the same result and the same settled tables. Their scopes are linked in the end, too. -/
def Mirrors (linked : Scope → Scope → Prop) (x x' : Walk α) : Prop :=
  ∀ p p' a q, x p = .ok a q → linked p.scope p'.scope →
    ∃ q' tables, x' p' = .ok a q' ∧ linked q.scope q'.scope ∧
      q.routed = p.routed ++ tables ∧ q'.routed = p'.routed ++ tables

namespace Mirrors

theorem pure (a : α) : Mirrors linked (Pure.pure a) (Pure.pure a) := by
  intro p p' b q hrun hlinked
  obtain ⟨rfl, rfl⟩ := pure_iff.mp hrun
  exact ⟨p', [], rfl, hlinked, (List.append_nil _).symm, (List.append_nil _).symm⟩

theorem bind {x x' : Walk α} {f f' : α → Walk β} (hx : Mirrors linked x x') (hf : ∀ a, Mirrors linked (f a) (f' a)) :
    Mirrors linked (x >>= f) (x' >>= f') := by
  intro p p' b q hrun hlinked
  obtain ⟨a, between, hfirst, hsecond⟩ := bind_iff.mp hrun
  obtain ⟨between', tables, hfirst', hlinked', hrouted, hrouted'⟩ := hx p p' a between hfirst hlinked
  obtain ⟨q', more, hsecond', hend, hmore, hmore'⟩ := hf a between between' b q hsecond hlinked'
  refine ⟨q', tables ++ more, bind_iff.mpr ⟨a, between', hfirst', hsecond'⟩, hend, ?_, ?_⟩
  · rw [hmore, hrouted, List.append_assoc]
  · rw [hmore', hrouted', List.append_assoc]

/-- A result may be put into a tree at the end. -/
theorem map {x x' : Walk α} (hx : Mirrors linked x x') (f : α → β) :
    Mirrors linked (x >>= fun a => Pure.pure (f a)) (x' >>= fun a => Pure.pure (f a)) :=
  hx.bind fun a => pure (f a)

theorem given {a : α} {f f' : α → Walk β} (h : Mirrors linked (f a) (f' a)) :
    Mirrors linked (Pure.pure a >>= f) (Pure.pure a >>= f') := h

theorem fails (e : RoutingError) (x' : Walk α) : Mirrors linked (throw e) x' :=
  fun _ _ _ _ hrun _ => (throw_iff.mp hrun).elim

/-- A step that only looks at what both states have in common. -/
theorem still {x : Walk α} (h : ∀ p a q, x p = .ok a q → q = p)
    (hsame : ∀ p p' a, x p = .ok a p → linked p.scope p'.scope → x p' = .ok a p') : Mirrors linked x x := by
  intro p p' a q hrun hlinked
  obtain rfl := h p a q hrun
  exact ⟨p', [], hsame q p' a hrun hlinked, hlinked, (List.append_nil _).symm, (List.append_nil _).symm⟩

end Mirrors

/-! ### Steps that know of no scope -/

theorem tell_mirrors (event : Event) : Mirrors linked (tell event) (tell event) := by
  intro p p' u q hrun hlinked
  obtain rfl := tell_iff.mp hrun
  exact ⟨_, [], rfl, hlinked, (List.append_nil _).symm, (List.append_nil _).symm⟩

theorem addSchema_mirrors (schema : String) : Mirrors linked (addSchema schema) (addSchema schema) := by
  intro p p' u q hrun hlinked
  obtain rfl := modify_iff.mp hrun
  exact ⟨_, [], rfl, hlinked, (List.append_nil _).symm, (List.append_nil _).symm⟩

theorem addRouted_mirrors (routed : RoutedTable) : Mirrors linked (addRouted routed) (addRouted routed) := by
  intro p p' u q hrun hlinked
  obtain rfl := modify_iff.mp hrun
  exact ⟨_, [routed], rfl, hlinked, rfl, rfl⟩

theorem ask_mirrors (schema : Option String) (table : String) (value : Option ShardValue) :
    Mirrors linked (ask setting schema table value) (ask setting schema table value) := by
  refine (tell_mirrors _).bind fun _ => ?_
  cases setting.engine.route setting.context schema table value with
  | ok route => exact .pure route
  | error e => exact .fails _ _

theorem acceptRoute_mirrors (binding : Binding) (route : Destination) (value : ShardValue) :
    Mirrors linked (acceptRoute binding route value) (acceptRoute binding route value) := by
  unfold acceptRoute
  split
  · split
    · exact .pure _
    · exact .fails _ _
  · exact (tell_mirrors _).bind fun _ => (addSchema_mirrors _).map _

theorem routeValue_mirrors (binding : Binding) (value : ShardValue) :
    Mirrors linked (routeValue setting binding value) (routeValue setting binding value) := by
  unfold routeValue
  split
  · exact (tell_mirrors _).map _
  · refine (ask_mirrors _ _ _).bind fun found => ?_
    cases found with
    | some route => exact acceptRoute_mirrors binding route value
    | none => exact .fails _ _

theorem routeValues_mirrors (binding : Binding) (values : List ShardValue) :
    Mirrors linked (routeValues setting binding values) (routeValues setting binding values) := by
  induction values generalizing binding with
  | nil => exact .pure binding
  | cons value values ih => exact (routeValue_mirrors binding value).bind ih

theorem readFor_mirrors (column : ColumnRef) (e : Expr) :
    Mirrors linked (readFor setting column e) (readFor setting column e) := by
  unfold readFor
  split
  · exact .pure _
  · exact .fails _ _

theorem rangeOf_mirrors (limit : Nat) (text : String) (low high : ShardValue) :
    Mirrors linked (rangeOf limit text low high) (rangeOf limit text low high) := by
  refine .still (fun p values q hrun => ?_) fun p p' values hrun _ => ?_
  · obtain ⟨-, -, -, -, -, -, -, rfl⟩ := rangeOf_iff.mp hrun
    rfl
  · obtain ⟨first, last, hfirst, hlast, hle, hspan, hvalues, -⟩ := rangeOf_iff.mp hrun
    exact rangeOf_iff.mpr ⟨first, last, hfirst, hlast, hle, hspan, hvalues, rfl⟩

theorem routeRange_mirrors (text : String) (binding : Binding) (low high : Reading) :
    Mirrors linked (routeRange setting text binding low high) (routeRange setting text binding low high) := by
  unfold routeRange
  split
  · exact (rangeOf_mirrors _ _ _ _).bind fun values => (routeValues_mirrors binding values).map _
  · exact (tell_mirrors _).map _

theorem weigh_mirrors (column : ColumnRef) (binding : Binding) (evidence : Evidence) :
    Mirrors linked (weigh setting column binding evidence) (weigh setting column binding evidence) := by
  cases evidence with
  | item e =>
    refine (readFor_mirrors column e).bind fun reading => ?_
    cases reading with
    | known value source => exact (routeValue_mirrors binding value).map _
    | unbound key => exact (tell_mirrors _).map _
  | range text low high =>
    exact (readFor_mirrors column low).bind fun low => (readFor_mirrors column high).bind fun high =>
      routeRange_mirrors text binding low high

theorem weighAll_mirrors (column : ColumnRef) (binding : Binding) (evidence : List Evidence) :
    Mirrors linked (weighAll setting column binding evidence) (weighAll setting column binding evidence) := by
  induction evidence generalizing binding with
  | nil => exact .pure binding
  | cons first rest ih => exact (weigh_mirrors column binding first).bind ih

theorem fallbackRoute_mirrors (binding : Binding) :
    Mirrors linked (fallbackRoute setting binding) (fallbackRoute setting binding) := by
  refine (ask_mirrors _ _ _).bind fun found => ?_
  cases found with
  | some route => exact (tell_mirrors _).map _
  | none =>
    cases setting.overrides.find? binding.schema binding.table.value with
    | none =>
      simp only
      split <;> exact .fails _ _
    | some override =>
      cases override with
      | route route => exact (tell_mirrors _).map _
      | value value =>
        refine (tell_mirrors _).bind fun _ => (ask_mirrors _ _ _).bind fun found => ?_
        cases found with
        | some route => exact .pure route
        | none => exact .fails _ _

theorem settle_mirrors (binding : Binding) :
    Mirrors linked (settle setting binding) (settle setting binding) := by
  unfold settle
  cases binding.route with
  | some route => exact .pure _
  | none => exact (fallbackRoute_mirrors binding).bind fun route => (addSchema_mirrors route.schema).map _

theorem closeScope_mirrors (aliases : Bool) (bindings : List Binding) :
    Mirrors linked (closeScope setting aliases bindings) (closeScope setting aliases bindings) := by
  induction bindings with
  | nil => exact .pure []
  | cons binding bindings ih =>
    exact (settle_mirrors binding).bind fun routed => (addRouted_mirrors routed).bind fun _ => ih.map _

/-! ### Scopes -/

/-- A scope opens empty, so what is around it links two runs no longer. -/
theorem Mirrors.scope {x x' : Walk Unit} {y y' : Walk α} {g : α × Scope → Walk β} (sites : List Site)
    {depth depth' : Nat} (hx : x = bindSites setting depth sites) (hx' : x' = bindSites setting depth' sites)
    (hy : Mirrors Eq y y') (hg : ∀ r, Mirrors linked (g r) (g r)) :
    Mirrors linked (inScope (x >>= fun _ => y) >>= g) (inScope (x' >>= fun _ => y') >>= g) := by
  refine .bind ?_ hg
  intro p p' r q hrun hlinked
  obtain ⟨inner, hinner, hleft, rfl⟩ := inScope_iff.mp hrun
  obtain ⟨_, entered, hbind, hrest⟩ := bind_iff.mp hinner
  obtain ⟨_, hbound, hscope, hkept⟩ := bindSites_run setting depth sites { p with scope := {} }
  cases (hx ▸ hbind).symm.trans hbound
  obtain ⟨entered', hbound', hscope', hkept'⟩ := bindSites_run setting depth' sites { p' with scope := {} }
  obtain ⟨inner', tables, hrest', hsame, hrouted, hrouted'⟩ :=
    hy entered entered' r.1 inner hrest (hscope.trans hscope'.symm)
  refine ⟨{ inner' with scope := p'.scope }, tables, ?_, hlinked, ?_, ?_⟩
  · exact inScope_iff.mpr ⟨inner', bind_iff.mpr ⟨(), entered', hx' ▸ hbound', hrest'⟩, hleft.trans hsame, rfl⟩
  · exact hrouted.trans (congrArg (· ++ tables) hkept)
  · exact hrouted'.trans (congrArg (· ++ tables) hkept')

/-! ### Links -/

/-- A link between the scopes of two runs that outlasts the predicates in them. -/
structure Link (setting : Setting) where
  linked : Scope → Scope → Prop
  key : ∀ predicate, Mirrors linked (onKey setting predicate) (onKey setting predicate)
  other : ∀ left operator text, Mirrors linked (onOther left operator text) (onOther left operator text)

theorem boundTable_mirrors (column : ColumnRef) : Mirrors Eq (boundTable column) (boundTable column) := by
  refine .still (fun p found q hrun => ?_) fun p p' found hrun hscope => ?_
  · rw [boundTable_eq] at hrun
    split at hrun <;> cases hrun <;> rfl
  · rw [boundTable_eq] at hrun ⊢
    rw [← hscope]
    split at hrun <;> cases hrun <;> rfl

theorem updateTable_mirrors (index : Nat) (binding : Binding) :
    Mirrors Eq (updateTable index binding) (updateTable index binding) := by
  intro p p' u q hrun hscope
  obtain rfl := modify_iff.mp hrun
  exact ⟨_, [], rfl, congrArg (Scope.update · index binding) hscope, (List.append_nil _).symm,
    (List.append_nil _).symm⟩

theorem onOther_run {left : Expr} {operator text : String} {p : Progress}
    (h : ∀ column, ColumnRef.ofExpr? left = some column → p.scope.resolve column.key = .unknown) :
    onOther left operator text p = .ok () p := by
  unfold onOther
  cases hcolumn : ColumnRef.ofExpr? left with
  | none => rfl
  | some column =>
    refine bind_iff.mpr ⟨p, p, rfl, ?_⟩
    rw [h column hcolumn]
    rfl

/-- Two runs in the same scope. -/
def Link.same (setting : Setting) : Link setting where
  linked := Eq
  key predicate := by
    refine (boundTable_mirrors _).bind fun found => ?_
    match found with
    | none => exact .pure ()
    | some (index, binding) =>
      cases predicate.refusal with
      | some refusal => exact .fails _ _
      | none => exact (weighAll_mirrors _ _ _).bind fun after => updateTable_mirrors index after
  other left operator text := by
    refine .still (fun p u q hrun => (onOther_inv hrun).1) fun p p' u hrun hscope => ?_
    exact onOther_run fun column hcolumn => hscope ▸ (onOther_inv hrun).2 column hcolumn

/-- The second run in no scope, where no predicate has anything to say. -/
def Link.alone (setting : Setting) : Link setting where
  linked _ scope := scope = {}
  key predicate := by
    intro p p' u q hrun hempty
    refine ⟨p', [], ?_, hempty, ?_, (List.append_nil _).symm⟩
    · refine bind_iff.mpr ⟨none, p', ?_, rfl⟩
      rw [boundTable_eq, hempty]
      rfl
    · rw [(onKey_keeps hrun).routed, List.append_nil]
  other left operator text := by
    refine .still (fun p u q hrun => (onOther_inv hrun).1) fun p p' u _ hempty => ?_
    refine onOther_run fun column _ => ?_
    rw [hempty]
    rfl

mutual

theorem runStep_mirrors : ∀ (step : Step) (link : Link setting) (depth depth' : Nat),
    Mirrors link.linked (runStep setting depth step) (runStep setting depth' step)
  | .key predicate, link, _, _ => link.key predicate
  | .other left operator text, link, _, _ => link.other left operator text
  | .scope _ sites steps, _, depth, depth' =>
    .scope sites rfl rfl (runSteps_mirrors steps (.same setting) (depth + 1) (depth' + 1))
      fun _ => (closeScope_mirrors _ _).map _

theorem runSteps_mirrors : ∀ (steps : List Step) (link : Link setting) (depth depth' : Nat),
    Mirrors link.linked (runSteps setting depth steps) (runSteps setting depth' steps)
  | [], _, _, _ => .pure ()
  | step :: steps, link, depth, depth' =>
    (runStep_mirrors step link depth depth').bind fun _ => runSteps_mirrors steps link depth depth'

end

theorem Runs.mirrors (link : Link setting) (depth : Nat) {x : Walk Unit} {steps : List Step}
    (h : Runs setting depth x steps) : Mirrors link.linked x x := by
  rw [Runs, effect_unit] at h
  rw [h]
  exact runSteps_mirrors steps link depth depth

theorem onPredicate_mirrors (link : Link setting) (underNot : Bool) (e : Expr) :
    Mirrors link.linked (onPredicate setting underNot e) (onPredicate setting underNot e) :=
  (onPredicate_runs underNot e).mirrors link 0

theorem onRows_mirrors (link : Link setting) (insert : Insert) :
    Mirrors link.linked (onRows setting insert) (onRows setting insert) :=
  (onRows_runs insert).mirrors link 0

/-! ### Trees -/

mutual

theorem walkExpr_mirrors : ∀ (e : Expr) (link : Link setting) (depth depth' : Nat) (underNot : Bool),
    Mirrors link.linked (walkExpr setting depth underNot e) (walkExpr setting depth' underNot e)
  | .ident _, _, _, _, _ => .pure _
  | .column _, _, _, _, _ => .pure _
  | .literal _, _, _, _, _ => .pure _
  | .typed _ _, _, _, _, _ => .pure _
  | .nested operand, link, depth, depth', underNot => (walkExpr_mirrors operand link depth depth' underNot).map _
  | .not operand, link, depth, depth', _ => (walkExpr_mirrors operand link depth depth' true).map _
  | .sign _ operand, link, depth, depth', underNot => (walkExpr_mirrors operand link depth depth' underNot).map _
  | .binary left _ right, link, depth, depth', underNot =>
    (onPredicate_mirrors link underNot _).bind fun _ =>
      (walkExpr_mirrors left link depth depth' underNot).bind fun _ =>
        (walkExpr_mirrors right link depth depth' underNot).map _
  | .inList left _ items, link, depth, depth', underNot =>
    (onPredicate_mirrors link underNot _).bind fun _ =>
      (walkExpr_mirrors left link depth depth' underNot).bind fun _ =>
        (walkExprs_mirrors items link depth depth' underNot).map _
  | .between left _ low high, link, depth, depth', underNot =>
    (onPredicate_mirrors link underNot _).bind fun _ =>
      (walkExpr_mirrors left link depth depth' underNot).bind fun _ =>
        (walkExpr_mirrors low link depth depth' underNot).bind fun _ =>
          (walkExpr_mirrors high link depth depth' underNot).map _
  | .test left _ _ right, link, depth, depth', underNot =>
    (onPredicate_mirrors link underNot _).bind fun _ =>
      (walkExpr_mirrors left link depth depth' underNot).bind fun _ =>
        (walkExpr_mirrors right link depth depth' underNot).map _
  | .isNull operand, link, depth, depth', underNot =>
    (onPredicate_mirrors link underNot _).bind fun _ =>
      (walkExpr_mirrors operand link depth depth' underNot).map _
  | .subquery query, link, depth, depth', _ => (walkQuery_mirrors query link depth depth').map _
  | .trim _ what subject, link, depth, depth', underNot =>
    (walkExpr_mirrors subject link depth depth' underNot).bind fun _ =>
      (walkExpr_mirrors what link depth depth' underNot).map _
  | .call _ pieces, link, depth, depth', underNot => (walkPieces_mirrors pieces link depth depth' underNot).map _
  | .form pieces, link, depth, depth', underNot => (walkPieces_mirrors pieces link depth depth' underNot).map _

theorem walkExprs_mirrors : ∀ (es : List Expr) (link : Link setting) (depth depth' : Nat) (underNot : Bool),
    Mirrors link.linked (walkExprs setting depth underNot es) (walkExprs setting depth' underNot es)
  | [], _, _, _, _ => .pure _
  | e :: es, link, depth, depth', underNot => (walkExpr_mirrors e link depth depth' underNot).bind fun _ =>
    (walkExprs_mirrors es link depth depth' underNot).map _

theorem walkOptional_mirrors : ∀ (e : Option Expr) (link : Link setting) (depth depth' : Nat) (underNot : Bool),
    Mirrors link.linked (walkOptional setting depth underNot e) (walkOptional setting depth' underNot e)
  | none, _, _, _, _ => .pure _
  | some e, link, depth, depth', underNot => (walkExpr_mirrors e link depth depth' underNot).map _

theorem walkRows_mirrors : ∀ (rows : List (List Expr)) (link : Link setting) (depth depth' : Nat),
    Mirrors link.linked (walkRows setting depth rows) (walkRows setting depth' rows)
  | [], _, _, _ => .pure _
  | row :: rows, link, depth, depth' => (walkExprs_mirrors row link depth depth' false).bind fun _ =>
    (walkRows_mirrors rows link depth depth').map _

theorem walkPieces_mirrors : ∀ (pieces : List Piece) (link : Link setting) (depth depth' : Nat) (underNot : Bool),
    Mirrors link.linked (walkPieces setting depth underNot pieces) (walkPieces setting depth' underNot pieces)
  | [], _, _, _, _ => .pure _
  | piece :: pieces, link, depth, depth', underNot => (walkPiece_mirrors piece link depth depth' underNot).bind
    fun _ => (walkPieces_mirrors pieces link depth depth' underNot).map _

theorem walkPiece_mirrors : ∀ (piece : Piece) (link : Link setting) (depth depth' : Nat) (underNot : Bool),
    Mirrors link.linked (walkPiece setting depth underNot piece) (walkPiece setting depth' underNot piece)
  | .words _, _, _, _, _ => .pure _
  | .part operand, link, depth, depth', underNot => (walkExpr_mirrors operand link depth depth' underNot).map _
  | .aside _, _, _, _, _ => .pure _

theorem walkQuery_mirrors : ∀ (query : Query) (link : Link setting) (depth depth' : Nat),
    Mirrors link.linked (walkQuery setting depth query) (walkQuery setting depth' query)
  | { recursive := _, ctes, body, orderBy, limit, offset, limitBy, settings := _, fetch, ending := _ }, link,
      depth, depth' =>
    (walkCtes_mirrors ctes link depth depth').bind fun _ =>
      (walkBody_mirrors body link depth depth' _ _ fun link depth depth' =>
        (walkExprs_mirrors orderBy link depth depth' false).bind fun _ =>
        (walkOptional_mirrors limit link depth depth' false).bind fun _ =>
        (walkExprs_mirrors limitBy link depth depth' false).bind fun _ =>
        (walkOptional_mirrors offset link depth depth' false).bind fun _ =>
        (walkOptional_mirrors fetch link depth depth' false).map _).map _

theorem walkCte_mirrors : ∀ (cte : Cte) (link : Link setting) (depth depth' : Nat),
    Mirrors link.linked (walkCte setting depth cte) (walkCte setting depth' cte)
  | { alias_ := _, keyword := _, query, source := _ }, link, depth, depth' =>
    (walkQuery_mirrors query link depth depth').map _

theorem walkCtes_mirrors : ∀ (ctes : List Cte) (link : Link setting) (depth depth' : Nat),
    Mirrors link.linked (walkCtes setting depth ctes) (walkCtes setting depth' ctes)
  | [], _, _, _ => .pure _
  | cte :: ctes, link, depth, depth' => (walkCte_mirrors cte link depth depth').bind fun _ =>
    (walkCtes_mirrors ctes link depth depth').map _

theorem walkBody_mirrors : ∀ (body : Body) (link : Link setting) (depth depth' : Nat)
    (walkTail walkTail' : Nat → Walk Tail),
    (∀ (link : Link setting) depth depth', Mirrors link.linked (walkTail depth) (walkTail' depth')) →
      Mirrors link.linked (walkBody setting depth walkTail body) (walkBody setting depth' walkTail' body)
  | .select select, link, depth, depth', walkTail, walkTail', htail =>
    (walkSelect_mirrors select link depth depth' walkTail walkTail' htail).map _
  | .query query, link, depth, depth', _, _, htail => (walkQuery_mirrors query link depth depth').bind fun _ =>
    (htail link depth depth').map _
  | .setOperation left _ right, link, depth, depth', _, _, htail =>
    (walkBody_mirrors left link depth depth' _ _ fun _ _ _ => .pure _).bind fun _ =>
      (walkBody_mirrors right link depth depth' _ _ fun _ _ _ => .pure _).bind fun _ =>
        (htail link depth depth').map _
  | .values _ rows, link, depth, depth', _, _, htail => (walkRows_mirrors rows link depth depth').bind fun _ =>
    (htail link depth depth').map _
  | .table _ _, link, depth, depth', _, _, htail => (htail link depth depth').map _
  | .statement statement, link, depth, depth', _, _, htail =>
    (walkStatement_mirrors statement link depth depth').bind fun _ => (htail link depth depth').map _

theorem walkSelect_mirrors : ∀ (select : Select) (link : Link setting) (depth depth' : Nat)
    (walkTail walkTail' : Nat → Walk Tail),
    (∀ (link : Link setting) depth depth', Mirrors link.linked (walkTail depth) (walkTail' depth')) →
      Mirrors link.linked (walkSelect setting depth walkTail select) (walkSelect setting depth' walkTail' select)
  | { head := _, projection, into := _, from_, views := _, prewhere, selection, groupBy, groupTail := _,
      clusterBy, distributeBy, sortBy, having, windowsBefore := _, qualify, windowsAfter := _,
      connectBy := _ }, _, depth, depth', _, _, htail =>
    .scope (Factor.sites 0 (factors from_)) (bindFactors_eq setting (depth + 1) (factors from_) 0)
      (bindFactors_eq setting (depth' + 1) (factors from_) 0)
      ((walkTables_mirrors from_ (.same setting) (depth + 1) (depth' + 1)).bind fun _ =>
        (walkExprs_mirrors projection (.same setting) (depth + 1) (depth' + 1) false).bind fun _ =>
        (walkOptional_mirrors prewhere (.same setting) (depth + 1) (depth' + 1) false).bind fun _ =>
        (walkOptional_mirrors selection (.same setting) (depth + 1) (depth' + 1) false).bind fun _ =>
        (walkExprs_mirrors groupBy (.same setting) (depth + 1) (depth' + 1) false).bind fun _ =>
        (walkOptional_mirrors having (.same setting) (depth + 1) (depth' + 1) false).bind fun _ =>
        (walkOptional_mirrors qualify (.same setting) (depth + 1) (depth' + 1) false).bind fun _ =>
        (walkExprs_mirrors clusterBy (.same setting) (depth + 1) (depth' + 1) false).bind fun _ =>
        (walkExprs_mirrors distributeBy (.same setting) (depth + 1) (depth' + 1) false).bind fun _ =>
        (walkExprs_mirrors sortBy (.same setting) (depth + 1) (depth' + 1) false).bind fun _ =>
        (htail (.same setting) (depth + 1) (depth' + 1)).map _)
      fun _ => (closeScope_mirrors _ _).map _

theorem walkTable_mirrors : ∀ (table : TableRef) (link : Link setting) (depth depth' : Nat),
    Mirrors link.linked (walkTable setting depth table) (walkTable setting depth' table)
  | .table .., _, _, _ => .pure _
  | .derived _ query _, link, depth, depth' => (walkQuery_mirrors query link depth depth').map _
  | .nested inner _, link, depth, depth' => (walkTable_mirrors inner link depth depth').map _
  | .join left _ right matching on _, link, depth, depth' =>
    (walkTable_mirrors left link depth depth').bind fun _ =>
      (walkTable_mirrors right link depth depth').bind fun _ =>
        (walkOptional_mirrors matching link depth depth' false).bind fun _ =>
          (walkOptional_mirrors on link depth depth' false).map _
  | .turned .., _, _, _ => .pure _
  | .other .., _, _, _ => .pure _

theorem walkTables_mirrors : ∀ (tables : List TableRef) (link : Link setting) (depth depth' : Nat),
    Mirrors link.linked (walkTables setting depth tables) (walkTables setting depth' tables)
  | [], _, _, _ => .pure _
  | table :: tables, link, depth, depth' => (walkTable_mirrors table link depth depth').bind fun _ =>
    (walkTables_mirrors tables link depth depth').map _

/-- An insertion has its own scope, so any states may be linked around it. -/
theorem walkInsert_mirrors : ∀ (insert : Insert) (linked : Scope → Scope → Prop) (depth depth' : Nat),
    Mirrors linked (walkInsert setting depth insert) (walkInsert setting depth' insert)
  | { head := _, target, alias_ := _, columns := _, middle := _, source := some query, trailer := _ }, _, depth,
      depth' =>
    .scope [⟨.target, target, none⟩] (bind_pure _).symm (bind_pure _).symm
      ((onRows_mirrors (.same setting) _).bind fun _ =>
        (walkQuery_mirrors query (.same setting) (depth + 1) (depth' + 1)).map _)
      fun _ => (closeScope_mirrors _ _).map _
  | { head := _, target, alias_ := _, columns := _, middle := _, source := none, trailer := _ }, _, _, _ =>
    .scope [⟨.target, target, none⟩] (bind_pure _).symm (bind_pure _).symm
      ((onRows_mirrors (.same setting) _).map _) fun _ => (closeScope_mirrors _ _).map _

theorem walkUpdate_mirrors : ∀ (update : Update) (link : Link setting) (depth depth' : Nat),
    Mirrors link.linked (walkUpdate setting depth update) (walkUpdate setting depth' update)
  | { conflict := _, table, fromBefore := _, assignments, fromAfter := _, selection, returning := _ }, _, depth,
      depth' =>
    .scope (Factor.sites 0 (tableFactors table)) (bindFactors_eq setting (depth + 1) (tableFactors table) 0)
      (bindFactors_eq setting (depth' + 1) (tableFactors table) 0)
      ((walkTable_mirrors table (.same setting) (depth + 1) (depth' + 1)).bind fun _ =>
        (walkExprs_mirrors assignments (.same setting) (depth + 1) (depth' + 1) false).bind fun _ =>
        (walkOptional_mirrors selection (.same setting) (depth + 1) (depth' + 1) false).map _)
      fun _ => (closeScope_mirrors _ _).map _

theorem walkDelete_mirrors : ∀ (delete : Delete) (link : Link setting) (depth depth' : Nat),
    Mirrors link.linked (walkDelete setting depth delete) (walkDelete setting depth' delete)
  | { targets := _, fromKeyword := _, from_, using_ := some tables, selection, returning := _, orderBy, limit }, _,
      depth, depth' =>
    .scope (Factor.sites 0 (factors from_ ++ factors tables)) (bindFactors_eq setting (depth + 1) _ 0)
      (bindFactors_eq setting (depth' + 1) _ 0)
      ((walkTables_mirrors from_ (.same setting) (depth + 1) (depth' + 1)).bind fun _ =>
        (walkTables_mirrors tables (.same setting) (depth + 1) (depth' + 1)).bind fun _ => .given <|
        (walkOptional_mirrors selection (.same setting) (depth + 1) (depth' + 1) false).bind fun _ =>
        (walkExprs_mirrors orderBy (.same setting) (depth + 1) (depth' + 1) false).bind fun _ =>
        (walkOptional_mirrors limit (.same setting) (depth + 1) (depth' + 1) false).map _)
      fun _ => (closeScope_mirrors _ _).map _
  | { targets := _, fromKeyword := _, from_, using_ := none, selection, returning := _, orderBy, limit }, _, depth,
      depth' =>
    .scope (Factor.sites 0 (factors from_ ++ [])) (bindFactors_eq setting (depth + 1) _ 0)
      (bindFactors_eq setting (depth' + 1) _ 0)
      ((walkTables_mirrors from_ (.same setting) (depth + 1) (depth' + 1)).bind fun _ => .given <|
        (walkOptional_mirrors selection (.same setting) (depth + 1) (depth' + 1) false).bind fun _ =>
        (walkExprs_mirrors orderBy (.same setting) (depth + 1) (depth' + 1) false).bind fun _ =>
        (walkOptional_mirrors limit (.same setting) (depth + 1) (depth' + 1) false).map _)
      fun _ => (closeScope_mirrors _ _).map _

theorem walkStatement_mirrors : ∀ (statement : Statement) (link : Link setting) (depth depth' : Nat),
    Mirrors link.linked (walkStatement setting depth statement) (walkStatement setting depth' statement)
  | .query query, link, depth, depth' => (walkQuery_mirrors query link depth depth').map _
  | .insert insert, link, depth, depth' => (walkInsert_mirrors insert link.linked depth depth').map _
  | .update update, link, depth, depth' => (walkUpdate_mirrors update link depth depth').map _
  | .delete delete, link, depth, depth' => (walkDelete_mirrors delete link depth depth').map _
  | .other, _, _, _ => .pure _

end

/-- A query that goes through anywhere in a statement goes through alone, with the same result, and settles the
    same tables. -/
theorem walkQuery_alone {query rewritten : Query} {depth : Nat} {p q : Progress}
    (h : walkQuery setting depth query p = .ok rewritten q) :
    ∃ alone, walkQuery setting 0 query {} = .ok rewritten alone ∧ q.routed = p.routed ++ alone.routed := by
  obtain ⟨alone, tables, hrun, -, hrouted, hrouted'⟩ :=
    walkQuery_mirrors query (.alone setting) depth 0 p {} rewritten q h rfl
  exact ⟨alone, hrun, hrouted'.symm ▸ hrouted⟩

end Walk
end ShardRouting
