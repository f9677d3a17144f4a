import ShardRouting.Proofs.Relocating

/-! What a walk covers. Along the references of a tree a walk lists and renames those that are bound and
    leaves all others alone, so the routed tables of a statement are the bound references, one by one. -/

namespace ShardRouting
open Sql
namespace Walk

variable {α β : Type} {setting : Setting} {depth : Nat} {common : List Ident} {p q : Progress}

/-! ### Predicates bind and settle nothing -/

/-- Two states with the same bindings, whatever is known of them, and the same settled tables. -/
structure Keeps (p q : Progress) : Prop where
  bindings : q.scope.bindings.map Binding.identity = p.scope.bindings.map Binding.identity
  routed : q.routed = p.routed

theorem Keeps.refl (p : Progress) : Keeps p p := ⟨rfl, rfl⟩

theorem Keeps.trans {r : Progress} (h : Keeps p q) (h' : Keeps q r) : Keeps p r :=
  ⟨h'.bindings.trans h.bindings, h'.routed.trans h.routed⟩

theorem onKey_keeps {predicate : KeyPredicate} {u : Unit} (h : onKey setting predicate p = .ok u q) :
    Keeps p q := by
  rcases onKey_inv h with ⟨-, rfl⟩ | ⟨index, binding, after, p', hbound, -, hweigh, rfl⟩
  · exact .refl _
  · obtain ⟨hquiet, hbare⟩ := weighAll_frame hweigh
    obtain ⟨hindex, hbinding⟩ := List.getElem?_eq_some_iff.mp (resolve_bound hbound)
    refine ⟨?_, hquiet.routed⟩
    have hidentity : after.identity = binding.identity :=
      (congrArg Binding.identity hbare : after.bare.identity = (binding.see predicate.column.display).bare.identity)
    rw [hquiet.scope, Scope.update, List.map_set, hidentity, ← hbinding, ← List.map_set, List.set_getElem_self]

/-- A predicate as a step of a script. -/
def Flat : Step → Prop
  | .key _ => True
  | .other .. => True
  | .scope .. => False

theorem runSteps_keeps {steps : List Step} (hflat : ∀ step ∈ steps, Flat step) {u : Unit}
    (h : runSteps setting depth steps p = .ok u q) : Keeps p q := by
  induction steps generalizing p with
  | nil =>
    rw [← (pure_iff.mp h).2]
    exact .refl p
  | cons step steps ih =>
    obtain ⟨hfirst, hrest⟩ := List.forall_mem_cons.mp hflat
    obtain ⟨_, p', hstep, hsteps⟩ := bind_iff.mp h
    refine .trans ?_ (ih hrest hsteps)
    cases step with
    | key predicate => exact onKey_keeps hstep
    | other left operator text =>
      rw [(onOther_inv hstep).1]
      exact .refl p
    | scope aliases sites steps => exact hfirst.elim

theorem ownSteps_flat (underNot : Bool) (e : Expr) : ∀ step ∈ e.ownSteps underNot, Flat step := by
  cases e with
  | binary left op right =>
    cases op with
    | eq =>
      simp only [Expr.ownSteps]
      cases ColumnRef.ofExpr? left <;> simp [Flat]
    | notEq | less | lessEq | greater | greaterEq => simp [Expr.ownSteps, Flat]
    | and | or | other => simp [Expr.ownSteps]
  | inList left negated items =>
    simp only [Expr.ownSteps]
    cases ColumnRef.ofExpr? left <;> simp [Flat]
  | between left negated low high =>
    simp only [Expr.ownSteps]
    cases ColumnRef.ofExpr? left <;> simp [Flat]
  | test left negated kind right => cases kind <;> simp [Expr.ownSteps, Flat]
  | isNull operand => simp [Expr.ownSteps, Flat]
  | _ => simp [Expr.ownSteps]

theorem insert_ownSteps_flat (insert : Insert) : ∀ step ∈ insert.ownSteps, Flat step := by
  unfold Insert.ownSteps
  split
  · intro step hstep
    obtain ⟨row, -, hcell⟩ := List.mem_flatMap.mp hstep
    obtain ⟨cell, -, rfl⟩ := List.mem_map.mp hcell
    trivial
  · simp

theorem Runs.keeps {x : Walk Unit} {steps : List Step} (h : Runs setting depth x steps)
    (hflat : ∀ step ∈ steps, Flat step) {u : Unit} (hrun : x p = .ok u q) : Keeps p q := by
  rw [Runs, effect_unit] at h
  exact runSteps_keeps hflat (h ▸ hrun)

/-! ### Moving along references -/

/-- Along `before` a step lists and renames what is bound. Its result holds the names `done` of earlier
    references and then those that have come of `before`. -/
def Moves (setting : Setting) (done : List ObjectName) (x : Walk α) (before : List Reference)
    (after : α → List ObjectName) : Prop :=
  ∀ p a q, x p = .ok a q →
    q.scope.bindings.map Binding.identity = p.scope.bindings.map Binding.identity ∧
      ∃ names tables, after a = done ++ names ∧ q.routed = p.routed ++ tables ∧
        Landed setting (Reference.bound setting) before names tables

/-- What a result is sure to be. -/
def Ensures (x : Walk α) (post : α → Prop) : Prop := ∀ p a q, x p = .ok a q → post a

namespace Ensures

variable {inner : α → Prop} {post : β → Prop}

theorem pure {b : β} (h : post b) : Ensures (Pure.pure b) post := by
  intro p a q hrun
  rwa [← (pure_iff.mp hrun).1]

theorem bind {x : Walk α} {f : α → Walk β} (hx : Ensures x inner) (hf : ∀ a, inner a → Ensures (f a) post) :
    Ensures (x >>= f) post := by
  intro p b q hrun
  obtain ⟨a, p', hfirst, hsecond⟩ := bind_iff.mp hrun
  exact hf a (hx p a p' hfirst) p' b q hsecond

theorem given {a : α} {f : α → Walk β} (h : Ensures (f a) post) : Ensures (Pure.pure a >>= f) post := h

theorem always (x : Walk α) : Ensures x fun _ => True := fun _ _ _ _ => trivial

theorem behind {x : Walk α} {f : α → Walk β} (hf : ∀ a, Ensures (f a) post) : Ensures (x >>= f) post :=
  (always x).bind fun a _ => hf a

end Ensures

namespace Moves

variable {done : List ObjectName} {before rest : List Reference} {inside : α → List ObjectName}
  {after : β → List ObjectName}

theorem pure {b : β} (h : after b = done) : Moves setting done (Pure.pure b) [] after := by
  intro p a q hrun
  obtain ⟨rfl, rfl⟩ := pure_iff.mp hrun
  exact ⟨rfl, [], [], by rw [h, List.append_nil], (List.append_nil _).symm, .nil⟩

theorem bindWith {x : Walk α} {f : α → Walk β} {post : α → Prop} (hpost : Ensures x post)
    (hx : Moves setting [] x before inside)
    (hf : ∀ a, post a → Moves setting (done ++ inside a) (f a) rest after) :
    Moves setting done (x >>= f) (before ++ rest) after := by
  intro p b q hrun
  obtain ⟨a, p', hfirst, hsecond⟩ := bind_iff.mp hrun
  obtain ⟨hbindings, names, tables, hnames, hrouted, hlanded⟩ := hx p a p' hfirst
  obtain ⟨hbindings', names', tables', hnames', hrouted', hlanded'⟩ :=
    hf a (hpost p a p' hfirst) p' b q hsecond
  refine ⟨hbindings'.trans hbindings, names ++ names', tables ++ tables', ?_, ?_, hlanded.append hlanded'⟩
  · rw [hnames', hnames, List.nil_append, List.append_assoc]
  · rw [hrouted', hrouted, List.append_assoc]

theorem bind {x : Walk α} {f : α → Walk β} (hx : Moves setting [] x before inside)
    (hf : ∀ a, Moves setting (done ++ inside a) (f a) rest after) :
    Moves setting done (x >>= f) (before ++ rest) after :=
  bindWith (.always x) hx fun a _ => hf a

/-- A result may be put into a tree at the end. -/
theorem map {x : Walk α} {f : α → β} (hx : Moves setting [] x before inside)
    (h : ∀ a, after (f a) = done ++ inside a) :
    Moves setting done (x >>= fun a => Pure.pure (f a)) before after := by
  have hbind := hx.bind (f := fun a => Pure.pure (f a)) fun a => pure (h a)
  rwa [List.append_nil] at hbind

/-- References that the walk passes over stay as they are. -/
theorem skip {x : Walk β} {passed : List Reference}
    (h : Moves setting (done ++ (aside passed).map Reference.name) x before after) :
    Moves setting done x (aside passed ++ before) after := by
  intro p a q hrun
  obtain ⟨hbindings, names, tables, hnames, hrouted, hlanded⟩ := h p a q hrun
  have hstill : Landed setting (Reference.bound setting) (aside passed) ((aside passed).map Reference.name) [] := by
    refine .still fun reference hreference => ?_
    obtain ⟨_, -, rfl⟩ := List.mem_map.mp hreference
    rfl
  exact ⟨hbindings, _, tables, hnames.trans (List.append_assoc ..), hrouted, hstill.append hlanded⟩

/-- A tree that is only printed. -/
theorem printed {passed : List Reference} {b : β} (h : after b = (aside passed).map Reference.name) :
    Moves setting [] (Pure.pure b) (aside passed) after := by
  have hpure : Moves setting ([] ++ (aside passed).map Reference.name) (Pure.pure b) [] after := pure h
  have hskip := skip hpure
  rwa [List.append_nil] at hskip

/-- A predicate is no reference. -/
theorem first (depth : Nat) {x : Walk Unit} {f : Unit → Walk β} {steps : List Step}
    (hx : Runs setting depth x steps) (hflat : ∀ step ∈ steps, Flat step)
    (hf : ∀ u, Moves setting done (f u) before after) : Moves setting done (x >>= f) before after := by
  intro p b q hrun
  obtain ⟨u, p', hfirst, hsecond⟩ := bind_iff.mp hrun
  obtain ⟨hbindings, hrouted⟩ := hx.keeps hflat hfirst
  obtain ⟨hbindings', names, tables, hnames, hrouted', hlanded⟩ := hf u p' b q hsecond
  exact ⟨hbindings'.trans hbindings, names, tables, hnames, hrouted ▸ hrouted', hlanded⟩

/-- When a scope closes, its own tables land behind all that is inside it. -/
theorem scope {x : Walk Unit} {y : Walk α} {g : α × Scope → Walk β} {f : α → List Relocation → β}
    {aliases : Bool} (sites : List Site) (inside : α → List ObjectName) (post : α → Prop)
    (reference : Site → Reference)
    (hname : ∀ site, (reference site).name = site.name) (hwalked : ∀ site, (reference site).walked = true)
    (hslots : (sites.map Site.slot).Nodup) (hx : x = bindSites setting depth sites)
    (hy : Moves setting [] y before inside) (hpost : Ensures y post)
    (hg : ∀ a scope, g (a, scope) = closeScope setting aliases scope.bindings >>= fun relocations =>
      Pure.pure (f a relocations))
    (hafter : ∀ a relocations, post a → after (f a relocations) =
      done ++ (inside a ++ sites.map (Site.relocated setting.options.defaultSchema relocations))) :
    Moves setting done (inScope (x >>= fun _ => y) >>= g) (before ++ sites.map reference) after := by
  intro p b q hrun
  obtain ⟨⟨a, scope⟩, _, hscope, hclose⟩ := bind_iff.mp hrun
  obtain ⟨p', hinner, hleft, rfl⟩ := inScope_iff.mp hscope
  obtain rfl : scope = p'.scope := hleft
  obtain ⟨_, p₀, hbind, hrest⟩ := bind_iff.mp hinner
  obtain ⟨_, hbind', hentered, hkept⟩ := bindSites_run setting depth sites { p with scope := {} }
  cases (hx ▸ hbind).symm.trans hbind'
  obtain ⟨hbindings, names, tables, hnames, hrouted, hlanded⟩ := hy p₀ a p' hrest
  rw [hentered, Scope.enter_bindings] at hbindings
  rw [hg] at hclose
  obtain ⟨relocations, hclosed, rfl⟩ := map_iff.mp hclose
  obtain ⟨closed, hout, hrouted', hsettles, rfl⟩ := closeScope_inv hclosed
  have hnames' : inside a = names := hnames
  have hsites := landed_sites aliases reference hname hwalked hslots hbindings hsettles
  refine ⟨by rw [hout], _, tables ++ closed, hafter a _ (hpost p₀ a p' hrest), ?_, ?_⟩
  · rw [hrouted', hrouted, hkept, List.append_assoc]
  · rw [hnames']
    exact hlanded.append hsites

/-- The own tables of a scope with many of them. -/
theorem tables {y : Walk α} {g : α × Scope → Walk β} {f : α → List Relocation → β} {aliases : Bool}
    (fs : List Factor) (inside : α → List ObjectName) (post : α → Prop) (hy : Moves setting [] y before inside)
    (hpost : Ensures y post)
    (hg : ∀ a scope, g (a, scope) = closeScope setting aliases scope.bindings >>= fun relocations =>
      Pure.pure (f a relocations))
    (hafter : ∀ a relocations, post a → after (f a relocations) =
      done ++ (inside a ++ (Factor.sites 0 fs).map (Site.relocated setting.options.defaultSchema relocations))) :
    Moves setting done (inScope (bindFactors setting depth 0 fs >>= fun _ => y) >>= g)
      (before ++ fs.map (Factor.reference common)) after := by
  rw [← Factor.references_sites common 0]
  exact scope (Factor.sites 0 fs) inside post (fun site => Reference.ofName common site.name) (fun _ => rfl)
    (fun _ => rfl) (Factor.slots_nodup 0 fs) (bindFactors_eq setting depth fs 0) hy hpost hg hafter

end Moves

/-! ### What walks keep -/

theorem walkTable_factors (depth : Nat) : ∀ table : TableRef,
    Ensures (walkTable setting depth table) fun walked => tableFactors walked = tableFactors table
  | .table .. => .pure rfl
  | .turned .. => .pure rfl
  | .other .. => .pure rfl
  | .derived .. => .behind fun _ => .pure rfl
  | .nested inner _ => (walkTable_factors depth inner).bind fun _ h => .pure h
  | .join left _ right _ _ _ =>
    (walkTable_factors depth left).bind fun _ hleft => (walkTable_factors depth right).bind fun _ hright =>
      .behind fun _ => .behind fun _ => .pure (congrArg₂ (· ++ ·) hleft hright)

theorem walkTables_factors (depth : Nat) (tables : List TableRef) :
    Ensures (walkTables setting depth tables) fun walked => factors walked = factors tables := by
  induction tables with
  | nil => exact .pure rfl
  | cons table tables ih =>
    refine (walkTable_factors depth table).bind fun walked hfirst => ih.bind fun rest hrest => .pure ?_
    simp only [factors] at hrest
    simp only [factors, List.flatMap_cons, hfirst, hrest]

theorem walkCte_alias (cte : Cte) (depth : Nat) :
    Ensures (walkCte setting depth cte) fun walked => walked.alias_ = cte.alias_ := by
  obtain ⟨alias_, keyword, query, source⟩ := cte
  exact .behind fun _ => .pure rfl

theorem walkCtes_names (ctes : List Cte) (depth : Nat) :
    Ensures (walkCtes setting depth ctes) fun walked => Cte.names walked = Cte.names ctes := by
  induction ctes with
  | nil => exact .pure rfl
  | cons cte ctes ih =>
    refine (walkCte_alias cte depth).bind fun walked hfirst => ih.bind fun rest hrest => .pure ?_
    simp only [Cte.names] at hrest
    simp only [Cte.names, List.map_cons, hfirst, hrest]

/-! ### Trees -/

/-- The references in the clauses behind a body. -/
def Tail.references (common : List Ident) (tail : Tail) : List Reference :=
  Expr.allReferences common tail.orderBy ++ (Expr.optionalReferences common tail.limit ++
    (Expr.allReferences common tail.limitBy ++ (Expr.optionalReferences common tail.offset ++
      Expr.optionalReferences common tail.fetch)))

mutual

theorem walkExpr_moves : ∀ (e : Expr) (common : List Ident) (depth : Nat) (underNot : Bool),
    Moves setting [] (walkExpr setting depth underNot e) (e.references common) fun e => namesOf (e.references common)
  | .ident _, _, _, _ => .pure rfl
  | .column _, _, _, _ => .pure rfl
  | .literal _, _, _, _ => .pure rfl
  | .typed _ _, _, _, _ => .pure rfl
  | .nested operand, common, depth, underNot => (walkExpr_moves operand common depth underNot).map fun _ => rfl
  | .not operand, common, depth, _ => (walkExpr_moves operand common depth true).map fun _ => rfl
  | .sign _ operand, common, depth, underNot => (walkExpr_moves operand common depth underNot).map fun _ => rfl
  | .binary left _ right, common, depth, underNot =>
    Moves.first depth (onPredicate_runs underNot _) (ownSteps_flat underNot _) fun _ =>
      (walkExpr_moves left common depth underNot).bind fun _ =>
        (walkExpr_moves right common depth underNot).map fun _ => List.map_append
  | .inList left _ items, common, depth, underNot =>
    Moves.first depth (onPredicate_runs underNot _) (ownSteps_flat underNot _) fun _ =>
      (walkExpr_moves left common depth underNot).bind fun _ =>
        (walkExprs_moves items common depth underNot).map fun _ => List.map_append
  | .between left _ low high, common, depth, underNot =>
    Moves.first depth (onPredicate_runs underNot _) (ownSteps_flat underNot _) fun _ =>
      (walkExpr_moves left common depth underNot).bind fun _ =>
        (walkExpr_moves low common depth underNot).bind fun _ =>
          (walkExpr_moves high common depth underNot).map fun _ => by simp [Expr.references, namesOf]
  | .test left _ _ right, common, depth, underNot =>
    Moves.first depth (onPredicate_runs underNot _) (ownSteps_flat underNot _) fun _ =>
      (walkExpr_moves left common depth underNot).bind fun _ =>
        (walkExpr_moves right common depth underNot).map fun _ => List.map_append
  | .isNull operand, common, depth, underNot =>
    Moves.first depth (onPredicate_runs underNot _) (ownSteps_flat underNot _) fun _ =>
      (walkExpr_moves operand common depth underNot).map fun _ => rfl
  | .subquery query, common, depth, _ => (walkQuery_moves query common depth).map fun _ => rfl
  | .trim _ what subject, common, depth, underNot =>
    (walkExpr_moves subject common depth underNot).bind fun _ =>
      (walkExpr_moves what common depth underNot).map fun _ => List.map_append
  | .call _ pieces, common, depth, underNot => (walkPieces_moves pieces common depth underNot).map fun _ => rfl
  | .form pieces, common, depth, underNot => (walkPieces_moves pieces common depth underNot).map fun _ => rfl

theorem walkExprs_moves : ∀ (es : List Expr) (common : List Ident) (depth : Nat) (underNot : Bool),
    Moves setting [] (walkExprs setting depth underNot es) (Expr.allReferences common es) fun es =>
      namesOf (Expr.allReferences common es)
  | [], _, _, _ => .pure rfl
  | e :: es, common, depth, underNot => (walkExpr_moves e common depth underNot).bind fun _ =>
    (walkExprs_moves es common depth underNot).map fun _ => List.map_append

theorem walkOptional_moves : ∀ (e : Option Expr) (common : List Ident) (depth : Nat) (underNot : Bool),
    Moves setting [] (walkOptional setting depth underNot e) (Expr.optionalReferences common e) fun e =>
      namesOf (Expr.optionalReferences common e)
  | none, _, _, _ => .pure rfl
  | some e, common, depth, underNot => (walkExpr_moves e common depth underNot).map fun _ => rfl

theorem walkRows_moves : ∀ (rows : List (List Expr)) (common : List Ident) (depth : Nat),
    Moves setting [] (walkRows setting depth rows) (Expr.rowReferences common rows) fun rows =>
      namesOf (Expr.rowReferences common rows)
  | [], _, _ => .pure rfl
  | row :: rows, common, depth => (walkExprs_moves row common depth false).bind fun _ =>
    (walkRows_moves rows common depth).map fun _ => List.map_append

theorem walkPieces_moves : ∀ (pieces : List Piece) (common : List Ident) (depth : Nat) (underNot : Bool),
    Moves setting [] (walkPieces setting depth underNot pieces) (Piece.allReferences common pieces) fun pieces =>
      namesOf (Piece.allReferences common pieces)
  | [], _, _, _ => .pure rfl
  | piece :: pieces, common, depth, underNot => (walkPiece_moves piece common depth underNot).bind fun _ =>
    (walkPieces_moves pieces common depth underNot).map fun _ => List.map_append

theorem walkPiece_moves : ∀ (piece : Piece) (common : List Ident) (depth : Nat) (underNot : Bool),
    Moves setting [] (walkPiece setting depth underNot piece) (piece.references common) fun piece =>
      namesOf (piece.references common)
  | .words _, _, _, _ => .pure rfl
  | .part operand, common, depth, underNot => (walkExpr_moves operand common depth underNot).map fun _ => rfl
  | .aside _, _, _, _ => .printed rfl

theorem walkQuery_moves : ∀ (query : Query) (common : List Ident) (depth : Nat),
    Moves setting [] (walkQuery setting depth query) (query.references common) fun query =>
      namesOf (query.references common)
  | { recursive, ctes, body, orderBy, limit, offset, limitBy, settings, fetch, ending }, common, depth => by
    refine .skip (.bindWith (walkCtes_names ctes depth) (walkCtes_moves ctes _ depth) fun walked hnames =>
      (walkBody_moves body _ depth _ _ (Tail.references (Cte.names ctes ++ common)) fun depth =>
        (walkExprs_moves orderBy _ depth false).bind fun _ => (walkOptional_moves limit _ depth false).bind fun _ =>
          (walkExprs_moves limitBy _ depth false).bind fun _ => (walkOptional_moves offset _ depth false).bind fun _ =>
            (walkOptional_moves fetch _ depth false).map fun _ => ?_).map fun _ => ?_)
    · simp [Tail.references, namesOf]
    · simp [Query.references, Tail.references, namesOf, hnames]

theorem walkCte_moves : ∀ (cte : Cte) (common : List Ident) (depth : Nat),
    Moves setting [] (walkCte setting depth cte) (cte.references common) fun cte => namesOf (cte.references common)
  | { alias_ := _, keyword := _, query, source := _ }, common, depth =>
    (walkQuery_moves query common depth).map fun _ => rfl

theorem walkCtes_moves : ∀ (ctes : List Cte) (common : List Ident) (depth : Nat),
    Moves setting [] (walkCtes setting depth ctes) (Cte.allReferences common ctes) fun ctes =>
      namesOf (Cte.allReferences common ctes)
  | [], _, _ => .pure rfl
  | cte :: ctes, common, depth => .bindWith (walkCte_alias cte depth) (walkCte_moves cte common depth) fun _ halias =>
    (walkCtes_moves ctes (cte.alias_.name :: common) depth).map fun _ => by
      simp [Cte.allReferences, namesOf, halias]

theorem walkBody_moves : ∀ (body : Body) (common : List Ident) (depth : Nat) (walkTail : Nat → Walk Tail)
    (tail : List Reference) (behind : Tail → List Reference),
    (∀ depth, Moves setting [] (walkTail depth) tail fun tail => namesOf (behind tail)) →
      Moves setting [] (walkBody setting depth walkTail body) (body.references common tail) fun result =>
        namesOf (result.1.references common (behind result.2))
  | .select select, common, depth, walkTail, tail, behind, htail =>
    (walkSelect_moves select common depth walkTail tail behind htail).map fun _ => rfl
  | .query query, common, depth, _, _, _, htail =>
    (walkQuery_moves query common depth).bind fun _ => (htail depth).map fun _ => List.map_append
  | .setOperation left _ right, common, depth, _, _, _, htail =>
    (walkBody_moves left common depth (fun _ => pure {}) [] (fun _ => []) fun _ => .pure rfl).bind fun _ =>
      (walkBody_moves right common depth (fun _ => pure {}) [] (fun _ => []) fun _ => .pure rfl).bind fun _ =>
        (htail depth).map fun _ => by simp [Body.references, namesOf]
  | .values _ rows, common, depth, _, _, _, htail =>
    (walkRows_moves rows common depth).bind fun _ => (htail depth).map fun _ => List.map_append
  | .table _ _, _, depth, _, _, _, htail => .skip ((htail depth).map fun _ => List.map_append)
  | .statement statement, common, depth, _, _, _, htail =>
    (walkStatement_moves statement common depth).bind fun _ => (htail depth).map fun _ => List.map_append

theorem walkSelect_moves : ∀ (select : Select) (common : List Ident) (depth : Nat) (walkTail : Nat → Walk Tail)
    (tail : List Reference) (behind : Tail → List Reference),
    (∀ depth, Moves setting [] (walkTail depth) tail fun tail => namesOf (behind tail)) →
      Moves setting [] (walkSelect setting depth walkTail select) (select.references common tail) fun result =>
        namesOf (result.1.references common (behind result.2))
  | { head, projection, into, from_, views, prewhere, selection, groupBy, groupTail, clusterBy, distributeBy,
      sortBy, having, windowsBefore, qualify, windowsAfter, connectBy }, common, depth, walkTail, tail, behind,
      htail => by
    rw [Select.references_eq]
    generalize hpassed : Select.passed common _ = passed
    refine .skip (.tables _ (fun result => namesOf (result.1.inner common (behind result.2)))
      (fun result => factors result.1.from_ = factors from_ ∧ result.1.passed common = passed)
      ((walkTables_moves from_ common (depth + 1)).bind fun _ =>
        (walkExprs_moves projection common (depth + 1) false).bind fun _ =>
        (walkOptional_moves prewhere common (depth + 1) false).bind fun _ =>
        (walkOptional_moves selection common (depth + 1) false).bind fun _ =>
        (walkExprs_moves groupBy common (depth + 1) false).bind fun _ =>
        (walkOptional_moves having common (depth + 1) false).bind fun _ =>
        (walkOptional_moves qualify common (depth + 1) false).bind fun _ =>
        (walkExprs_moves clusterBy common (depth + 1) false).bind fun _ =>
        (walkExprs_moves distributeBy common (depth + 1) false).bind fun _ =>
        (walkExprs_moves sortBy common (depth + 1) false).bind fun _ => (htail (depth + 1)).map fun _ => ?_)
      ((walkTables_factors (depth + 1) from_).bind fun _ hfactors => .behind fun _ => .behind fun _ =>
        .behind fun _ => .behind fun _ => .behind fun _ => .behind fun _ => .behind fun _ => .behind fun _ =>
        .behind fun _ => .behind fun _ => .pure ⟨hfactors, hpassed⟩)
      (fun _ _ => rfl) ?_)
    · simp [Select.inner, namesOf]
    · rintro ⟨select, tail⟩ relocations ⟨hfactors, hpassed⟩
      rw [Select.namesOf_relocated, hfactors, hpassed]
      rfl

theorem walkTable_moves : ∀ (table : TableRef) (common : List Ident) (depth : Nat),
    Moves setting [] (walkTable setting depth table) (table.inner common) fun table => namesOf (table.inner common)
  | .table .., _, _ => .printed rfl
  | .derived _ query _, common, depth => (walkQuery_moves query common depth).map fun _ => rfl
  | .nested inner _, common, depth => (walkTable_moves inner common depth).map fun _ => rfl
  | .join left _ right matching on _, common, depth =>
    (walkTable_moves left common depth).bind fun _ => (walkTable_moves right common depth).bind fun _ =>
      (walkOptional_moves matching common depth false).bind fun _ =>
        (walkOptional_moves on common depth false).map fun _ => by simp [TableRef.inner, namesOf]
  | .turned .., _, _ => .printed rfl
  | .other .., _, _ => .printed rfl

theorem walkTables_moves : ∀ (tables : List TableRef) (common : List Ident) (depth : Nat),
    Moves setting [] (walkTables setting depth tables) (TableRef.allInner common tables) fun tables =>
      namesOf (TableRef.allInner common tables)
  | [], _, _ => .pure rfl
  | table :: tables, common, depth => (walkTable_moves table common depth).bind fun _ =>
    (walkTables_moves tables common depth).map fun _ => List.map_append

theorem walkInsert_moves : ∀ (insert : Insert) (common : List Ident) (depth : Nat),
    Moves setting [] (walkInsert setting depth insert) (insert.references common) fun insert =>
      namesOf (insert.references common)
  | { head := _, target, alias_ := _, columns := _, middle := _, source := some query, trailer := _ }, common, depth =>
    .skip (.scope [⟨.target, target, none⟩] (fun source => namesOf (source.elim [] (Query.references common)))
      (fun _ => True) (fun site => { name := site.name }) (fun _ => rfl) (fun _ => rfl)
      (List.pairwise_singleton ..) (bind_pure _).symm
      (.first (depth + 1) (onRows_runs _) (insert_ownSteps_flat _) fun _ =>
        (walkQuery_moves query common (depth + 1)).map fun _ => rfl)
      (.always _) (fun _ _ => rfl) fun _ _ _ => Insert.namesOf_relocated ..)
  | { head := _, target, alias_ := _, columns := _, middle := _, source := none, trailer := _ }, common, depth =>
    .skip (.scope [⟨.target, target, none⟩] (fun source => namesOf (source.elim [] (Query.references common)))
      (fun _ => True) (fun site => { name := site.name }) (fun _ => rfl) (fun _ => rfl)
      (List.pairwise_singleton ..) (bind_pure _).symm
      (.first (depth + 1) (onRows_runs _) (insert_ownSteps_flat _) fun _ => .pure rfl)
      (.always _) (fun _ _ => rfl) fun _ _ _ => Insert.namesOf_relocated ..)

theorem walkUpdate_moves : ∀ (update : Update) (common : List Ident) (depth : Nat),
    Moves setting [] (walkUpdate setting depth update) (update.references common) fun update =>
      namesOf (update.references common)
  | { conflict, table, fromBefore, assignments, fromAfter, selection, returning }, common, depth => by
    refine .skip (.tables _ (fun result => namesOf (result.1.inner common ++
        (Expr.allReferences common result.2.1 ++ Expr.optionalReferences common result.2.2)))
      (fun result => tableFactors result.1 = tableFactors table)
      ((walkTable_moves table common (depth + 1)).bind fun _ =>
        (walkExprs_moves assignments common (depth + 1) false).bind fun _ =>
        (walkOptional_moves selection common (depth + 1) false).map fun _ => ?_)
      ((walkTable_factors (depth + 1) table).bind fun _ hfactors =>
        .behind fun _ => .behind fun _ => .pure hfactors)
      (fun _ _ => rfl) ?_)
    · simp [namesOf]
    · intro result relocations hfactors
      simp only [Update.references, namesOf_append, inner_relocateTable, namesOf_factors,
        tableFactors_relocateTable, hfactors]
      rfl

theorem walkDelete_moves : ∀ (delete : Delete) (common : List Ident) (depth : Nat),
    Moves setting [] (walkDelete setting depth delete) (delete.references common) fun delete =>
      namesOf (delete.references common)
  | { targets, fromKeyword, from_, using_ := some tables, selection, returning, orderBy, limit }, common,
      depth => by
    refine .skip (.tables _ (fun (from_, using_, selection, orderBy, limit) =>
        namesOf (Delete.inner common from_ using_ selection orderBy limit))
      (fun result => factors result.1 = factors from_ ∧ factors (result.2.1.getD []) = factors tables)
      ((walkTables_moves from_ common (depth + 1)).bind fun _ =>
        (walkTables_moves tables common (depth + 1)).bind fun _ =>
        (walkOptional_moves selection common (depth + 1) false).bind fun _ =>
        (walkExprs_moves orderBy common (depth + 1) false).bind fun _ =>
        (walkOptional_moves limit common (depth + 1) false).map fun _ => ?_)
      ((walkTables_factors (depth + 1) from_).bind fun _ hfrom =>
        (walkTables_factors (depth + 1) tables).bind fun _ husing =>
          .given <| .behind fun _ => .behind fun _ => .behind fun _ => .pure ⟨hfrom, husing⟩)
      (fun _ _ => rfl) ?_)
    · simp [Delete.inner, namesOf]
    · rintro ⟨walked, using_, rest⟩ relocations ⟨hfrom, husing⟩
      rw [Delete.namesOf_relocated, hfrom, husing]
      rfl
  | { targets, fromKeyword, from_, using_ := none, selection, returning, orderBy, limit }, common, depth => by
    refine .skip (.tables _ (fun (from_, using_, selection, orderBy, limit) =>
        namesOf (Delete.inner common from_ using_ selection orderBy limit))
      (fun result => factors result.1 = factors from_ ∧ result.2.1 = none)
      ((walkTables_moves from_ common (depth + 1)).bind fun _ =>
        (walkOptional_moves selection common (depth + 1) false).bind fun _ =>
        (walkExprs_moves orderBy common (depth + 1) false).bind fun _ =>
        (walkOptional_moves limit common (depth + 1) false).map fun _ => ?_)
      ((walkTables_factors (depth + 1) from_).bind fun _ hfrom =>
        .given <| .behind fun _ => .behind fun _ => .behind fun _ => .pure ⟨hfrom, rfl⟩)
      (fun _ _ => rfl) ?_)
    · simp [Delete.inner, namesOf]
    · rintro ⟨walked, using_, rest⟩ relocations ⟨hfrom, rfl⟩
      rw [Delete.namesOf_relocated, hfrom]
      rfl

/-- Along the references of a statement its walk lists and renames what is bound. -/
theorem walkStatement_moves : ∀ (statement : Statement) (common : List Ident) (depth : Nat),
    Moves setting [] (walkStatement setting depth statement) (statement.references common) fun statement =>
      namesOf (statement.references common)
  | .query query, common, depth => (walkQuery_moves query common depth).map fun _ => rfl
  | .insert insert, common, depth => (walkInsert_moves insert common depth).map fun _ => rfl
  | .update update, common, depth => (walkUpdate_moves update common depth).map fun _ => rfl
  | .delete delete, common, depth => (walkDelete_moves delete common depth).map fun _ => rfl
  | .other, _, _ => .pure rfl

end

end Walk
end ShardRouting
