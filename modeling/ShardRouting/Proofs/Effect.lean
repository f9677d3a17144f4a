import ShardRouting.Proofs.Script

/-! The walk of a statement runs the script of the statement. The tree that a walk builds takes no part in
    what it does, so each walk is compared with a script after its result is dropped. -/

namespace ShardRouting
open Sql
namespace Walk

variable {α β : Type} {setting : Setting} {depth : Nat}

/-! ### Dropping results -/

/-- What a step does, without its result. -/
def effect (x : Walk α) : Walk Unit := do
  let _ ← x

theorem effect_unit (x : Walk Unit) : effect x = x := bind_pure x

theorem effect_bind (x : Walk α) (f : α → Walk β) : effect (x >>= f) = x >>= fun a => effect (f a) :=
  bind_assoc x f _

theorem effect_map (x : Walk α) (f : α → β) : effect (x >>= fun a => Pure.pure (f a)) = effect x := by
  rw [effect_bind]
  rfl

/-- A step does what a script does. -/
def Runs (setting : Setting) (depth : Nat) (x : Walk α) (steps : List Step) : Prop :=
  effect x = runSteps setting depth steps

theorem runSteps_append (setting : Setting) (depth : Nat) (steps rest : List Step) :
    runSteps setting depth (steps ++ rest) =
      (do runSteps setting depth steps; runSteps setting depth rest) := by
  induction steps with
  | nil => simp [runSteps]
  | cons step steps ih => simp [runSteps, ih]

theorem runSteps_singleton (setting : Setting) (depth : Nat) (step : Step) :
    runSteps setting depth [step] = runStep setting depth step := by
  simp only [runSteps]
  exact bind_pure _

namespace Runs

theorem pure (a : α) : Runs setting depth (pure a) [] := rfl

theorem bind {x : Walk α} {f : α → Walk β} {steps rest : List Step} (hx : Runs setting depth x steps)
    (hf : ∀ a, Runs setting depth (f a) rest) : Runs setting depth (x >>= f) (steps ++ rest) := by
  have hrest : (fun a => effect (f a)) = fun _ => runSteps setting depth rest := funext hf
  calc effect (x >>= f) = x >>= fun a => effect (f a) := effect_bind x f
    _ = x >>= fun _ => runSteps setting depth rest := by rw [hrest]
    _ = effect x >>= fun _ => runSteps setting depth rest := by
      simp only [effect, bind_assoc, pure_bind]
    _ = runSteps setting depth (steps ++ rest) := by rw [hx, runSteps_append]

/-- A result may be put into a tree at the end. -/
theorem map {x : Walk α} {steps : List Step} (hx : Runs setting depth x steps) (f : α → β) :
    Runs setting depth (x >>= fun a => Pure.pure (f a)) steps := by
  have h := hx.bind (f := fun a => Pure.pure (f a)) fun a => pure (f a)
  rwa [List.append_nil] at h

theorem step {x : Walk Unit} {s : Step} (h : x = runStep setting depth s) : Runs setting depth x [s] := by
  rw [Runs, effect_unit, h, runSteps_singleton]

/-- What a scope gives is put into a tree when its tables are settled. -/
theorem scope {x : Walk α} {g : α × Scope → Walk β} {aliases : Bool} {sites : List Site} {steps : List Step}
    (hx : effect x = (do bindSites setting (depth + 1) sites; runSteps setting (depth + 1) steps))
    (hg : ∀ a scope, effect (g (a, scope)) = effect (closeScope setting aliases scope.bindings)) :
    Runs setting depth (inScope x >>= g) [.scope aliases sites steps] := by
  have hg' : (fun r : α × Scope => effect (g r)) = fun r => effect (closeScope setting aliases r.2.bindings) :=
    funext fun r => hg r.1 r.2
  rw [Runs, runSteps_singleton, runStep, ← hx, effect_bind, hg']
  simp only [effect, runScope, inScope, bind_assoc, pure_bind]

/-- The tables of a scope are bound before anything else in it. -/
theorem bound {x : Walk Unit} {y : Walk α} {sites : List Site} {steps : List Step}
    (hx : x = bindSites setting depth sites) (hy : Runs setting depth y steps) :
    effect (x >>= fun _ => y) = (do bindSites setting depth sites; runSteps setting depth steps) := by
  rw [effect_bind, hx, hy]

end Runs

/-! ### Predicates -/

theorem refuse_bind (text : String) (fault : PredicateFault) (f : α → Walk β) :
    (refuse text fault >>= f) = refuse text fault := rfl

theorem onEquality_eq (setting : Setting) (underNot : Bool) (column : ColumnRef) (right : Expr) :
    onEquality setting underNot column right = onKey setting (.equality underNot column right) := by
  simp only [onEquality, onKey, KeyPredicate.equality]
  congr 1
  funext found
  cases found with
  | none => rfl
  | some found => cases underNot <;> simp [weighAll, weigh, refuse_bind]

theorem onInList_eq (setting : Setting) (underNot : Bool) (column : ColumnRef) (negated : Bool)
    (items : List Expr) :
    onInList setting underNot column negated items = onKey setting (.inList underNot column negated items) := by
  have hitems : ∀ binding, routeItems setting column binding items =
      weighAll setting column binding (items.map .item) := by
    induction items with
    | nil => exact fun _ => rfl
    | cons e es ih => simp [routeItems, weighAll, weigh, ih]
  simp only [onInList, onKey, KeyPredicate.inList]
  congr 1
  funext found
  cases found with
  | none => rfl
  | some found =>
    cases negated <;> cases underNot <;> cases hempty : items.isEmpty <;> simp [hitems, refuse_bind]

theorem onBetween_eq (setting : Setting) (underNot : Bool) (column : ColumnRef) (negated : Bool)
    (low high : Expr) :
    onBetween setting underNot column negated low high =
      onKey setting (.between underNot column negated low high) := by
  simp only [onBetween, onKey, KeyPredicate.between]
  congr 1
  funext found
  cases found with
  | none => rfl
  | some found => cases negated <;> cases underNot <;> simp [weighAll, weigh, refuse_bind]

theorem onPredicate_runs (underNot : Bool) (e : Expr) :
    Runs setting depth (onPredicate setting underNot e) (e.ownSteps underNot) := by
  cases e with
  | binary left op right =>
    cases op with
    | eq =>
      simp only [onPredicate, Expr.ownSteps]
      cases ColumnRef.ofExpr? left with
      | none => exact .pure ()
      | some column => exact .step (onEquality_eq setting underNot column right)
    | notEq | less | lessEq | greater | greaterEq => exact .step rfl
    | and | or | other => exact .pure ()
  | inList left negated items =>
    simp only [onPredicate, Expr.ownSteps]
    cases ColumnRef.ofExpr? left with
    | none => exact .pure ()
    | some column => exact .step (onInList_eq setting underNot column negated items)
  | between left negated low high =>
    simp only [onPredicate, Expr.ownSteps]
    cases ColumnRef.ofExpr? left with
    | none => exact .pure ()
    | some column => exact .step (onBetween_eq setting underNot column negated low high)
  | test left negated kind right => cases kind <;> exact .step rfl
  | isNull operand => exact .step rfl
  | _ => exact .pure ()

theorem forM_runs {f : α → Walk Unit} {g : α → List Step} (h : ∀ a, Runs setting depth (f a) (g a)) :
    ∀ l : List α, Runs setting depth (l.forM f) (l.flatMap g)
  | [] => .pure ()
  | a :: l => (h a).bind fun _ => forM_runs h l

theorem onRow_runs (columns : List Ident) (row : List Expr) :
    Runs setting depth (onRow setting columns row)
      ((columns.zip row).map fun (name, value) => .key (.equality false (.ofName name) value)) := by
  rw [List.map_eq_flatMap]
  exact forM_runs (fun cell => .step (onEquality_eq setting false _ cell.2)) _

theorem onRows_runs (insert : Insert) : Runs setting depth (onRows setting insert) insert.ownSteps := by
  obtain ⟨head, target, alias_, columns, middle, source, trailer⟩ := insert
  match columns, source with
  | [], _ => exact .pure ()
  | _ :: _, none => exact .pure ()
  | _ :: _, some ⟨_, _, body, _, _, _, _, _, _, _⟩ =>
    cases body with
    | values _ rows => exact forM_runs (onRow_runs _) rows
    | _ => exact .pure ()

theorem bindFactors_eq (setting : Setting) (depth : Nat) (fs : List Factor) : ∀ index,
    bindFactors setting depth index fs = bindSites setting depth (Factor.sites index fs) := by
  induction fs with
  | nil => exact fun _ => rfl
  | cons factor fs ih =>
    intro index
    simp only [bindFactors, Factor.sites, bindSites, ih]

/-! ### Trees -/

mutual

theorem walkExpr_runs : ∀ (e : Expr) (depth : Nat) (underNot : Bool),
    Runs setting depth (walkExpr setting depth underNot e) (e.steps underNot)
  | .ident name, _, _ => .pure (Expr.ident name)
  | .column parts, _, _ => .pure (Expr.column parts)
  | .literal value, _, _ => .pure (Expr.literal value)
  | .typed type value, _, _ => .pure (Expr.typed type value)
  | .nested operand, depth, underNot => (walkExpr_runs operand depth underNot).map Expr.nested
  | .not operand, depth, _ => (walkExpr_runs operand depth true).map Expr.not
  | .sign negative operand, depth, underNot => (walkExpr_runs operand depth underNot).map (Expr.sign negative)
  | .binary left op right, depth, underNot =>
    (onPredicate_runs underNot _).bind fun _ => (walkExpr_runs left depth underNot).bind fun left =>
      (walkExpr_runs right depth underNot).map (Expr.binary left op)
  | .inList left negated items, depth, underNot =>
    (onPredicate_runs underNot _).bind fun _ => (walkExpr_runs left depth underNot).bind fun left =>
      (walkExprs_runs items depth underNot).map (Expr.inList left negated)
  | .between left negated low high, depth, underNot =>
    (onPredicate_runs underNot _).bind fun _ => (walkExpr_runs left depth underNot).bind fun left =>
      (walkExpr_runs low depth underNot).bind fun low =>
        (walkExpr_runs high depth underNot).map (Expr.between left negated low)
  | .test left negated kind right, depth, underNot =>
    (onPredicate_runs underNot _).bind fun _ => (walkExpr_runs left depth underNot).bind fun left =>
      (walkExpr_runs right depth underNot).map (Expr.test left negated kind)
  | .isNull operand, depth, underNot =>
    (onPredicate_runs underNot _).bind fun _ => (walkExpr_runs operand depth underNot).map Expr.isNull
  | .subquery query, depth, _ => (walkQuery_runs query depth).map Expr.subquery
  | .trim side what subject, depth, underNot =>
    (walkExpr_runs subject depth underNot).bind fun subject =>
      (walkExpr_runs what depth underNot).map fun what => Expr.trim side what subject
  | .call name pieces, depth, underNot => (walkPieces_runs pieces depth underNot).map (Expr.call name)
  | .form pieces, depth, underNot => (walkPieces_runs pieces depth underNot).map Expr.form

theorem walkExprs_runs : ∀ (es : List Expr) (depth : Nat) (underNot : Bool),
    Runs setting depth (walkExprs setting depth underNot es) (Expr.allSteps underNot es)
  | [], _, _ => .pure []
  | e :: es, depth, underNot => (walkExpr_runs e depth underNot).bind fun e =>
    (walkExprs_runs es depth underNot).map (e :: ·)

theorem walkOptional_runs : ∀ (e : Option Expr) (depth : Nat) (underNot : Bool),
    Runs setting depth (walkOptional setting depth underNot e) (Expr.optionalSteps underNot e)
  | none, _, _ => .pure none
  | some e, depth, underNot => (walkExpr_runs e depth underNot).map some

theorem walkRows_runs : ∀ (rows : List (List Expr)) (depth : Nat),
    Runs setting depth (walkRows setting depth rows) (Expr.rowSteps rows)
  | [], _ => .pure []
  | row :: rows, depth => (walkExprs_runs row depth false).bind fun row =>
    (walkRows_runs rows depth).map (row :: ·)

theorem walkPieces_runs : ∀ (pieces : List Piece) (depth : Nat) (underNot : Bool),
    Runs setting depth (walkPieces setting depth underNot pieces) (Piece.allSteps underNot pieces)
  | [], _, _ => .pure []
  | piece :: pieces, depth, underNot => (walkPiece_runs piece depth underNot).bind fun piece =>
    (walkPieces_runs pieces depth underNot).map (piece :: ·)

theorem walkPiece_runs : ∀ (piece : Piece) (depth : Nat) (underNot : Bool),
    Runs setting depth (walkPiece setting depth underNot piece) (piece.steps underNot)
  | .words text, _, _ => .pure (Piece.words text)
  | .part operand, depth, underNot => (walkExpr_runs operand depth underNot).map Piece.part
  | .aside operand, _, _ => .pure (Piece.aside operand)

theorem walkQuery_runs : ∀ (query : Query) (depth : Nat),
    Runs setting depth (walkQuery setting depth query) query.steps
  | { recursive := _, ctes, body, orderBy, limit, offset, limitBy, settings := _, fetch, ending := _ }, depth =>
    (walkCtes_runs ctes depth).bind fun _ => (walkBody_runs body depth _ _ fun depth =>
      (walkExprs_runs orderBy depth false).bind fun _ => (walkOptional_runs limit depth false).bind fun _ =>
        (walkExprs_runs limitBy depth false).bind fun _ => (walkOptional_runs offset depth false).bind fun _ =>
          (walkOptional_runs fetch depth false).map _).map _

theorem walkCte_runs : ∀ (cte : Cte) (depth : Nat), Runs setting depth (walkCte setting depth cte) cte.steps
  | { alias_, keyword, query, source }, depth =>
    (walkQuery_runs query depth).map fun query => Cte.mk alias_ keyword query source

theorem walkCtes_runs : ∀ (ctes : List Cte) (depth : Nat),
    Runs setting depth (walkCtes setting depth ctes) (Cte.allSteps ctes)
  | [], _ => .pure []
  | cte :: ctes, depth => (walkCte_runs cte depth).bind fun cte => (walkCtes_runs ctes depth).map (cte :: ·)

theorem walkBody_runs : ∀ (body : Body) (depth : Nat) (walkTail : Nat → Walk Tail) (tail : List Step),
    (∀ depth, Runs setting depth (walkTail depth) tail) →
      Runs setting depth (walkBody setting depth walkTail body) (body.steps tail)
  | .select select, depth, walkTail, tail, htail => (walkSelect_runs select depth walkTail tail htail).map _
  | .query query, depth, _, _, htail => (walkQuery_runs query depth).bind fun _ => (htail depth).map _
  | .setOperation left _ right, depth, _, _, htail =>
    (walkBody_runs left depth (fun _ => pure {}) [] fun _ => .pure _).bind fun _ =>
      (walkBody_runs right depth (fun _ => pure {}) [] fun _ => .pure _).bind fun _ => (htail depth).map _
  | .values _ rows, depth, _, _, htail => (walkRows_runs rows depth).bind fun _ => (htail depth).map _
  | .table _ _, depth, _, _, htail => (htail depth).map _
  | .statement statement, depth, _, _, htail =>
    (walkStatement_runs statement depth).bind fun _ => (htail depth).map _

theorem walkSelect_runs : ∀ (select : Select) (depth : Nat) (walkTail : Nat → Walk Tail) (tail : List Step),
    (∀ depth, Runs setting depth (walkTail depth) tail) →
      Runs setting depth (walkSelect setting depth walkTail select) (select.steps tail)
  | { head := _, projection, into := _, from_, views := _, prewhere, selection, groupBy, groupTail := _,
      clusterBy, distributeBy, sortBy, having, windowsBefore := _, qualify, windowsAfter := _,
      connectBy := _ }, depth, _, _, htail =>
    Runs.scope (Runs.bound (bindFactors_eq setting (depth + 1) (factors from_) 0)
      ((walkTables_runs from_ (depth + 1)).bind fun _ => (walkExprs_runs projection (depth + 1) false).bind fun _ =>
        (walkOptional_runs prewhere (depth + 1) false).bind fun _ =>
        (walkOptional_runs selection (depth + 1) false).bind fun _ =>
        (walkExprs_runs groupBy (depth + 1) false).bind fun _ =>
        (walkOptional_runs having (depth + 1) false).bind fun _ =>
        (walkOptional_runs qualify (depth + 1) false).bind fun _ =>
        (walkExprs_runs clusterBy (depth + 1) false).bind fun _ =>
        (walkExprs_runs distributeBy (depth + 1) false).bind fun _ =>
        (walkExprs_runs sortBy (depth + 1) false).bind fun _ => (htail (depth + 1)).map _)) fun ⟨_, _⟩ _ =>
          effect_map _ _

theorem walkTable_runs : ∀ (table : TableRef) (depth : Nat),
    Runs setting depth (walkTable setting depth table) table.steps
  | .table .., _ => .pure _
  | .derived _ query _, depth => (walkQuery_runs query depth).map _
  | .nested inner _, depth => (walkTable_runs inner depth).map _
  | .join left _ right matching on _, depth =>
    (walkTable_runs left depth).bind fun _ => (walkTable_runs right depth).bind fun _ =>
      (walkOptional_runs matching depth false).bind fun _ => (walkOptional_runs on depth false).map _
  | .turned .., _ => .pure _
  | .other .., _ => .pure _

theorem walkTables_runs : ∀ (tables : List TableRef) (depth : Nat),
    Runs setting depth (walkTables setting depth tables) (TableRef.allSteps tables)
  | [], _ => .pure []
  | table :: tables, depth => (walkTable_runs table depth).bind fun table =>
    (walkTables_runs tables depth).map (table :: ·)

theorem walkInsert_runs : ∀ (insert : Insert) (depth : Nat),
    Runs setting depth (walkInsert setting depth insert) insert.steps
  | { head := _, target := _, alias_ := _, columns := _, middle := _, source := some query, trailer := _ },
      depth =>
    Runs.scope (Runs.bound (bind_pure _).symm
      ((onRows_runs _).bind fun _ => (walkQuery_runs query (depth + 1)).map some)) fun _ _ => effect_map _ _
  | { head := _, target := _, alias_ := _, columns := _, middle := _, source := none, trailer := _ }, _ =>
    Runs.scope (Runs.bound (bind_pure _).symm ((onRows_runs _).bind fun _ => .pure none)) fun _ _ =>
      effect_map _ _

theorem walkUpdate_runs : ∀ (update : Update) (depth : Nat),
    Runs setting depth (walkUpdate setting depth update) update.steps
  | { conflict := _, table, fromBefore := _, assignments, fromAfter := _, selection, returning := _ }, depth =>
    Runs.scope (Runs.bound (bindFactors_eq setting (depth + 1) (tableFactors table) 0)
      ((walkTable_runs table (depth + 1)).bind fun _ => (walkExprs_runs assignments (depth + 1) false).bind fun _ =>
        (walkOptional_runs selection (depth + 1) false).map _)) fun _ _ => effect_map _ _

theorem walkDelete_runs : ∀ (delete : Delete) (depth : Nat),
    Runs setting depth (walkDelete setting depth delete) delete.steps
  | { targets := _, fromKeyword := _, from_, using_ := some tables, selection, returning := _, orderBy,
      limit }, depth =>
    Runs.scope (Runs.bound (bindFactors_eq setting (depth + 1) _ 0)
      ((walkTables_runs from_ (depth + 1)).bind fun _ => (walkTables_runs tables (depth + 1)).bind fun _ =>
        (walkOptional_runs selection (depth + 1) false).bind fun _ =>
        (walkExprs_runs orderBy (depth + 1) false).bind fun _ =>
        (walkOptional_runs limit (depth + 1) false).map _)) fun _ _ => effect_map _ _
  | { targets := _, fromKeyword := _, from_, using_ := none, selection, returning := _, orderBy,
      limit }, depth =>
    Runs.scope (Runs.bound (bindFactors_eq setting (depth + 1) _ 0)
      ((walkTables_runs from_ (depth + 1)).bind fun _ =>
        (walkOptional_runs selection (depth + 1) false).bind fun _ =>
        (walkExprs_runs orderBy (depth + 1) false).bind fun _ =>
        (walkOptional_runs limit (depth + 1) false).map _)) fun _ _ => effect_map _ _

/-- The walk of a statement does what its script does. -/
theorem walkStatement_runs : ∀ (statement : Statement) (depth : Nat),
    Runs setting depth (walkStatement setting depth statement) statement.steps
  | .query query, depth => (walkQuery_runs query depth).map Statement.query
  | .insert insert, depth => (walkInsert_runs insert depth).map Statement.insert
  | .update update, depth => (walkUpdate_runs update depth).map Statement.update
  | .delete delete, depth => (walkDelete_runs delete depth).map Statement.delete
  | .other, _ => .pure Statement.other

end

end Walk
end ShardRouting
