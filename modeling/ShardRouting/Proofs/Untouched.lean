import ShardRouting.Proofs.Agreement
import ShardRouting.Proofs.Coverage

/-! Statements without sharded tables. As long as nothing is bound, the open scope knows no column, so every
    predicate passes whatever it says, and every scope closes without a question to the engine. The walk gives the
    tree back as it is and leaves its progress alone. -/

namespace ShardRouting
open Sql

/-- None of some references is bound. -/
def Unsharded (setting : Setting) (references : List Reference) : Prop :=
  ∀ reference ∈ references, reference.bound setting = false

namespace Unsharded

variable {setting : Setting} {references rest : List Reference}

theorem left (h : Unsharded setting (references ++ rest)) : Unsharded setting references :=
  (List.forall_mem_append.mp h).1

theorem right (h : Unsharded setting (references ++ rest)) : Unsharded setting rest :=
  (List.forall_mem_append.mp h).2

end Unsharded

theorem unsharded_append {setting : Setting} {references rest : List Reference} :
    Unsharded setting (references ++ rest) ↔ Unsharded setting references ∧ Unsharded setting rest :=
  List.forall_mem_append

/-! ### Without relocations -/

theorem relocateTable_nil (defaultSchema : Option String) : ∀ (table : TableRef) (index : Nat),
    relocateTable defaultSchema [] index table = table
  | .table .., _ => rfl
  | .nested inner alias_, index => congrArg (TableRef.nested · alias_) (relocateTable_nil defaultSchema inner index)
  | .join left words right matching on using_, index => by
    rw [relocateTable, relocateTable_nil defaultSchema left, relocateTable_nil defaultSchema right]
  | .derived .., _ => rfl
  | .turned .., _ => rfl
  | .other .., _ => rfl

theorem relocateTables_nil (defaultSchema : Option String) (tables : List TableRef) : ∀ index : Nat,
    relocateTables defaultSchema [] index tables = tables := by
  induction tables with
  | nil => exact fun _ => rfl
  | cons table tables ih =>
    intro index
    rw [relocateTables, relocateTable_nil, ih]

theorem relocateListed_nil (defaultSchema : Option String) (factors : List Factor) (names : List ObjectName) :
    names.map (relocateListed defaultSchema [] factors) = names :=
  (List.map_congr_left fun _ _ => rfl).trans (List.map_id names)

namespace Walk

variable {α β : Type} {setting : Setting} {depth : Nat}

/-! ### Steps in a scope without tables -/

/-- In a scope without tables a step gives `a` and changes nothing. -/
def Still (x : Walk α) (a : α) : Prop := ∀ p : Progress, p.scope = {} → x p = .ok a p

namespace Still

theorem pure (a : α) : Still (Pure.pure a) a := fun _ _ => rfl

theorem bind {x : Walk α} {f : α → Walk β} {a : α} {b : β} (hx : Still x a) (hf : Still (f a) b) :
    Still (x >>= f) b :=
  fun p hp => bind_iff.mpr ⟨a, p, hx p hp, hf p hp⟩

/-- A result may be put into a tree at the end. -/
theorem map {x : Walk α} {f : α → β} {a : α} (hx : Still x a) : Still (x >>= fun a => Pure.pure (f a)) (f a) :=
  hx.bind (pure (f a))

/-- A scope that binds nothing is left without tables. -/
theorem scope {x : Walk α} {g : α × Scope → Walk β} {a : α} {b : β} (hx : Still x a)
    (hg : Still (g (a, {})) b) : Still (inScope x >>= g) b := by
  intro p hp
  have hinner : x { p with scope := {} } = .ok a { p with scope := {} } := hx _ rfl
  exact bind_iff.mpr ⟨(a, {}), p, inScope_iff.mpr ⟨_, hinner, rfl, rfl⟩, hg p hp⟩

end Still

/-! ### Predicates and tables -/

theorem boundTable_still (column : ColumnRef) : Still (boundTable column) none := by
  intro p hp
  rw [boundTable_eq, hp]
  rfl

theorem onOther_still (left : Expr) (operator text : String) : Still (onOther left operator text) () := by
  intro p hp
  unfold onOther
  cases ColumnRef.ofExpr? left with
  | none => rfl
  | some column =>
    refine bind_iff.mpr ⟨p, p, rfl, ?_⟩
    rw [hp]
    rfl

theorem runSteps_still {steps : List Step} (hflat : ∀ step ∈ steps, Flat step) :
    Still (runSteps setting depth steps) () := by
  induction steps with
  | nil => exact .pure ()
  | cons step steps ih =>
    obtain ⟨hfirst, hrest⟩ := List.forall_mem_cons.mp hflat
    refine Still.bind (a := ()) ?_ (ih hrest)
    cases step with
    | key predicate => exact (boundTable_still predicate.column).bind (.pure ())
    | other left operator text => exact onOther_still left operator text
    | scope aliases sites steps => exact hfirst.elim

theorem Runs.still {x : Walk Unit} {steps : List Step} (h : Runs setting depth x steps)
    (hflat : ∀ step ∈ steps, Flat step) : Still x () := by
  rw [Runs, effect_unit] at h
  exact h ▸ runSteps_still hflat

theorem onPredicate_still (underNot : Bool) (e : Expr) : Still (onPredicate setting underNot e) () :=
  have hruns : Runs setting 0 (onPredicate setting underNot e) _ := onPredicate_runs underNot e
  hruns.still (ownSteps_flat underNot e)

theorem onRows_still (insert : Insert) : Still (onRows setting insert) () :=
  have hruns : Runs setting 0 (onRows setting insert) _ := onRows_runs insert
  hruns.still (insert_ownSteps_flat insert)

theorem bindTable_still {slot : Slot} {name : ObjectName} {alias_ : Option String}
    (h : Reference.sharded setting { name } = false) : Still (bindTable setting depth slot name alias_) () := by
  intro p _
  unfold Reference.sharded Reference.logical? at h
  unfold bindTable
  cases hsplit : name.split? with
  | none => rfl
  | some parts =>
    obtain ⟨schema, table⟩ := parts
    simp only [hsplit, Option.map_some, Option.isSome_eq_false_iff, Option.isNone_iff_eq_none] at h
    simp only [h]
    rfl

theorem bindFactors_still {common : List Ident} {fs : List Factor}
    (h : Unsharded setting (fs.map (Factor.reference common))) : ∀ index,
    Still (bindFactors setting depth index fs) () := by
  induction fs with
  | nil => exact fun _ => .pure ()
  | cons factor fs ih =>
    intro index
    obtain ⟨hfirst, hrest⟩ := List.forall_mem_cons.mp h
    exact (bindTable_still hfirst).bind (ih hrest (index + 1))

/-! ### Trees -/

mutual

theorem walkExpr_still : ∀ (e : Expr) (common : List Ident) (depth : Nat) (underNot : Bool),
    Unsharded setting (e.references common) → Still (walkExpr setting depth underNot e) e
  | .ident _, _, _, _, _ => .pure _
  | .column _, _, _, _, _ => .pure _
  | .literal _, _, _, _, _ => .pure _
  | .typed _ _, _, _, _, _ => .pure _
  | .nested operand, common, depth, underNot, h => (walkExpr_still operand common depth underNot h).map
  | .not operand, common, depth, _, h => (walkExpr_still operand common depth true h).map
  | .sign _ operand, common, depth, underNot, h => (walkExpr_still operand common depth underNot h).map
  | .binary left _ right, common, depth, underNot, h =>
    (onPredicate_still underNot _).bind <| (walkExpr_still left common depth underNot h.left).bind
      (walkExpr_still right common depth underNot h.right).map
  | .inList left _ items, common, depth, underNot, h =>
    (onPredicate_still underNot _).bind <| (walkExpr_still left common depth underNot h.left).bind
      (walkExprs_still items common depth underNot h.right).map
  | .between left _ low high, common, depth, underNot, h =>
    (onPredicate_still underNot _).bind <| (walkExpr_still left common depth underNot h.left).bind <|
      (walkExpr_still low common depth underNot h.right.left).bind
        (walkExpr_still high common depth underNot h.right.right).map
  | .test left _ _ right, common, depth, underNot, h =>
    (onPredicate_still underNot _).bind <| (walkExpr_still left common depth underNot h.left).bind
      (walkExpr_still right common depth underNot h.right).map
  | .isNull operand, common, depth, underNot, h =>
    (onPredicate_still underNot _).bind (walkExpr_still operand common depth underNot h).map
  | .subquery query, common, depth, _, h => (walkQuery_still query common depth h).map
  | .trim _ what subject, common, depth, underNot, h =>
    (walkExpr_still subject common depth underNot h.left).bind
      (walkExpr_still what common depth underNot h.right).map
  | .call _ pieces, common, depth, underNot, h => (walkPieces_still pieces common depth underNot h).map
  | .form pieces, common, depth, underNot, h => (walkPieces_still pieces common depth underNot h).map

theorem walkExprs_still : ∀ (es : List Expr) (common : List Ident) (depth : Nat) (underNot : Bool),
    Unsharded setting (Expr.allReferences common es) → Still (walkExprs setting depth underNot es) es
  | [], _, _, _, _ => .pure []
  | e :: es, common, depth, underNot, h => (walkExpr_still e common depth underNot h.left).bind
    (walkExprs_still es common depth underNot h.right).map

theorem walkOptional_still : ∀ (e : Option Expr) (common : List Ident) (depth : Nat) (underNot : Bool),
    Unsharded setting (Expr.optionalReferences common e) → Still (walkOptional setting depth underNot e) e
  | none, _, _, _, _ => .pure none
  | some e, common, depth, underNot, h => (walkExpr_still e common depth underNot h).map

theorem walkRows_still : ∀ (rows : List (List Expr)) (common : List Ident) (depth : Nat),
    Unsharded setting (Expr.rowReferences common rows) → Still (walkRows setting depth rows) rows
  | [], _, _, _ => .pure []
  | row :: rows, common, depth, h => (walkExprs_still row common depth false h.left).bind
    (walkRows_still rows common depth h.right).map

theorem walkPieces_still : ∀ (pieces : List Piece) (common : List Ident) (depth : Nat) (underNot : Bool),
    Unsharded setting (Piece.allReferences common pieces) → Still (walkPieces setting depth underNot pieces) pieces
  | [], _, _, _, _ => .pure []
  | piece :: pieces, common, depth, underNot, h => (walkPiece_still piece common depth underNot h.left).bind
    (walkPieces_still pieces common depth underNot h.right).map

theorem walkPiece_still : ∀ (piece : Piece) (common : List Ident) (depth : Nat) (underNot : Bool),
    Unsharded setting (piece.references common) → Still (walkPiece setting depth underNot piece) piece
  | .words _, _, _, _, _ => .pure _
  | .part operand, common, depth, underNot, h => (walkExpr_still operand common depth underNot h).map
  | .aside _, _, _, _, _ => .pure _

theorem walkQuery_still : ∀ (query : Query) (common : List Ident) (depth : Nat),
    Unsharded setting (query.references common) → Still (walkQuery setting depth query) query
  | { recursive := _, ctes, body, orderBy, limit, offset, limitBy, settings := _, fetch, ending := _ },
      common, depth, h =>
    let inner := Cte.names ctes ++ common
    (walkCtes_still ctes _ depth h.right.left).bind
      (walkBody_still body inner depth _ _ { orderBy, limit, limitBy, offset, fetch } h.right.right
        fun depth htail => (walkExprs_still orderBy inner depth false htail.left).bind <|
          (walkOptional_still limit inner depth false htail.right.left).bind <|
          (walkExprs_still limitBy inner depth false htail.right.right.left).bind <|
          (walkOptional_still offset inner depth false htail.right.right.right.left).bind
          (walkOptional_still fetch inner depth false htail.right.right.right.right).map).map

theorem walkCte_still : ∀ (cte : Cte) (common : List Ident) (depth : Nat),
    Unsharded setting (cte.references common) → Still (walkCte setting depth cte) cte
  | { alias_ := _, keyword := _, query, source := _ }, common, depth, h => (walkQuery_still query common depth h).map

theorem walkCtes_still : ∀ (ctes : List Cte) (common : List Ident) (depth : Nat),
    Unsharded setting (Cte.allReferences common ctes) → Still (walkCtes setting depth ctes) ctes
  | [], _, _, _ => .pure []
  | cte :: ctes, common, depth, h => (walkCte_still cte common depth h.left).bind
    (walkCtes_still ctes (cte.alias_.name :: common) depth h.right).map

theorem walkBody_still : ∀ (body : Body) (common : List Ident) (depth : Nat) (walkTail : Nat → Walk Tail)
    (tail : List Reference) (kept : Tail), Unsharded setting (body.references common tail) →
      (∀ depth, Unsharded setting tail → Still (walkTail depth) kept) →
        Still (walkBody setting depth walkTail body) (body, kept)
  | .select select, common, depth, walkTail, tail, kept, h, htail =>
    (walkSelect_still select common depth walkTail tail kept h htail).map
  | .query query, common, depth, _, _, _, h, htail =>
    (walkQuery_still query common depth h.left).bind (htail depth h.right).map
  | .setOperation left _ right, common, depth, _, _, _, h, htail =>
    (walkBody_still left common depth _ [] {} h.left fun _ _ => .pure _).bind <|
      (walkBody_still right common depth _ [] {} h.right.left fun _ _ => .pure _).bind
        (htail depth h.right.right).map
  | .values _ rows, common, depth, _, _, _, h, htail =>
    (walkRows_still rows common depth h.left).bind (htail depth h.right).map
  | .table _ _, _, depth, _, _, _, h, htail => (htail depth h.right).map
  | .statement statement, common, depth, _, _, _, h, htail =>
    (walkStatement_still statement common depth h.left).bind (htail depth h.right).map

theorem walkSelect_still : ∀ (select : Select) (common : List Ident) (depth : Nat) (walkTail : Nat → Walk Tail)
    (tail : List Reference) (kept : Tail), Unsharded setting (select.references common tail) →
      (∀ depth, Unsharded setting tail → Still (walkTail depth) kept) →
        Still (walkSelect setting depth walkTail select) (select, kept)
  | { head := _, projection, into := _, from_, views := _, prewhere, selection, groupBy, groupTail := _,
      clusterBy, distributeBy, sortBy, having, windowsBefore := _, qualify, windowsAfter := _,
      connectBy := _ }, common, depth, walkTail, tail, kept, h, htail => by
    simp only [Select.references, unsharded_append] at h
    obtain ⟨-, ⟨hfrom, hprojection, hprewhere, hselection, hgroupBy, hhaving, hqualify, hclusterBy, hdistributeBy,
      hsortBy, hrest⟩, hfactors⟩ := h
    refine .scope ((bindFactors_still hfactors 0).bind <| (walkTables_still from_ common (depth + 1) hfrom).bind <|
      (walkExprs_still projection common (depth + 1) false hprojection).bind <|
      (walkOptional_still prewhere common (depth + 1) false hprewhere).bind <|
      (walkOptional_still selection common (depth + 1) false hselection).bind <|
      (walkExprs_still groupBy common (depth + 1) false hgroupBy).bind <|
      (walkOptional_still having common (depth + 1) false hhaving).bind <|
      (walkOptional_still qualify common (depth + 1) false hqualify).bind <|
      (walkExprs_still clusterBy common (depth + 1) false hclusterBy).bind <|
      (walkExprs_still distributeBy common (depth + 1) false hdistributeBy).bind <|
      (walkExprs_still sortBy common (depth + 1) false hsortBy).bind (htail (depth + 1) hrest).map) ?_
    refine .bind (.pure []) ?_
    rw [relocateTables_nil]
    exact .pure _

theorem walkTable_still : ∀ (table : TableRef) (common : List Ident) (depth : Nat),
    Unsharded setting (table.inner common) → Still (walkTable setting depth table) table
  | .table .., _, _, _ => .pure _
  | .derived _ query _, common, depth, h => (walkQuery_still query common depth h).map
  | .nested inner _, common, depth, h => (walkTable_still inner common depth h).map
  | .join left _ right matching on _, common, depth, h =>
    (walkTable_still left common depth h.left).bind <| (walkTable_still right common depth h.right.left).bind <|
      (walkOptional_still matching common depth false h.right.right.left).bind
      (walkOptional_still on common depth false h.right.right.right).map
  | .turned .., _, _, _ => .pure _
  | .other .., _, _, _ => .pure _

theorem walkTables_still : ∀ (tables : List TableRef) (common : List Ident) (depth : Nat),
    Unsharded setting (TableRef.allInner common tables) → Still (walkTables setting depth tables) tables
  | [], _, _, _ => .pure []
  | table :: tables, common, depth, h => (walkTable_still table common depth h.left).bind
    (walkTables_still tables common depth h.right).map

theorem walkInsert_still : ∀ (insert : Insert) (common : List Ident) (depth : Nat),
    Unsharded setting (insert.references common) → Still (walkInsert setting depth insert) insert
  | { head := _, target, alias_ := _, columns := _, middle := _, source := some query, trailer := _ },
      common, depth, h =>
    have htarget : Reference.sharded setting { name := target } = false := h.right.right _ (List.mem_singleton_self _)
    .scope ((bindTable_still htarget).bind <| (onRows_still _).bind
      (walkQuery_still query common (depth + 1) h.right.left).map) (.bind (.pure []) (.pure _))
  | { head := _, target, alias_ := _, columns := _, middle := _, source := none, trailer := _ }, _, _, h =>
    have htarget : Reference.sharded setting { name := target } = false := h.right.right _ (List.mem_singleton_self _)
    .scope ((bindTable_still htarget).bind <| (onRows_still _).bind (.pure none)) (.bind (.pure []) (.pure _))

theorem walkUpdate_still : ∀ (update : Update) (common : List Ident) (depth : Nat),
    Unsharded setting (update.references common) → Still (walkUpdate setting depth update) update
  | { conflict := _, table, fromBefore := _, assignments, fromAfter := _, selection, returning := _ },
      common, depth, h => by
    simp only [Update.references, unsharded_append] at h
    obtain ⟨-, ⟨htable, hassignments, hselection⟩, hfactors⟩ := h
    refine .scope ((bindFactors_still hfactors 0).bind <| (walkTable_still table common (depth + 1) htable).bind <|
      (walkExprs_still assignments common (depth + 1) false hassignments).bind
      (walkOptional_still selection common (depth + 1) false hselection).map) ?_
    refine .bind (.pure []) ?_
    rw [relocateTable_nil]
    exact .pure _

theorem walkDelete_still : ∀ (delete : Delete) (common : List Ident) (depth : Nat),
    Unsharded setting (delete.references common) → Still (walkDelete setting depth delete) delete
  | { targets := _, fromKeyword := _, from_, using_ := some tables, selection, returning := _, orderBy, limit },
      common, depth, h => by
    obtain ⟨hfrom, husing, hselection, horderBy, hlimit⟩ :
        Unsharded setting (TableRef.allInner common from_) ∧ Unsharded setting (TableRef.allInner common tables) ∧
          Unsharded setting (Expr.optionalReferences common selection) ∧
          Unsharded setting (Expr.allReferences common orderBy) ∧
          Unsharded setting (Expr.optionalReferences common limit) := by
      simpa only [unsharded_append] using h.right.left
    refine .scope ((bindFactors_still h.right.right 0).bind <|
      (walkTables_still from_ common (depth + 1) hfrom).bind <|
      (walkTables_still tables common (depth + 1) husing).bind <|
      (walkOptional_still selection common (depth + 1) false hselection).bind <|
      (walkExprs_still orderBy common (depth + 1) false horderBy).bind
      (walkOptional_still limit common (depth + 1) false hlimit).map) ?_
    refine .bind (.pure []) ?_
    simp only [relocateListed_nil, relocateTables_nil, Option.map_some]
    exact .pure _
  | { targets := _, fromKeyword := _, from_, using_ := none, selection, returning := _, orderBy, limit },
      common, depth, h => by
    obtain ⟨hfrom, hselection, horderBy, hlimit⟩ :
        Unsharded setting (TableRef.allInner common from_) ∧
          Unsharded setting (Expr.optionalReferences common selection) ∧
          Unsharded setting (Expr.allReferences common orderBy) ∧
          Unsharded setting (Expr.optionalReferences common limit) := by
      simpa only [List.nil_append, unsharded_append] using h.right.left
    refine .scope ((bindFactors_still h.right.right 0).bind <|
      (walkTables_still from_ common (depth + 1) hfrom).bind <|
      (walkOptional_still selection common (depth + 1) false hselection).bind <|
      (walkExprs_still orderBy common (depth + 1) false horderBy).bind
      (walkOptional_still limit common (depth + 1) false hlimit).map) ?_
    refine .bind (.pure []) ?_
    simp only [relocateListed_nil, relocateTables_nil]
    exact .pure _

/-- The walk of a statement without sharded tables gives it back. -/
theorem walkStatement_still : ∀ (statement : Statement) (common : List Ident) (depth : Nat),
    Unsharded setting (statement.references common) → Still (walkStatement setting depth statement) statement
  | .query query, common, depth, h => (walkQuery_still query common depth h).map
  | .insert insert, common, depth, h => (walkInsert_still insert common depth h).map
  | .update update, common, depth, h => (walkUpdate_still update common depth h).map
  | .delete delete, common, depth, h => (walkDelete_still delete common depth h).map
  | .other, _, _, _ => .pure _

end

end Walk

/-! ### Statements -/

variable {router : Router} {context : RouteContext} {overrides : Overrides} {scan : Scan} {P : Params}
  {statement : Statement}

theorem sharded_eq_false {setting : Setting} {reference : Reference}
    (h : ∀ schema table, reference.logical? setting.options.defaultSchema = some (schema, table) →
      setting.engine.config setting.context schema table = none ∨
        setting.engine.config setting.context schema table = some .unsharded) :
    reference.sharded setting = false := by
  unfold Reference.sharded RuleEngine.shardKey?
  split
  · rename_i schema table hlogical
    rcases h schema table hlogical with hnone | hnone <;> rw [hnone] <;> rfl
  · rfl

/-- A statement none of whose walked references the engine shards is routed to itself: no schema, no table and no
    question to the engine comes of it, and all parameters pass it later. -/
theorem unsharded_passes
    (h : ∀ reference ∈ statement.references [], reference.walked = true →
      ∀ schema table, reference.logical? router.options.defaultSchema = some (schema, table) →
        router.engine.config context schema table = none ∨
          router.engine.config context schema table = some .unsharded) :
    Router.routeStatement (router.setting context overrides scan P) statement =
        { result := .ok { statement, schemas := [], tables := [] }, events := [] } ∧
      ∀ sql Q context', router.validate sql { statement, schemas := [], tables := [] } Q context' =
        { result := .ok (), events := if Q.isEmpty then [] else [.validated sql 0] } := by
  have hunsharded : Unsharded (router.setting context overrides scan P) (statement.references []) := by
    intro reference hreference
    unfold Reference.bound
    cases hwalked : reference.walked with
    | false => rfl
    | true => exact sharded_eq_false (h reference hreference hwalked)
  refine ⟨?_, fun sql Q context' => ?_⟩
  · have hwalk := Walk.walkStatement_still statement [] 0 hunsharded {} rfl
    unfold Router.routeStatement Outcome.ofWalk EStateM.run
    rw [hwalk]
    rfl
  · unfold Router.validate Walk.validate
    cases Q.isEmpty <;> rfl

/-- `SELECT total FROM audit WHERE NOT id BETWEEN 9 AND 4`. -/
def Sample.unsharded : Statement :=
  .query (query (.select (select [.table [⟨"audit", none⟩] [] none []]
    (.not (.between id false (literal "9") (literal "4"))))))

theorem unsharded_passes_audit :
    (∀ reference ∈ Sample.unsharded.references [], reference.walked = true →
      ∀ schema table, reference.logical? Sample.router.options.defaultSchema = some (schema, table) →
        Sample.engine.config [] schema table = none ∨ Sample.engine.config [] schema table = some .unsharded) ∧
    Router.routeStatement (Sample.under [(.index 1, .int 6)]) Sample.unsharded =
        { result := .ok { statement := Sample.unsharded, schemas := [], tables := [] }, events := [] } ∧
      ∀ sql Q context', Sample.router.validate sql { statement := Sample.unsharded, schemas := [], tables := [] } Q
        context' = { result := .ok (), events := if Q.isEmpty then [] else [.validated sql 0] } := by
  have h : ∀ reference ∈ Sample.unsharded.references [], reference.walked = true →
      ∀ schema table, reference.logical? Sample.router.options.defaultSchema = some (schema, table) →
        Sample.engine.config [] schema table = none ∨ Sample.engine.config [] schema table = some .unsharded := by
    intro reference hreference _ schema table hlogical
    obtain rfl : reference = { name := [⟨"audit", none⟩] } := List.mem_singleton.mp hreference
    cases hlogical
    exact .inl rfl
  exact ⟨h, unsharded_passes h⟩

end ShardRouting
