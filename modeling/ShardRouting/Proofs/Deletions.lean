import ShardRouting.Proofs.Blocks

/-! The deletions of a statement at any depth. Each stands in a scope of its own, and placing a tree places its
    deletions one by one. -/

namespace ShardRouting
open Sql Walk

namespace Sql

/-- The numbered tables of a deletion. -/
def Delete.tables (delete : Delete) : List Factor := factors delete.from_ ++ factors (delete.using_.getD [])

mutual

/-- The deletions that the walk comes to. -/
def Expr.deletes : Expr → List Delete
  | .ident _ => []
  | .column _ => []
  | .literal _ => []
  | .typed _ _ => []
  | .nested operand => operand.deletes
  | .not operand => operand.deletes
  | .sign _ operand => operand.deletes
  | .binary left _ right => left.deletes ++ right.deletes
  | .inList left _ items => left.deletes ++ Expr.allDeletes items
  | .between left _ low high => left.deletes ++ (low.deletes ++ high.deletes)
  | .test left _ _ right => left.deletes ++ right.deletes
  | .isNull operand => operand.deletes
  | .subquery query => query.deletes
  | .trim _ what subject => subject.deletes ++ what.deletes
  | .call _ pieces => Piece.allDeletes pieces
  | .form pieces => Piece.allDeletes pieces

def Expr.allDeletes : List Expr → List Delete
  | [] => []
  | e :: es => e.deletes ++ Expr.allDeletes es

def Expr.optionalDeletes : Option Expr → List Delete
  | none => []
  | some e => e.deletes

def Expr.rowDeletes : List (List Expr) → List Delete
  | [] => []
  | row :: rows => Expr.allDeletes row ++ Expr.rowDeletes rows

def Piece.allDeletes : List Piece → List Delete
  | [] => []
  | piece :: pieces => piece.deletes ++ Piece.allDeletes pieces

def Piece.deletes : Piece → List Delete
  | .words _ => []
  | .part operand => operand.deletes
  | .aside _ => []

def Query.deletes : Query → List Delete
  | { recursive := _, ctes, body, orderBy, limit, offset, limitBy, settings := _, fetch, ending := _ } =>
    Cte.allDeletes ctes ++ body.deletes (Expr.allDeletes orderBy ++ (Expr.optionalDeletes limit ++
      (Expr.allDeletes limitBy ++ (Expr.optionalDeletes offset ++ Expr.optionalDeletes fetch))))

def Cte.deletes : Cte → List Delete
  | { alias_ := _, keyword := _, query, source := _ } => query.deletes

def Cte.allDeletes : List Cte → List Delete
  | [] => []
  | cte :: ctes => cte.deletes ++ Cte.allDeletes ctes

/-- The deletions of a body; `tail` are those in the clauses behind it. -/
def Body.deletes (tail : List Delete) : Body → List Delete
  | .select select => select.deletes tail
  | .query query => query.deletes ++ tail
  | .setOperation left _ right => left.deletes [] ++ (right.deletes [] ++ tail)
  | .values _ rows => Expr.rowDeletes rows ++ tail
  | .table _ _ => tail
  | .statement statement => statement.deletes ++ tail

def Select.deletes (tail : List Delete) : Select → List Delete
  | { head := _, projection, into := _, from_, views := _, prewhere, selection, groupBy, groupTail := _,
      clusterBy, distributeBy, sortBy, having, windowsBefore := _, qualify, windowsAfter := _,
      connectBy := _ } =>
    TableRef.allDeletes from_ ++ (Expr.allDeletes projection ++ (Expr.optionalDeletes prewhere ++
      (Expr.optionalDeletes selection ++ (Expr.allDeletes groupBy ++ (Expr.optionalDeletes having ++
      (Expr.optionalDeletes qualify ++ (Expr.allDeletes clusterBy ++ (Expr.allDeletes distributeBy ++
      (Expr.allDeletes sortBy ++ tail)))))))))

def TableRef.deletes : TableRef → List Delete
  | .table .. => []
  | .derived _ query _ => query.deletes
  | .nested inner _ => inner.deletes
  | .join left _ right matching on _ =>
    left.deletes ++ (right.deletes ++ (Expr.optionalDeletes matching ++ Expr.optionalDeletes on))
  | .turned .. => []
  | .other .. => []

def TableRef.allDeletes : List TableRef → List Delete
  | [] => []
  | table :: tables => table.deletes ++ TableRef.allDeletes tables

def TableRef.optionalDeletes : Option (List TableRef) → List Delete
  | none => []
  | some tables => TableRef.allDeletes tables

def Query.optionalDeletes : Option Query → List Delete
  | none => []
  | some query => query.deletes

def Insert.deletes : Insert → List Delete
  | { head := _, target := _, alias_ := _, columns := _, middle := _, source, trailer := _ } =>
    Query.optionalDeletes source

def Update.deletes : Update → List Delete
  | { conflict := _, table, fromBefore := _, assignments, fromAfter := _, selection, returning := _ } =>
    table.deletes ++ (Expr.allDeletes assignments ++ Expr.optionalDeletes selection)

/-- A deletion comes before those inside it. -/
def Delete.deletes : Delete → List Delete
  | { targets, fromKeyword, from_, using_, selection, returning, orderBy, limit } =>
    { targets, fromKeyword, from_, using_, selection, returning, orderBy, limit } ::
      (TableRef.allDeletes from_ ++ (TableRef.optionalDeletes using_ ++ (Expr.optionalDeletes selection ++
        (Expr.allDeletes orderBy ++ Expr.optionalDeletes limit))))

def Statement.deletes : Statement → List Delete
  | .query query => query.deletes
  | .insert insert => insert.deletes
  | .update update => update.deletes
  | .delete delete => delete.deletes
  | .other => []

end

end Sql

/-- The scope of a deletion. -/
def Sql.Delete.block (delete : Delete) : Block := ⟨false, Factor.sites 0 delete.tables, Step.inside delete.steps⟩

theorem Sql.Delete.mem_blocks (delete : Delete) : delete.block ∈ Step.allBlocks delete.steps := by
  rw [Sql.Delete.steps_eq]
  exact List.mem_cons_self

variable {setting : Setting}

/-! ### Deletions of a placed tree -/

/-- Deletions that stand in scopes of a script, and the same deletions placed. -/
structure Culled (setting : Setting) (steps : List Step) (deletes placed : List Delete) : Prop where
  blocks : ∀ delete ∈ deletes, delete.block ∈ Step.allBlocks steps
  placed : placed = deletes.map (Delete.placed setting)

namespace Culled

variable {steps rest : List Step} {deletes placed others others' : List Delete}

theorem nil : Culled setting steps [] [] := ⟨nofun, rfl⟩

theorem append (h : Culled setting steps deletes placed) (h' : Culled setting rest others others') :
    Culled setting (steps ++ rest) (deletes ++ others) (placed ++ others') where
  blocks := by
    rw [Step.allBlocks_append]
    exact List.forall_mem_append.mpr ⟨fun delete hdelete => List.mem_append_left _ (h.blocks delete hdelete),
      fun delete hdelete => List.mem_append_right _ (h'.blocks delete hdelete)⟩
  placed := by rw [h.placed, h'.placed, List.map_append]

/-- Whatever is said before. -/
theorem first {own : List Step} (h : Culled setting steps deletes placed) :
    Culled setting (own ++ steps) deletes placed :=
  nil.append h

theorem scope {aliases : Bool} {sites : List Site} (h : Culled setting steps deletes placed) :
    Culled setting [.scope aliases sites steps] deletes placed where
  blocks delete hdelete := List.mem_append_left _ (List.mem_cons_of_mem _ (h.blocks delete hdelete))
  placed := h.placed

/-- A deletion stands in its own scope, before those inside it. -/
theorem delete {delete : Delete} (h : Culled setting (Step.inside delete.steps) deletes placed) :
    Culled setting delete.steps (delete :: deletes) (delete.placed setting :: placed) where
  blocks := by
    refine List.forall_mem_cons.mpr ⟨delete.mem_blocks, fun other hother => ?_⟩
    rw [Sql.Delete.steps_eq]
    exact h.scope.blocks other hother
  placed := by rw [h.placed, List.map_cons]

end Culled

theorem deletes_moved (naming : Naming) (home : Factor → Option Destination) (aliases : Bool) :
    ∀ table : TableRef, (table.moved naming home aliases).deletes = table.deletes
  | .table name _ alias_ _ => by
    rw [TableRef.moved]
    cases home ⟨name, alias_⟩ <;> rfl
  | .nested inner _ => deletes_moved naming home aliases inner
  | .join left _ right _ _ _ => by
    simp only [TableRef.moved, TableRef.deletes, deletes_moved naming home aliases left,
      deletes_moved naming home aliases right]
  | .derived .. => rfl
  | .turned .. => rfl
  | .other .. => rfl

theorem allDeletes_moved (naming : Naming) (home : Factor → Option Destination) (aliases : Bool)
    (tables : List TableRef) :
    TableRef.allDeletes (tables.map (TableRef.moved naming home aliases)) = TableRef.allDeletes tables := by
  induction tables with
  | nil => rfl
  | cons table tables ih => rw [List.map_cons, TableRef.allDeletes, TableRef.allDeletes, deletes_moved, ih]

theorem optionalDeletes_moved (naming : Naming) (home : Factor → Option Destination) (aliases : Bool)
    (tables : Option (List TableRef)) :
    TableRef.optionalDeletes (tables.map (List.map (TableRef.moved naming home aliases))) =
      TableRef.optionalDeletes tables := by
  cases tables with
  | none => rfl
  | some tables => exact allDeletes_moved naming home aliases tables

mutual

theorem Expr.culled : ∀ (e : Expr) (underNot : Bool),
    Culled setting (e.steps underNot) e.deletes (e.placed setting).deletes
  | .ident _, _ => .nil
  | .column _, _ => .nil
  | .literal _, _ => .nil
  | .typed _ _, _ => .nil
  | .nested operand, underNot => Expr.culled operand underNot
  | .not operand, _ => Expr.culled operand true
  | .sign _ operand, underNot => Expr.culled operand underNot
  | .binary left _ right, underNot => .first ((Expr.culled left underNot).append (Expr.culled right underNot))
  | .inList left _ items, underNot => .first ((Expr.culled left underNot).append (Expr.culledAll items underNot))
  | .between left _ low high, underNot => .first ((Expr.culled left underNot).append
    ((Expr.culled low underNot).append (Expr.culled high underNot)))
  | .test left _ _ right, underNot => .first ((Expr.culled left underNot).append (Expr.culled right underNot))
  | .isNull operand, underNot => .first (Expr.culled operand underNot)
  | .subquery query, _ => Query.culled query
  | .trim _ what subject, underNot => (Expr.culled subject underNot).append (Expr.culled what underNot)
  | .call _ pieces, underNot => Piece.culledAll pieces underNot
  | .form pieces, underNot => Piece.culledAll pieces underNot

theorem Expr.culledAll : ∀ (es : List Expr) (underNot : Bool),
    Culled setting (Expr.allSteps underNot es) (Expr.allDeletes es) (Expr.allDeletes (Expr.placedAll setting es))
  | [], _ => .nil
  | e :: es, underNot => (Expr.culled e underNot).append (Expr.culledAll es underNot)

theorem Expr.culledOptional : ∀ (e : Option Expr) (underNot : Bool),
    Culled setting (Expr.optionalSteps underNot e) (Expr.optionalDeletes e)
      (Expr.optionalDeletes (Expr.placedOptional setting e))
  | none, _ => .nil
  | some e, underNot => Expr.culled e underNot

theorem Expr.culledRows : ∀ rows : List (List Expr),
    Culled setting (Expr.rowSteps rows) (Expr.rowDeletes rows) (Expr.rowDeletes (Expr.placedRows setting rows))
  | [] => .nil
  | row :: rows => (Expr.culledAll row false).append (Expr.culledRows rows)

theorem Piece.culledAll : ∀ (pieces : List Piece) (underNot : Bool),
    Culled setting (Piece.allSteps underNot pieces) (Piece.allDeletes pieces)
      (Piece.allDeletes (Piece.placedAll setting pieces))
  | [], _ => .nil
  | piece :: pieces, underNot => (Piece.culled piece underNot).append (Piece.culledAll pieces underNot)

theorem Piece.culled : ∀ (piece : Piece) (underNot : Bool),
    Culled setting (piece.steps underNot) piece.deletes (piece.placed setting).deletes
  | .words _, _ => .nil
  | .part operand, underNot => Expr.culled operand underNot
  | .aside _, _ => .nil

theorem Query.culled : ∀ query : Query, Culled setting query.steps query.deletes (query.placed setting).deletes
  | { recursive := _, ctes, body, orderBy, limit, offset, limitBy, settings := _, fetch, ending := _ } =>
    (Cte.culledAll ctes).append (Body.culled body ((Expr.culledAll orderBy false).append
      ((Expr.culledOptional limit false).append ((Expr.culledAll limitBy false).append
        ((Expr.culledOptional offset false).append (Expr.culledOptional fetch false))))))

theorem Cte.culled : ∀ cte : Cte, Culled setting cte.steps cte.deletes (cte.placed setting).deletes
  | { alias_ := _, keyword := _, query, source := _ } => Query.culled query

theorem Cte.culledAll : ∀ ctes : List Cte,
    Culled setting (Cte.allSteps ctes) (Cte.allDeletes ctes) (Cte.allDeletes (Cte.placedAll setting ctes))
  | [] => .nil
  | cte :: ctes => (Cte.culled cte).append (Cte.culledAll ctes)

theorem Body.culled : ∀ (body : Body) {tail : List Step} {deletes placed : List Delete},
    Culled setting tail deletes placed →
      Culled setting (body.steps tail) (body.deletes deletes) ((body.placed setting tail).deletes placed)
  | .select select, _, _, _, htail => Select.culled select htail
  | .query query, _, _, _, htail => (Query.culled query).append htail
  | .setOperation left _ right, _, _, _, htail =>
    (Body.culled left .nil).append ((Body.culled right .nil).append htail)
  | .values _ rows, _, _, _, htail => (Expr.culledRows rows).append htail
  | .table _ _, _, _, _, htail => htail
  | .statement statement, _, _, _, htail => (Statement.culled statement).append htail

theorem Select.culled : ∀ (select : Select) {tail : List Step} {deletes placed : List Delete},
    Culled setting tail deletes placed →
      Culled setting (select.steps tail) (select.deletes deletes) ((select.placed setting tail).deletes placed)
  | { head := _, projection, into := _, from_, views := _, prewhere, selection, groupBy, groupTail := _,
      clusterBy, distributeBy, sortBy, having, windowsBefore := _, qualify, windowsAfter := _,
      connectBy := _ }, _, _, _, htail => by
    refine .scope ?_
    unfold Select.placed Select.deletes
    rw [allDeletes_moved]
    refine (TableRef.culledAll from_).append ((Expr.culledAll projection false).append ?_)
    refine (Expr.culledOptional prewhere false).append ((Expr.culledOptional selection false).append ?_)
    refine (Expr.culledAll groupBy false).append ((Expr.culledOptional having false).append ?_)
    refine (Expr.culledOptional qualify false).append ((Expr.culledAll clusterBy false).append ?_)
    exact (Expr.culledAll distributeBy false).append ((Expr.culledAll sortBy false).append htail)

theorem TableRef.culled : ∀ table : TableRef,
    Culled setting table.steps table.deletes (table.placed setting).deletes
  | .table .. => .nil
  | .derived _ query _ => Query.culled query
  | .nested inner _ => TableRef.culled inner
  | .join left _ right matching on _ => (TableRef.culled left).append ((TableRef.culled right).append
    ((Expr.culledOptional matching false).append (Expr.culledOptional on false)))
  | .turned .. => .nil
  | .other .. => .nil

theorem TableRef.culledAll : ∀ tables : List TableRef,
    Culled setting (TableRef.allSteps tables) (TableRef.allDeletes tables)
      (TableRef.allDeletes (TableRef.placedAll setting tables))
  | [] => .nil
  | table :: tables => (TableRef.culled table).append (TableRef.culledAll tables)

theorem Insert.culled : ∀ insert : Insert,
    Culled setting insert.steps insert.deletes (insert.placed setting).deletes
  | { head := _, target := _, alias_ := _, columns := _, middle := _, source := some query, trailer := _ } =>
    .scope (.first (Query.culled query))
  | { head := _, target := _, alias_ := _, columns := _, middle := _, source := none, trailer := _ } => .nil

theorem Update.culled : ∀ update : Update,
    Culled setting update.steps update.deletes (update.placed setting).deletes
  | { conflict := _, table, fromBefore := _, assignments, fromAfter := _, selection, returning := _ } => by
    refine .scope ?_
    unfold Update.placed Update.deletes
    rw [deletes_moved]
    exact (TableRef.culled table).append
      ((Expr.culledAll assignments false).append (Expr.culledOptional selection false))

theorem Delete.culled : ∀ delete : Delete,
    Culled setting delete.steps delete.deletes (delete.placed setting).deletes
  | { targets, fromKeyword, from_, using_ := some others, selection, returning, orderBy, limit } => by
    refine .delete ?_
    rw [allDeletes_moved, optionalDeletes_moved]
    refine (TableRef.culledAll from_).append (.append ?_ ((Expr.culledOptional selection false).append
      ((Expr.culledAll orderBy false).append (Expr.culledOptional limit false))))
    exact TableRef.culledAll others
  | { targets, fromKeyword, from_, using_ := none, selection, returning, orderBy, limit } => by
    refine .delete ?_
    rw [allDeletes_moved, optionalDeletes_moved]
    exact (TableRef.culledAll from_).append (Culled.nil.append ((Expr.culledOptional selection false).append
      ((Expr.culledAll orderBy false).append (Expr.culledOptional limit false))))

theorem Statement.culled : ∀ statement : Statement,
    Culled setting statement.steps statement.deletes (statement.placed setting).deletes
  | .query query => Query.culled query
  | .insert insert => Insert.culled insert
  | .update update => Update.culled update
  | .delete delete => Delete.culled delete
  | .other => .nil

end

/-- The deletions of a routed statement are those of the statement, each placed in its own scope. -/
theorem deletes_routed {statement : Statement} {routed : Routed}
    (h : (Router.routeStatement setting statement).result = .ok routed) :
    Culled setting statement.steps statement.deletes routed.statement.deletes := by
  rw [routeStatement_placed h]
  exact Statement.culled statement

theorem tables_placed (delete : Delete) : (delete.placed setting).tables =
    delete.tables.map (Factor.moved setting.naming (setting.home? (Step.inside delete.steps)) false) := by
  cases delete
  exact factors_listed _ _ _

end ShardRouting
