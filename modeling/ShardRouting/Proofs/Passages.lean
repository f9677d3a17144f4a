import ShardRouting.Proofs.Relocating

/-! The queries inside a statement. A passage is a query that the walk comes to, at any depth: subqueries of
    expressions, derived tables, common tables, the source of an insertion and the query of a statement itself.
    Passages stand in the order of the walk, an outer one before those inside it. A passage knows which references
    of the statement come before its own, so it knows which of the routed tables are its own. -/

namespace ShardRouting
namespace Sql

structure Passage where
  /-- The references of the statement that come before those of the query. -/
  before : List Reference
  /-- The names of the common tables around the query. -/
  common : List Ident
  query : Query

/-- The references of the query itself. -/
def Passage.references (passage : Passage) : List Reference := passage.query.references passage.common

/-- Passages with more references before them. -/
def behind (references : List Reference) (passages : List Passage) : List Passage :=
  passages.map fun passage => { passage with before := references ++ passage.before }

mutual

/-- The passages inside an expression; `common` are the names of the common tables around it. -/
def Expr.passages (common : List Ident) : Expr → List Passage
  | .ident _ => []
  | .column _ => []
  | .literal _ => []
  | .typed _ _ => []
  | .nested operand => operand.passages common
  | .not operand => operand.passages common
  | .sign _ operand => operand.passages common
  | .binary left _ right => left.passages common ++ behind (left.references common) (right.passages common)
  | .inList left _ items => left.passages common ++ behind (left.references common) (Expr.allPassages common items)
  | .between left _ low high =>
    left.passages common ++ behind (left.references common)
      (low.passages common ++ behind (low.references common) (high.passages common))
  | .test left _ _ right => left.passages common ++ behind (left.references common) (right.passages common)
  | .isNull operand => operand.passages common
  | .subquery query => query.passages common
  | .trim _ what subject => subject.passages common ++ behind (subject.references common) (what.passages common)
  | .call _ pieces => Piece.allPassages common pieces
  | .form pieces => Piece.allPassages common pieces

def Expr.allPassages (common : List Ident) : List Expr → List Passage
  | [] => []
  | e :: es => e.passages common ++ behind (e.references common) (Expr.allPassages common es)

def Expr.optionalPassages (common : List Ident) : Option Expr → List Passage
  | none => []
  | some e => e.passages common

def Expr.rowPassages (common : List Ident) : List (List Expr) → List Passage
  | [] => []
  | row :: rows => Expr.allPassages common row ++
    behind (Expr.allReferences common row) (Expr.rowPassages common rows)

def Piece.allPassages (common : List Ident) : List Piece → List Passage
  | [] => []
  | piece :: pieces => piece.passages common ++ behind (piece.references common) (Piece.allPassages common pieces)

/-- The walk passes over what is only printed. -/
def Piece.passages (common : List Ident) : Piece → List Passage
  | .words _ => []
  | .part operand => operand.passages common
  | .aside _ => []

def Query.passages (common : List Ident) : Query → List Passage
  | { recursive, ctes, body, orderBy, limit, offset, limitBy, settings, fetch, ending } =>
    let inner := Cte.names ctes ++ common
    let seen := if recursive then inner else common
    { before := [], common, query :=
        { recursive, ctes, body, orderBy, limit, offset, limitBy, settings, fetch, ending } } ::
      behind (aside (Piece.allReferences inner settings ++ Piece.allReferences inner ending))
        (Cte.allPassages seen ctes ++ behind (Cte.allReferences seen ctes)
          (body.passages inner
            (Expr.allPassages inner orderBy ++ behind (Expr.allReferences inner orderBy)
              (Expr.optionalPassages inner limit ++ behind (Expr.optionalReferences inner limit)
              (Expr.allPassages inner limitBy ++ behind (Expr.allReferences inner limitBy)
              (Expr.optionalPassages inner offset ++ behind (Expr.optionalReferences inner offset)
                (Expr.optionalPassages inner fetch)))))))

def Cte.passages (common : List Ident) : Cte → List Passage
  | { alias_ := _, keyword := _, query, source := _ } => query.passages common

def Cte.allPassages (common : List Ident) : List Cte → List Passage
  | [] => []
  | cte :: ctes => cte.passages common ++
    behind (cte.references common) (Cte.allPassages (cte.alias_.name :: common) ctes)

/-- The passages of a body; `tail` are those in the clauses behind it. -/
def Body.passages (common : List Ident) (tail : List Passage) : Body → List Passage
  | .select select => select.passages common tail
  | .query query => query.passages common ++ behind (query.references common) tail
  | .setOperation left _ right => left.passages common [] ++ behind (left.references common [])
    (right.passages common [] ++ behind (right.references common []) tail)
  | .values _ rows => Expr.rowPassages common rows ++ behind (Expr.rowReferences common rows) tail
  | .table schema name =>
    behind (aside [.ofName common (schema.toList.map ({ value := · }) ++ [{ value := name }])]) tail
  | .statement statement => statement.passages common ++ behind (statement.references common) tail

def Select.passages (common : List Ident) (tail : List Passage) : Select → List Passage
  | { head, projection, into, from_, views, prewhere, selection, groupBy, groupTail, clusterBy,
      distributeBy, sortBy, having, windowsBefore, qualify, windowsAfter, connectBy } =>
    behind (aside (Piece.allReferences common head ++ Piece.allReferences common into ++
        Piece.allReferences common views ++ Piece.allReferences common groupTail ++
        Piece.allReferences common windowsBefore ++ Piece.allReferences common windowsAfter ++
        Piece.allReferences common connectBy))
      (TableRef.allPassages common from_ ++ behind (TableRef.allInner common from_)
        (Expr.allPassages common projection ++ behind (Expr.allReferences common projection)
        (Expr.optionalPassages common prewhere ++ behind (Expr.optionalReferences common prewhere)
        (Expr.optionalPassages common selection ++ behind (Expr.optionalReferences common selection)
        (Expr.allPassages common groupBy ++ behind (Expr.allReferences common groupBy)
        (Expr.optionalPassages common having ++ behind (Expr.optionalReferences common having)
        (Expr.optionalPassages common qualify ++ behind (Expr.optionalReferences common qualify)
        (Expr.allPassages common clusterBy ++ behind (Expr.allReferences common clusterBy)
        (Expr.allPassages common distributeBy ++ behind (Expr.allReferences common distributeBy)
        (Expr.allPassages common sortBy ++ behind (Expr.allReferences common sortBy) tail))))))))))

def TableRef.passages (common : List Ident) : TableRef → List Passage
  | .table .. => []
  | .derived _ query _ => query.passages common
  | .nested inner _ => inner.passages common
  | .join left _ right matching on _ =>
    left.passages common ++ behind (left.inner common) (right.passages common ++ behind (right.inner common)
      (Expr.optionalPassages common matching ++
        behind (Expr.optionalReferences common matching) (Expr.optionalPassages common on)))
  | .turned .. => []
  | .other .. => []

def TableRef.allPassages (common : List Ident) : List TableRef → List Passage
  | [] => []
  | table :: tables => table.passages common ++ behind (table.inner common) (TableRef.allPassages common tables)

def Insert.passages (common : List Ident) : Insert → List Passage
  | { head := _, target := _, alias_ := _, columns := _, middle, source, trailer } =>
    behind (aside (Piece.allReferences common middle ++ Piece.allReferences common trailer)) <|
      match source with
      | some query => query.passages common
      | none => []

def Update.passages (common : List Ident) : Update → List Passage
  | { conflict := _, table, fromBefore, assignments, fromAfter, selection, returning } =>
    behind (aside (TableRef.allInner common fromBefore ++ TableRef.allInner common fromAfter ++
        (factors fromBefore ++ factors fromAfter).map (fun factor => { name := factor.name, spared := true }) ++
        Piece.allReferences common returning))
      (table.passages common ++ behind (table.inner common)
        (Expr.allPassages common assignments ++
          behind (Expr.allReferences common assignments) (Expr.optionalPassages common selection)))

def Delete.passages (common : List Ident) : Delete → List Passage
  | { targets := _, fromKeyword := _, from_, using_, selection, returning, orderBy, limit } =>
    behind (aside (Piece.allReferences common returning))
      (TableRef.allPassages common from_ ++ behind (TableRef.allInner common from_)
        ((match using_ with
          | some tables => TableRef.allPassages common tables
          | none => []) ++
        behind (match using_ with
          | some tables => TableRef.allInner common tables
          | none => [])
        (Expr.optionalPassages common selection ++ behind (Expr.optionalReferences common selection)
          (Expr.allPassages common orderBy ++
            behind (Expr.allReferences common orderBy) (Expr.optionalPassages common limit)))))

def Statement.passages (common : List Ident) : Statement → List Passage
  | .query query => query.passages common
  | .insert insert => insert.passages common
  | .update update => update.passages common
  | .delete delete => delete.passages common
  | .other => []

end

/-- The first passage of a query is the query itself. -/
theorem Query.passages_eq (common : List Ident) (query : Query) :
    query.passages common = { before := [], common, query } :: (query.passages common).tail := by
  cases query
  rfl

/-- The passages that stand in the scope of a selection. -/
def Select.inside (common : List Ident) (tail : List Passage) (select : Select) : List Passage :=
  TableRef.allPassages common select.from_ ++ behind (TableRef.allInner common select.from_)
    (Expr.allPassages common select.projection ++ behind (Expr.allReferences common select.projection)
    (Expr.optionalPassages common select.prewhere ++ behind (Expr.optionalReferences common select.prewhere)
    (Expr.optionalPassages common select.selection ++ behind (Expr.optionalReferences common select.selection)
    (Expr.allPassages common select.groupBy ++ behind (Expr.allReferences common select.groupBy)
    (Expr.optionalPassages common select.having ++ behind (Expr.optionalReferences common select.having)
    (Expr.optionalPassages common select.qualify ++ behind (Expr.optionalReferences common select.qualify)
    (Expr.allPassages common select.clusterBy ++ behind (Expr.allReferences common select.clusterBy)
    (Expr.allPassages common select.distributeBy ++ behind (Expr.allReferences common select.distributeBy)
    (Expr.allPassages common select.sortBy ++ behind (Expr.allReferences common select.sortBy) tail)))))))))

/-- The passages that stand in the scope of a deletion. -/
def Delete.inside (common : List Ident) (from_ : List TableRef) (using_ : Option (List TableRef))
    (selection : Option Expr) (orderBy : List Expr) (limit : Option Expr) : List Passage :=
  TableRef.allPassages common from_ ++ behind (TableRef.allInner common from_)
    (using_.elim [] (TableRef.allPassages common) ++ behind (using_.elim [] (TableRef.allInner common))
    (Expr.optionalPassages common selection ++ behind (Expr.optionalReferences common selection)
    (Expr.allPassages common orderBy ++
      behind (Expr.allReferences common orderBy) (Expr.optionalPassages common limit))))

end Sql
open Sql Walk

/-! ### Relocation -/

variable {defaultSchema : Option String} {relocations : List Relocation}

/-- Passages inside a table stay as they are when it is renamed. -/
theorem passages_relocateTable (common : List Ident) : ∀ (table : TableRef) (index : Nat),
    (relocateTable defaultSchema relocations index table).passages common = table.passages common
  | .table name arguments alias_ hints, index => by
    simp only [relocateTable]
    split <;> rfl
  | .nested inner alias_, index => passages_relocateTable common inner index
  | .join left words right matching on using_, index => by
    simp only [relocateTable, TableRef.passages, passages_relocateTable common left,
      passages_relocateTable common right, inner_relocateTable]
  | .derived .., _ => rfl
  | .turned .., _ => rfl
  | .other .., _ => rfl

theorem allPassages_relocateTables (common : List Ident) (tables : List TableRef) (index : Nat) :
    TableRef.allPassages common (relocateTables defaultSchema relocations index tables) =
      TableRef.allPassages common tables := by
  induction tables generalizing index with
  | nil => rfl
  | cons table tables ih =>
    simp only [relocateTables, TableRef.allPassages, passages_relocateTable, inner_relocateTable, ih]

theorem Sql.Select.passages_relocated (common : List Ident) (tail : List Passage) (select : Select) :
    Select.passages common tail
        { select with from_ := relocateTables defaultSchema relocations 0 select.from_ } =
      behind (aside (select.passed common)) (select.inside common tail) := by
  cases select
  simp only [Select.passages, Select.passed, Select.inside, allPassages_relocateTables, allInner_relocateTables]

theorem Sql.Delete.passages_relocated (common : List Ident) (targets : List ObjectName) (fromKeyword : Bool)
    (from_ : List TableRef) (using_ : Option (List TableRef)) (selection : Option Expr) (returning : List Piece)
    (orderBy : List Expr) (limit : Option Expr) (index : Nat) :
    Delete.passages common ⟨targets, fromKeyword, relocateTables defaultSchema relocations 0 from_,
        using_.map (relocateTables defaultSchema relocations index), selection, returning, orderBy, limit⟩ =
      behind (aside (Piece.allReferences common returning))
        (Delete.inside common from_ using_ selection orderBy limit) := by
  cases using_ with
  | none => simp only [Delete.passages, Delete.inside, Option.map_none, Option.elim, allPassages_relocateTables,
      allInner_relocateTables]
  | some tables => simp only [Delete.passages, Delete.inside, Option.map_some, Option.elim,
      allPassages_relocateTables, allInner_relocateTables]

end ShardRouting
