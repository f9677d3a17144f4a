import ShardRouting.Proofs.Scopes

/-! The table references of a statement. Every place that names a table is listed, in the order in which the
    scopes close: what stands inside a scope comes before the tables of that scope. A reference is walked
    when the walk comes to it and binds it. The walk passes over all that is only printed. -/

namespace ShardRouting
namespace Sql

structure Reference where
  name : ObjectName
  /-- The walk binds it if the engine shards its table. -/
  walked : Bool := true
  /-- It need not be routed: it names a common table, or is a table behind the assignments of an update. -/
  spared : Bool := false
  deriving DecidableEq, Repr

/-- The names that a list of references holds. -/
def namesOf (references : List Reference) : List ObjectName := references.map Reference.name

theorem namesOf_append (references rest : List Reference) :
    namesOf (references ++ rest) = namesOf references ++ namesOf rest := List.map_append

/-- References that the walk passes over. -/
def aside (references : List Reference) : List Reference :=
  references.map fun reference => { reference with walked := false }

/-- A name of one part means the common table of that name, if there is one. -/
def namesCommon (common : List Ident) : ObjectName → Bool
  | [name] => common.any fun other => Text.sameAscii other.value name.value
  | _ => false

def Reference.ofName (common : List Ident) (name : ObjectName) : Reference :=
  { name, spared := namesCommon common name }

def Factor.reference (common : List Ident) (factor : Factor) : Reference := .ofName common factor.name

theorem namesOf_factors (common : List Ident) (fs : List Factor) :
    namesOf (fs.map (Factor.reference common)) = fs.map Factor.name := List.map_map

def Cte.names (ctes : List Cte) : List Ident := ctes.map fun cte => cte.alias_.name

mutual

/-- The references inside an expression; `common` are the names of the common tables around it. -/
def Expr.references (common : List Ident) : Expr → List Reference
  | .ident _ => []
  | .column _ => []
  | .literal _ => []
  | .typed _ _ => []
  | .nested operand => operand.references common
  | .not operand => operand.references common
  | .sign _ operand => operand.references common
  | .binary left _ right => left.references common ++ right.references common
  | .inList left _ items => left.references common ++ Expr.allReferences common items
  | .between left _ low high =>
    left.references common ++ (low.references common ++ high.references common)
  | .test left _ _ right => left.references common ++ right.references common
  | .isNull operand => operand.references common
  | .subquery query => query.references common
  | .trim _ what subject => subject.references common ++ what.references common
  | .call _ pieces => Piece.allReferences common pieces
  | .form pieces => Piece.allReferences common pieces

def Expr.allReferences (common : List Ident) : List Expr → List Reference
  | [] => []
  | e :: es => e.references common ++ Expr.allReferences common es

def Expr.optionalReferences (common : List Ident) : Option Expr → List Reference
  | none => []
  | some e => e.references common

def Expr.rowReferences (common : List Ident) : List (List Expr) → List Reference
  | [] => []
  | row :: rows => Expr.allReferences common row ++ Expr.rowReferences common rows

def Piece.allReferences (common : List Ident) : List Piece → List Reference
  | [] => []
  | piece :: pieces => piece.references common ++ Piece.allReferences common pieces

def Piece.references (common : List Ident) : Piece → List Reference
  | .words _ => []
  | .part operand => operand.references common
  | .aside operand => aside (operand.references common)

/-- Common tables see those before them, and all of them if they are recursive. -/
def Query.references (common : List Ident) : Query → List Reference
  | { recursive, ctes, body, orderBy, limit, offset, limitBy, settings, fetch, ending } =>
    let inner := Cte.names ctes ++ common
    aside (Piece.allReferences inner settings ++ Piece.allReferences inner ending) ++
      (Cte.allReferences (if recursive then inner else common) ctes ++
        body.references inner (Expr.allReferences inner orderBy ++ (Expr.optionalReferences inner limit ++
          (Expr.allReferences inner limitBy ++ (Expr.optionalReferences inner offset ++
            Expr.optionalReferences inner fetch)))))

def Cte.references (common : List Ident) : Cte → List Reference
  | { alias_ := _, keyword := _, query, source := _ } => query.references common

def Cte.allReferences (common : List Ident) : List Cte → List Reference
  | [] => []
  | cte :: ctes => cte.references common ++ Cte.allReferences (cte.alias_.name :: common) ctes

/-- The references of a body; `tail` are those in the clauses behind it. -/
def Body.references (common : List Ident) (tail : List Reference) : Body → List Reference
  | .select select => select.references common tail
  | .query query => query.references common ++ tail
  | .setOperation left _ right => left.references common [] ++ (right.references common [] ++ tail)
  | .values _ rows => Expr.rowReferences common rows ++ tail
  | .table schema name =>
    aside [.ofName common (schema.toList.map ({ value := · }) ++ [{ value := name }])] ++ tail
  | .statement statement => statement.references common ++ tail

def Select.references (common : List Ident) (tail : List Reference) : Select → List Reference
  | { head, projection, into, from_, views, prewhere, selection, groupBy, groupTail, clusterBy,
      distributeBy, sortBy, having, windowsBefore, qualify, windowsAfter, connectBy } =>
    aside (Piece.allReferences common head ++ Piece.allReferences common into ++
      Piece.allReferences common views ++ Piece.allReferences common groupTail ++
      Piece.allReferences common windowsBefore ++ Piece.allReferences common windowsAfter ++
      Piece.allReferences common connectBy) ++
    ((TableRef.allInner common from_ ++ (Expr.allReferences common projection ++
      (Expr.optionalReferences common prewhere ++ (Expr.optionalReferences common selection ++
      (Expr.allReferences common groupBy ++ (Expr.optionalReferences common having ++
      (Expr.optionalReferences common qualify ++ (Expr.allReferences common clusterBy ++
      (Expr.allReferences common distributeBy ++ (Expr.allReferences common sortBy ++ tail)))))))))) ++
    (factors from_).map (Factor.reference common))

/-- The references inside a table reference, without the tables of the scope that it belongs to. -/
def TableRef.inner (common : List Ident) : TableRef → List Reference
  | .table _ arguments _ hints => aside (Piece.allReferences common arguments ++ Piece.allReferences common hints)
  | .derived _ query _ => query.references common
  | .nested inner _ => inner.inner common
  | .join left _ right matching on _ =>
    left.inner common ++ (right.inner common ++
      (Expr.optionalReferences common matching ++ Expr.optionalReferences common on))
  | .turned source pieces _ =>
    aside (source.inner common ++ (tableFactors source).map (Factor.reference common) ++
      Piece.allReferences common pieces)
  | .other pieces _ _ => aside (Piece.allReferences common pieces)

def TableRef.allInner (common : List Ident) : List TableRef → List Reference
  | [] => []
  | table :: tables => table.inner common ++ TableRef.allInner common tables

def Insert.references (common : List Ident) : Insert → List Reference
  | { head := _, target, alias_ := _, columns := _, middle, source, trailer } =>
    aside (Piece.allReferences common middle ++ Piece.allReferences common trailer) ++
      ((match source with
        | some query => query.references common
        | none => []) ++ [{ name := target }])

def Update.references (common : List Ident) : Update → List Reference
  | { conflict := _, table, fromBefore, assignments, fromAfter, selection, returning } =>
    aside (TableRef.allInner common fromBefore ++ TableRef.allInner common fromAfter ++
      (factors fromBefore ++ factors fromAfter).map (fun factor => { name := factor.name, spared := true }) ++
      Piece.allReferences common returning) ++
    ((table.inner common ++ (Expr.allReferences common assignments ++
      Expr.optionalReferences common selection)) ++ (tableFactors table).map (Factor.reference common))

/-- The names in the list of a deletion are no references of their own: they repeat its tables. -/
def Delete.references (common : List Ident) : Delete → List Reference
  | { targets := _, fromKeyword := _, from_, using_, selection, returning, orderBy, limit } =>
    aside (Piece.allReferences common returning) ++
    ((TableRef.allInner common from_ ++ ((match using_ with
        | some tables => TableRef.allInner common tables
        | none => []) ++ (Expr.optionalReferences common selection ++
          (Expr.allReferences common orderBy ++ Expr.optionalReferences common limit)))) ++
      (factors from_ ++ factors (using_.getD [])).map (Factor.reference common))

def Statement.references (common : List Ident) : Statement → List Reference
  | .query query => query.references common
  | .insert insert => insert.references common
  | .update update => update.references common
  | .delete delete => delete.references common
  | .other => []

end

/-- The references of a selection that the walk passes over, but for what is inside its tables. -/
def Select.passed (common : List Ident) (select : Select) : List Reference :=
  Piece.allReferences common select.head ++ Piece.allReferences common select.into ++
    Piece.allReferences common select.views ++ Piece.allReferences common select.groupTail ++
    Piece.allReferences common select.windowsBefore ++ Piece.allReferences common select.windowsAfter ++
    Piece.allReferences common select.connectBy

/-- The references that stand in the scope of a selection, without its own tables. -/
def Select.inner (common : List Ident) (tail : List Reference) (select : Select) : List Reference :=
  TableRef.allInner common select.from_ ++ (Expr.allReferences common select.projection ++
    (Expr.optionalReferences common select.prewhere ++ (Expr.optionalReferences common select.selection ++
    (Expr.allReferences common select.groupBy ++ (Expr.optionalReferences common select.having ++
    (Expr.optionalReferences common select.qualify ++ (Expr.allReferences common select.clusterBy ++
    (Expr.allReferences common select.distributeBy ++ (Expr.allReferences common select.sortBy ++ tail)))))))))

theorem Select.references_eq (common : List Ident) (tail : List Reference) (select : Select) :
    select.references common tail = aside (select.passed common) ++
      (select.inner common tail ++ (factors select.from_).map (Factor.reference common)) := by
  cases select
  rfl

/-- The references that stand in the scope of a deletion, without its own tables. -/
def Delete.inner (common : List Ident) (from_ : List TableRef) (using_ : Option (List TableRef))
    (selection : Option Expr) (orderBy : List Expr) (limit : Option Expr) : List Reference :=
  TableRef.allInner common from_ ++ (using_.elim [] (TableRef.allInner common) ++
    (Expr.optionalReferences common selection ++ (Expr.allReferences common orderBy ++
      Expr.optionalReferences common limit)))

end Sql
end ShardRouting
