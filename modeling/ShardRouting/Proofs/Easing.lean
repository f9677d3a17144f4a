import ShardRouting.Proofs.Negation

/-! Eased conditions. In the conditions of a statement, a `NOT` may be taken away that stands around no predicate on
    the key of a table in its scope, whatever stands in the queries inside. -/

namespace ShardRouting
open Sql

/-! ### Conditions with fewer negations -/

/-- No values are told of a table by these predicates. -/
def Quieted (setting : Setting) (sites : List Site) (occurrences : List Occurrence) : Prop :=
  ∀ o ∈ occurrences, o.valued = true → ¬o.column.Resolves setting sites

/-- No values are told of a table in the block of the expression. -/
def Sql.Expr.Silent (setting : Setting) (sites : List Site) (e : Expr) : Prop :=
  Quieted setting sites (e.occurrences 0)

/-- A condition, and the same without some `NOT` that stand around silent expressions and are reached through `AND`,
    `OR`, `NOT` and parentheses only. -/
inductive Sql.Expr.Eased (setting : Setting) (sites : List Site) : Expr → Expr → Prop
  | kept (e : Expr) : Eased setting sites e e
  | and {left left' right right' : Expr} (hleft : Eased setting sites left left')
    (hright : Eased setting sites right right') :
    Eased setting sites (.binary left .and right) (.binary left' .and right')
  | or {left left' right right' : Expr} (hleft : Eased setting sites left left')
    (hright : Eased setting sites right right') :
    Eased setting sites (.binary left .or right) (.binary left' .or right')
  | nested {e e' : Expr} (h : Eased setting sites e e') : Eased setting sites (.nested e) (.nested e')
  | not {e e' : Expr} (h : Eased setting sites e e') : Eased setting sites (.not e) (.not e')
  | freed {e e' : Expr} (hsilent : e.Silent setting sites) (h : Eased setting sites e e') :
    Eased setting sites (.not e) e'

namespace Sql

/-- An easing says for every place of a tree what becomes of the condition there, when the tables of its scope are
    named at these sites. The operands of forms and calls, like the condition of a `FILTER`, count as conditions too.
    Places are numbered as in alterations. -/
structure Easing where
  condition : List Nat → List Site → Expr → Expr
  /-- The tables of the scope around. -/
  sites : List Site := []
  /-- Whether a walk comes here. -/
  walked : Bool := true

namespace Easing

/-- What becomes of a child. -/
def into (ease : Easing) (i : Nat) : Easing := { ease with condition := fun place => ease.condition (i :: place) }

/-- What becomes of a child that no walk reaches, where no table is bound. -/
def beside (ease : Easing) (i : Nat) : Easing := { ease.into i with sites := [], walked := false }

/-- What becomes of what stands in a scope. -/
def within (ease : Easing) (sites : List Site) : Easing := { ease with sites := if ease.walked then sites else [] }

/-- What becomes of a condition, once the queries inside are eased. -/
def root (ease : Easing) (e : Expr) : Expr := ease.condition [] ease.sites e

/-- What becomes of the clauses behind a body. -/
def behind (ease : Easing) : Body → Easing
  | .select select => ease.within (Factor.sites 0 (factors select.from_))
  | _ => ease

end Easing

mutual

def Expr.eased (ease : Easing) : Expr → Expr
  | .ident name => .ident name
  | .column parts => .column parts
  | .literal value => .literal value
  | .typed type value => .typed type value
  | .nested operand => .nested (operand.eased (ease.into 0))
  | .not operand => .not (operand.eased (ease.into 0))
  | .sign negative operand => .sign negative (operand.eased (ease.into 0))
  | .binary left op right => .binary (left.eased (ease.into 0)) op (right.eased (ease.into 1))
  | .inList left negated items => .inList (left.eased (ease.into 0)) negated (Expr.easedAll (ease.into 1) items)
  | .between left negated low high =>
    .between (left.eased (ease.into 0)) negated (low.eased (ease.into 1)) (high.eased (ease.into 2))
  | .test left negated kind right => .test (left.eased (ease.into 0)) negated kind (right.eased (ease.into 1))
  | .isNull operand => .isNull (operand.eased (ease.into 0))
  | .subquery query => .subquery (query.eased (ease.into 0))
  | .trim side what subject => .trim side (what.eased (ease.into 0)) (subject.eased (ease.into 1))
  | .call name pieces => .call name (Piece.easedAll (ease.into 0) pieces)
  | .form pieces => .form (Piece.easedAll (ease.into 0) pieces)

def Expr.easedAll (ease : Easing) : List Expr → List Expr
  | [] => []
  | e :: es => e.eased (ease.into 0) :: Expr.easedAll (ease.into 1) es

def Expr.easedOptional (ease : Easing) : Option Expr → Option Expr
  | none => none
  | some e => some (e.eased ease)

def Expr.easedCondition (ease : Easing) : Option Expr → Option Expr
  | none => none
  | some e => some (ease.root (e.eased (ease.into 0)))

def Expr.easedRows (ease : Easing) : List (List Expr) → List (List Expr)
  | [] => []
  | row :: rows => Expr.easedAll (ease.into 0) row :: Expr.easedRows (ease.into 1) rows

def Piece.eased (ease : Easing) : Piece → Piece
  | .words text => .words text
  | .part operand => .part (ease.root (operand.eased (ease.into 0)))
  | .aside operand => .aside ((ease.beside 0).root (operand.eased ((ease.beside 0).into 0)))

def Piece.easedAll (ease : Easing) : List Piece → List Piece
  | [] => []
  | piece :: pieces => piece.eased (ease.into 0) :: Piece.easedAll (ease.into 1) pieces

def Query.eased (ease : Easing) : Query → Query
  | { recursive, ctes, body, orderBy, limit, offset, limitBy, settings, fetch, ending } =>
    let behind := ease.behind body
    { recursive
      ctes := Cte.easedAll (ease.into 0) ctes
      body := body.eased (ease.into 1)
      orderBy := Expr.easedAll (behind.into 2) orderBy
      limit := Expr.easedOptional (behind.into 3) limit
      offset := Expr.easedOptional (behind.into 4) offset
      limitBy := Expr.easedAll (behind.into 5) limitBy
      settings := Piece.easedAll (ease.beside 6) settings
      fetch := Expr.easedOptional (behind.into 7) fetch
      ending := Piece.easedAll (ease.beside 8) ending }

def Cte.eased (ease : Easing) : Cte → Cte
  | { alias_, keyword, query, source } => { alias_, keyword, query := query.eased (ease.into 0), source }

def Cte.easedAll (ease : Easing) : List Cte → List Cte
  | [] => []
  | cte :: ctes => cte.eased (ease.into 0) :: Cte.easedAll (ease.into 1) ctes

def Body.eased (ease : Easing) : Body → Body
  | .select select => .select (select.eased (ease.into 0))
  | .query query => .query (query.eased (ease.into 0))
  | .setOperation left words right => .setOperation (left.eased (ease.into 0)) words (right.eased (ease.into 1))
  | .values explicitRow rows => .values explicitRow (Expr.easedRows (ease.into 0) rows)
  | .table schema name => .table schema name
  | .statement statement => .statement (statement.eased (ease.into 0))

def Select.eased (around : Easing) : Select → Select
  | { head, projection, into, from_, views, prewhere, selection, groupBy, groupTail, clusterBy,
      distributeBy, sortBy, having, windowsBefore, qualify, windowsAfter, connectBy } =>
    let ease := around.within (Factor.sites 0 (factors from_))
    { head := Piece.easedAll (ease.beside 0) head
      projection := Expr.easedAll (ease.into 1) projection
      into := Piece.easedAll (ease.beside 2) into
      from_ := TableRef.easedAll (ease.into 3) from_
      views := Piece.easedAll (ease.beside 4) views
      prewhere := Expr.easedCondition (ease.into 5) prewhere
      selection := Expr.easedCondition (ease.into 6) selection
      groupBy := Expr.easedAll (ease.into 7) groupBy
      groupTail := Piece.easedAll (ease.beside 8) groupTail
      clusterBy := Expr.easedAll (ease.into 9) clusterBy
      distributeBy := Expr.easedAll (ease.into 10) distributeBy
      sortBy := Expr.easedAll (ease.into 11) sortBy
      having := Expr.easedCondition (ease.into 12) having
      windowsBefore := Piece.easedAll (ease.beside 13) windowsBefore
      qualify := Expr.easedCondition (ease.into 14) qualify
      windowsAfter := Piece.easedAll (ease.beside 15) windowsAfter
      connectBy := Piece.easedAll (ease.beside 16) connectBy }

def TableRef.eased (ease : Easing) : TableRef → TableRef
  | .table name arguments alias_ hints =>
    .table name (Piece.easedAll (ease.beside 0) arguments) alias_ (Piece.easedAll (ease.beside 1) hints)
  | .derived lateral query alias_ => .derived lateral (query.eased (ease.into 0)) alias_
  | .nested inner alias_ => .nested (inner.eased (ease.into 0)) alias_
  | .join left words right matching on using_ =>
    .join (left.eased (ease.into 0)) words (right.eased (ease.into 1)) (Expr.easedCondition (ease.into 2) matching)
      (Expr.easedCondition (ease.into 3) on) using_
  | .turned source pieces alias_ =>
    .turned (source.eased (ease.beside 0)) (Piece.easedAll (ease.beside 1) pieces) alias_
  | .other pieces alias_ trailer => .other (Piece.easedAll (ease.beside 0) pieces) alias_ trailer

def TableRef.easedAll (ease : Easing) : List TableRef → List TableRef
  | [] => []
  | table :: tables => table.eased (ease.into 0) :: TableRef.easedAll (ease.into 1) tables

def TableRef.easedOptional (ease : Easing) : Option (List TableRef) → Option (List TableRef)
  | none => none
  | some tables => some (TableRef.easedAll ease tables)

def Query.easedOptional (ease : Easing) : Option Query → Option Query
  | none => none
  | some query => some (query.eased ease)

def Insert.eased (around : Easing) : Insert → Insert
  | { head, target, alias_, columns, middle, source, trailer } =>
    let ease := around.within [⟨.target, target, none⟩]
    { head
      target
      alias_
      columns
      middle := Piece.easedAll (ease.beside 0) middle
      source := Query.easedOptional (ease.into 1) source
      trailer := Piece.easedAll (ease.beside 2) trailer }

def Update.eased (around : Easing) : Update → Update
  | { conflict, table, fromBefore, assignments, fromAfter, selection, returning } =>
    let ease := around.within (Factor.sites 0 (tableFactors table))
    { conflict
      table := table.eased (ease.into 0)
      fromBefore := TableRef.easedAll (ease.beside 1) fromBefore
      assignments := Expr.easedAll (ease.into 2) assignments
      fromAfter := TableRef.easedAll (ease.beside 3) fromAfter
      selection := Expr.easedCondition (ease.into 4) selection
      returning := Piece.easedAll (ease.beside 5) returning }

def Delete.eased (around : Easing) : Delete → Delete
  | { targets, fromKeyword, from_, using_, selection, returning, orderBy, limit } =>
    let ease := around.within (Factor.sites 0 (factors from_ ++ factors (using_.getD [])))
    { targets
      fromKeyword
      from_ := TableRef.easedAll (ease.into 0) from_
      using_ := TableRef.easedOptional (ease.into 1) using_
      selection := Expr.easedCondition (ease.into 2) selection
      returning := Piece.easedAll (ease.beside 3) returning
      orderBy := Expr.easedAll (ease.into 4) orderBy
      limit := Expr.easedOptional (ease.into 5) limit }

/-- A statement with eased conditions. -/
def Statement.eased (ease : Easing) : Statement → Statement
  | .query query => .query (query.eased (ease.into 0))
  | .insert insert => .insert (insert.eased (ease.into 0))
  | .update update => .update (update.eased (ease.into 0))
  | .delete delete => .delete (delete.eased (ease.into 0))
  | .other => .other

end

end Sql

end ShardRouting
