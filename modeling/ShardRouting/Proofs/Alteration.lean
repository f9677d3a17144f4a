import ShardRouting.Routing.Relocation
import Mathlib.Data.List.Perm.Basic

/-! Alterations of a tree. An alteration says for every place of a tree whether the sides of `AND` and `OR` change
    places there, how the tables of a selection are put in another order, what a placeholder gives way to, and how
    the tables that a walk may rename are spelled. A place is the way to a node by the numbers of the children
    that lead to it; the rest of a list is the second child of its first node. -/

namespace ShardRouting

/-! ### Orders -/

section
variable {α β : Type}

/-- Puts a list in another order: the first number says how many of the others, which are put in order before,
    come to stand in front of the first item. -/
def permute : List Nat → List α → List α
  | k :: order, a :: rest => (permute order rest).take k ++ a :: (permute order rest).drop k
  | [], rest => rest
  | _ :: _, [] => []

@[simp] theorem permute_nil (l : List α) : permute [] l = l := by
  cases l <;> rfl

theorem permute_perm : ∀ (order : List Nat) (l : List α), (permute order l).Perm l
  | [], l => by
    rw [permute_nil]
  | _ :: _, [] => .refl []
  | k :: order, a :: rest => by
    have hrest := permute_perm order rest
    have hsplit : ((permute order rest).take k ++ (permute order rest).drop k).Perm rest := by
      rwa [List.take_append_drop]
    exact List.perm_middle.trans (hsplit.cons a)

theorem permute_map (f : α → β) : ∀ (order : List Nat) (l : List α), permute order (l.map f) = (permute order l).map f
  | [], l => by
    rw [permute_nil, permute_nil]
  | _ :: _, [] => rfl
  | k :: order, a :: rest => by
    simp only [List.map_cons, permute, permute_map f order rest, List.map_append, List.map_take, List.map_drop]

/-- Every order of a list can be asked for. -/
theorem exists_permute {l m : List α} (h : l.Perm m) : ∃ order, permute order l = m := by
  induction l generalizing m with
  | nil => exact ⟨[], h.nil_eq⟩
  | cons a rest ih =>
    obtain ⟨before, behind, rfl⟩ := List.append_of_mem (h.subset List.mem_cons_self)
    obtain ⟨order, horder⟩ := ih (List.perm_cons a |>.mp (h.trans List.perm_middle))
    refine ⟨before.length :: order, ?_⟩
    rw [permute, horder, List.take_left, List.drop_left]

end

namespace Sql

structure Alteration where
  swapped : List Nat → Bool := fun _ => false
  order : List Nat → List Nat := fun _ => []
  filling : List Nat → String → Position → Option Expr := fun _ _ _ => none
  named : ObjectName → ObjectName := id

/-- The order of the sides says nothing. -/
def BinaryOp.commutes : BinaryOp → Bool
  | .and => true
  | .or => true
  | _ => false

namespace Alteration

/-- What becomes of a child. -/
def into (alt : Alteration) (i : Nat) : Alteration where
  swapped place := alt.swapped (i :: place)
  order place := alt.order (i :: place)
  filling place := alt.filling (i :: place)
  named := alt.named

/-- What becomes of a child in which no table is renamed. -/
def beside (alt : Alteration) (i : Nat) : Alteration := { alt.into i with named := id }

def fill (alt : Alteration) : Literal → Expr
  | .placeholder text position => (alt.filling [] text position).getD (.literal (.placeholder text position))
  | value => .literal value

def join (alt : Alteration) (left : Expr) (op : BinaryOp) (right : Expr) : Expr :=
  if op.commutes && alt.swapped [] then .binary right op left else .binary left op right

end Alteration

mutual

def Expr.altered (alt : Alteration) : Expr → Expr
  | .ident name => .ident name
  | .column parts => .column parts
  | .literal value => alt.fill value
  | .typed type value => .typed type value
  | .nested operand => .nested (operand.altered (alt.into 0))
  | .not operand => .not (operand.altered (alt.into 0))
  | .sign negative operand => .sign negative (operand.altered (alt.into 0))
  | .binary left op right => alt.join (left.altered (alt.into 0)) op (right.altered (alt.into 1))
  | .inList left negated items =>
    .inList (left.altered (alt.into 0)) negated (Expr.alteredAll (alt.into 1) items)
  | .between left negated low high =>
    .between (left.altered (alt.into 0)) negated (low.altered (alt.into 1)) (high.altered (alt.into 2))
  | .test left negated kind right =>
    .test (left.altered (alt.into 0)) negated kind (right.altered (alt.into 1))
  | .isNull operand => .isNull (operand.altered (alt.into 0))
  | .subquery query => .subquery (query.altered (alt.into 0))
  | .trim side what subject => .trim side (what.altered (alt.into 0)) (subject.altered (alt.into 1))
  | .call name pieces => .call name (Piece.alteredAll (alt.into 0) pieces)
  | .form pieces => .form (Piece.alteredAll (alt.into 0) pieces)

def Expr.alteredAll (alt : Alteration) : List Expr → List Expr
  | [] => []
  | e :: es => e.altered (alt.into 0) :: Expr.alteredAll (alt.into 1) es

def Expr.alteredOptional (alt : Alteration) : Option Expr → Option Expr
  | none => none
  | some e => some (e.altered alt)

def Expr.alteredRows (alt : Alteration) : List (List Expr) → List (List Expr)
  | [] => []
  | row :: rows => Expr.alteredAll (alt.into 0) row :: Expr.alteredRows (alt.into 1) rows

def Piece.altered (alt : Alteration) : Piece → Piece
  | .words text => .words text
  | .part operand => .part (operand.altered (alt.into 0))
  | .aside operand => .aside (operand.altered (alt.beside 0))

def Piece.alteredAll (alt : Alteration) : List Piece → List Piece
  | [] => []
  | piece :: pieces => piece.altered (alt.into 0) :: Piece.alteredAll (alt.into 1) pieces

def Query.altered (alt : Alteration) : Query → Query
  | { recursive, ctes, body, orderBy, limit, offset, limitBy, settings, fetch, ending } => {
      recursive
      ctes := Cte.alteredAll (alt.into 0) ctes
      body := body.altered (alt.into 1)
      orderBy := Expr.alteredAll (alt.into 2) orderBy
      limit := Expr.alteredOptional (alt.into 3) limit
      offset := Expr.alteredOptional (alt.into 4) offset
      limitBy := Expr.alteredAll (alt.into 5) limitBy
      settings := Piece.alteredAll (alt.beside 6) settings
      fetch := Expr.alteredOptional (alt.into 7) fetch
      ending := Piece.alteredAll (alt.beside 8) ending }

def Cte.altered (alt : Alteration) : Cte → Cte
  | { alias_, keyword, query, source } => { alias_, keyword, query := query.altered (alt.into 0), source }

def Cte.alteredAll (alt : Alteration) : List Cte → List Cte
  | [] => []
  | cte :: ctes => cte.altered (alt.into 0) :: Cte.alteredAll (alt.into 1) ctes

def Body.altered (alt : Alteration) : Body → Body
  | .select select => .select (select.altered (alt.into 0))
  | .query query => .query (query.altered (alt.into 0))
  | .setOperation left words right =>
    .setOperation (left.altered (alt.into 0)) words (right.altered (alt.into 1))
  | .values explicitRow rows => .values explicitRow (Expr.alteredRows (alt.into 0) rows)
  | .table schema name => .table schema name
  | .statement statement => .statement (statement.altered (alt.into 0))

def Select.altered (alt : Alteration) : Select → Select
  | { head, projection, into, from_, views, prewhere, selection, groupBy, groupTail, clusterBy,
      distributeBy, sortBy, having, windowsBefore, qualify, windowsAfter, connectBy } => {
      head := Piece.alteredAll (alt.beside 0) head
      projection := Expr.alteredAll (alt.into 1) projection
      into := Piece.alteredAll (alt.beside 2) into
      from_ := permute (alt.order []) (TableRef.alteredAll (alt.into 3) from_)
      views := Piece.alteredAll (alt.beside 4) views
      prewhere := Expr.alteredOptional (alt.into 5) prewhere
      selection := Expr.alteredOptional (alt.into 6) selection
      groupBy := Expr.alteredAll (alt.into 7) groupBy
      groupTail := Piece.alteredAll (alt.beside 8) groupTail
      clusterBy := Expr.alteredAll (alt.into 9) clusterBy
      distributeBy := Expr.alteredAll (alt.into 10) distributeBy
      sortBy := Expr.alteredAll (alt.into 11) sortBy
      having := Expr.alteredOptional (alt.into 12) having
      windowsBefore := Piece.alteredAll (alt.beside 13) windowsBefore
      qualify := Expr.alteredOptional (alt.into 14) qualify
      windowsAfter := Piece.alteredAll (alt.beside 15) windowsAfter
      connectBy := Piece.alteredAll (alt.beside 16) connectBy }

def TableRef.altered (alt : Alteration) : TableRef → TableRef
  | .table name arguments alias_ hints =>
    .table (alt.named name) (Piece.alteredAll (alt.beside 0) arguments) alias_ (Piece.alteredAll (alt.beside 1) hints)
  | .derived lateral query alias_ => .derived lateral (query.altered (alt.into 0)) alias_
  | .nested inner alias_ => .nested (inner.altered (alt.into 0)) alias_
  | .join left words right matching on using_ =>
    .join (left.altered (alt.into 0)) words (right.altered (alt.into 1)) (Expr.alteredOptional (alt.into 2) matching)
      (Expr.alteredOptional (alt.into 3) on) using_
  | .turned source pieces alias_ =>
    .turned (source.altered (alt.beside 0)) (Piece.alteredAll (alt.beside 1) pieces) alias_
  | .other pieces alias_ trailer => .other (Piece.alteredAll (alt.beside 0) pieces) alias_ trailer

def TableRef.alteredAll (alt : Alteration) : List TableRef → List TableRef
  | [] => []
  | table :: tables => table.altered (alt.into 0) :: TableRef.alteredAll (alt.into 1) tables

def TableRef.alteredOptional (alt : Alteration) : Option (List TableRef) → Option (List TableRef)
  | none => none
  | some tables => some (TableRef.alteredAll alt tables)

def Query.alteredOptional (alt : Alteration) : Option Query → Option Query
  | none => none
  | some query => some (query.altered alt)

def Insert.altered (alt : Alteration) : Insert → Insert
  | { head, target, alias_, columns, middle, source, trailer } => {
      head
      target := alt.named target
      alias_
      columns
      middle := Piece.alteredAll (alt.beside 0) middle
      source := Query.alteredOptional (alt.into 1) source
      trailer := Piece.alteredAll (alt.beside 2) trailer }

def Update.altered (alt : Alteration) : Update → Update
  | { conflict, table, fromBefore, assignments, fromAfter, selection, returning } => {
      conflict
      table := table.altered (alt.into 0)
      fromBefore := TableRef.alteredAll (alt.beside 1) fromBefore
      assignments := Expr.alteredAll (alt.into 2) assignments
      fromAfter := TableRef.alteredAll (alt.beside 3) fromAfter
      selection := Expr.alteredOptional (alt.into 4) selection
      returning := Piece.alteredAll (alt.beside 5) returning }

def Delete.altered (alt : Alteration) : Delete → Delete
  | { targets, fromKeyword, from_, using_, selection, returning, orderBy, limit } => {
      targets := targets.map alt.named
      fromKeyword
      from_ := TableRef.alteredAll (alt.into 0) from_
      using_ := TableRef.alteredOptional (alt.into 1) using_
      selection := Expr.alteredOptional (alt.into 2) selection
      returning := Piece.alteredAll (alt.beside 3) returning
      orderBy := Expr.alteredAll (alt.into 4) orderBy
      limit := Expr.alteredOptional (alt.into 5) limit }

def Statement.altered (alt : Alteration) : Statement → Statement
  | .query query => .query (query.altered (alt.into 0))
  | .insert insert => .insert (insert.altered (alt.into 0))
  | .update update => .update (update.altered (alt.into 0))
  | .delete delete => .delete (delete.altered (alt.into 0))
  | .other => .other

end

/-! ### Altering nothing -/

namespace Alteration

/-- The tables are spelled alike at all places. -/
@[simp] theorem into_named (named : ObjectName → ObjectName) (i : Nat) :
    ({ named } : Alteration).into i = { named } := rfl

@[simp] theorem beside_named (named : ObjectName → ObjectName) (i : Nat) :
    ({ named } : Alteration).beside i = {} := rfl

theorem fill_named (named : ObjectName → ObjectName) (value : Literal) :
    ({ named } : Alteration).fill value = .literal value := by
  cases value <;> rfl

theorem join_named (named : ObjectName → ObjectName) (left : Expr) (op : BinaryOp) (right : Expr) :
    ({ named } : Alteration).join left op right = .binary left op right := by
  simp only [join, Bool.and_false, Bool.false_eq_true, if_false]

end Alteration

open Alteration

mutual

theorem Expr.altered_idle : ∀ e : Expr, e.altered {} = e
  | .ident _ => rfl
  | .column _ => rfl
  | .literal value => fill_named id value
  | .typed _ _ => rfl
  | .nested operand => by rw [Expr.altered, into_named, operand.altered_idle]
  | .not operand => by rw [Expr.altered, into_named, operand.altered_idle]
  | .sign _ operand => by rw [Expr.altered, into_named, operand.altered_idle]
  | .binary left _ right => by
    rw [Expr.altered, join_named, into_named, into_named, left.altered_idle, right.altered_idle]
  | .inList left _ items => by
    rw [Expr.altered, into_named, into_named, left.altered_idle, Expr.alteredAll_idle items]
  | .between left _ low high => by
    rw [Expr.altered, into_named, into_named, into_named, left.altered_idle, low.altered_idle, high.altered_idle]
  | .test left _ _ right => by rw [Expr.altered, into_named, into_named, left.altered_idle, right.altered_idle]
  | .isNull operand => by rw [Expr.altered, into_named, operand.altered_idle]
  | .subquery query => by rw [Expr.altered, into_named, query.altered_idle]
  | .trim _ what subject => by rw [Expr.altered, into_named, into_named, what.altered_idle, subject.altered_idle]
  | .call _ pieces => by rw [Expr.altered, into_named, Piece.alteredAll_idle pieces]
  | .form pieces => by rw [Expr.altered, into_named, Piece.alteredAll_idle pieces]

theorem Expr.alteredAll_idle : ∀ es : List Expr, Expr.alteredAll {} es = es
  | [] => rfl
  | e :: es => by rw [Expr.alteredAll, into_named, into_named, e.altered_idle, Expr.alteredAll_idle es]

theorem Expr.alteredOptional_idle : ∀ e : Option Expr, Expr.alteredOptional {} e = e
  | none => rfl
  | some e => by rw [Expr.alteredOptional, e.altered_idle]

theorem Expr.alteredRows_idle : ∀ rows : List (List Expr), Expr.alteredRows {} rows = rows
  | [] => rfl
  | row :: rows => by
    rw [Expr.alteredRows, into_named, into_named, Expr.alteredAll_idle row, Expr.alteredRows_idle rows]

theorem Piece.altered_idle : ∀ piece : Piece, piece.altered {} = piece
  | .words _ => rfl
  | .part operand => by rw [Piece.altered, into_named, operand.altered_idle]
  | .aside operand => by rw [Piece.altered, beside_named, operand.altered_idle]

theorem Piece.alteredAll_idle : ∀ pieces : List Piece, Piece.alteredAll {} pieces = pieces
  | [] => rfl
  | piece :: pieces => by
    rw [Piece.alteredAll, into_named, into_named, piece.altered_idle, Piece.alteredAll_idle pieces]

theorem Query.altered_idle : ∀ query : Query, query.altered {} = query
  | { recursive := _, ctes, body, orderBy, limit, offset, limitBy, settings, fetch, ending } => by
    simp only [Query.altered, into_named, beside_named, Cte.alteredAll_idle ctes, body.altered_idle,
      Expr.alteredAll_idle orderBy, Expr.alteredOptional_idle limit, Expr.alteredOptional_idle offset,
      Expr.alteredAll_idle limitBy, Piece.alteredAll_idle settings, Expr.alteredOptional_idle fetch,
      Piece.alteredAll_idle ending]

theorem Cte.altered_idle : ∀ cte : Cte, cte.altered {} = cte
  | { alias_ := _, keyword := _, query, source := _ } => by rw [Cte.altered, into_named, query.altered_idle]

theorem Cte.alteredAll_idle : ∀ ctes : List Cte, Cte.alteredAll {} ctes = ctes
  | [] => rfl
  | cte :: ctes => by rw [Cte.alteredAll, into_named, into_named, cte.altered_idle, Cte.alteredAll_idle ctes]

theorem Body.altered_idle : ∀ body : Body, body.altered {} = body
  | .select select => by rw [Body.altered, into_named, select.altered_idle]
  | .query query => by rw [Body.altered, into_named, query.altered_idle]
  | .setOperation left _ right => by rw [Body.altered, into_named, into_named, left.altered_idle, right.altered_idle]
  | .values _ rows => by rw [Body.altered, into_named, Expr.alteredRows_idle rows]
  | .table _ _ => rfl
  | .statement statement => by rw [Body.altered, into_named, statement.altered_idle]

theorem Select.altered_idle : ∀ select : Select, select.altered {} = select
  | { head, projection, into, from_, views, prewhere, selection, groupBy, groupTail, clusterBy,
      distributeBy, sortBy, having, windowsBefore, qualify, windowsAfter, connectBy } => by
    simp only [Select.altered, into_named, beside_named, permute_nil, Piece.alteredAll_idle head,
      Expr.alteredAll_idle projection, Piece.alteredAll_idle into, TableRef.alteredAll_idle from_,
      Piece.alteredAll_idle views, Expr.alteredOptional_idle prewhere, Expr.alteredOptional_idle selection,
      Expr.alteredAll_idle groupBy, Piece.alteredAll_idle groupTail, Expr.alteredAll_idle clusterBy,
      Expr.alteredAll_idle distributeBy, Expr.alteredAll_idle sortBy, Expr.alteredOptional_idle having,
      Piece.alteredAll_idle windowsBefore, Expr.alteredOptional_idle qualify,
      Piece.alteredAll_idle windowsAfter, Piece.alteredAll_idle connectBy]

theorem TableRef.altered_idle : ∀ table : TableRef, table.altered {} = table
  | .table _ arguments _ hints => by
    rw [TableRef.altered, beside_named, beside_named, Piece.alteredAll_idle arguments,
      Piece.alteredAll_idle hints]
    rfl
  | .derived _ query _ => by rw [TableRef.altered, into_named, query.altered_idle]
  | .nested inner _ => by rw [TableRef.altered, into_named, inner.altered_idle]
  | .join left _ right matching on _ => by
    simp only [TableRef.altered, into_named, left.altered_idle, right.altered_idle,
      Expr.alteredOptional_idle matching, Expr.alteredOptional_idle on]
  | .turned source pieces _ => by
    rw [TableRef.altered, beside_named, beside_named, source.altered_idle, Piece.alteredAll_idle pieces]
  | .other pieces _ _ => by rw [TableRef.altered, beside_named, Piece.alteredAll_idle pieces]

theorem TableRef.alteredAll_idle : ∀ tables : List TableRef, TableRef.alteredAll {} tables = tables
  | [] => rfl
  | table :: tables => by
    rw [TableRef.alteredAll, into_named, into_named, table.altered_idle, TableRef.alteredAll_idle tables]

theorem TableRef.alteredOptional_idle : ∀ tables : Option (List TableRef), TableRef.alteredOptional {} tables = tables
  | none => rfl
  | some tables => by rw [TableRef.alteredOptional, TableRef.alteredAll_idle tables]

theorem Query.alteredOptional_idle : ∀ query : Option Query, Query.alteredOptional {} query = query
  | none => rfl
  | some query => by rw [Query.alteredOptional, query.altered_idle]

theorem Insert.altered_idle : ∀ insert : Insert, insert.altered {} = insert
  | { head := _, target := _, alias_ := _, columns := _, middle, source, trailer } => by
    simp only [Insert.altered, into_named, beside_named, Piece.alteredAll_idle middle,
      Query.alteredOptional_idle source, Piece.alteredAll_idle trailer, id]

theorem Update.altered_idle : ∀ update : Update, update.altered {} = update
  | { conflict := _, table, fromBefore, assignments, fromAfter, selection, returning } => by
    simp only [Update.altered, into_named, beside_named, table.altered_idle, TableRef.alteredAll_idle fromBefore,
      Expr.alteredAll_idle assignments, TableRef.alteredAll_idle fromAfter, Expr.alteredOptional_idle selection,
      Piece.alteredAll_idle returning]

theorem Delete.altered_idle : ∀ delete : Delete, delete.altered {} = delete
  | { targets, fromKeyword := _, from_, using_, selection, returning, orderBy, limit } => by
    simp only [Delete.altered, into_named, beside_named, List.map_id, TableRef.alteredAll_idle from_,
      TableRef.alteredOptional_idle using_, Expr.alteredOptional_idle selection, Piece.alteredAll_idle returning,
      Expr.alteredAll_idle orderBy, Expr.alteredOptional_idle limit]

/-- Altering nothing leaves a statement as it is. -/
theorem Statement.altered_idle : ∀ statement : Statement, statement.altered {} = statement
  | .query query => by rw [Statement.altered, into_named, query.altered_idle]
  | .insert insert => by rw [Statement.altered, into_named, insert.altered_idle]
  | .update update => by rw [Statement.altered, into_named, update.altered_idle]
  | .delete delete => by rw [Statement.altered, into_named, delete.altered_idle]
  | .other => rfl

end

end Sql
end ShardRouting
