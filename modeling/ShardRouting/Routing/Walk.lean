import ShardRouting.Routing.Closing
import ShardRouting.Routing.Predicate

/-! The walk through a statement. It reads predicates from the left to the right, gives every selection
    and every change of rows a scope of its own, and writes the routes into the tables when their scope
    closes. Queries inside expressions are walked where they stand, and a `NOT` around them does not
    reach into them. -/

namespace ShardRouting
open Sql
namespace Walk

/-- What a predicate says of a shard key on its left side, before its parts are walked. -/
def onPredicate (setting : Setting) (underNot : Bool) : Expr → Walk Unit
  | .binary left op right => match op with
    | .eq => match ColumnRef.ofExpr? left with
      | some column => onEquality setting underNot column right
      | none => return ()
    | .notEq | .less | .lessEq | .greater | .greaterEq =>
      onOther left op.text (left.text ++ " " ++ op.text ++ " " ++ right.text)
    | _ => return ()
  | .inList left negated items => match ColumnRef.ofExpr? left with
    | some column => onInList setting underNot column negated items
    | none => return ()
  | .between left negated low high => match ColumnRef.ofExpr? left with
    | some column => onBetween setting underNot column negated low high
    | none => return ()
  | .test left _ kind right =>
    let infixed (operator : String) := onOther left operator (left.text ++ " " ++ operator ++ " " ++ right.text)
    match kind with
    | .inSubquery => onOther left "IN (subquery)" (left.text ++ " IN (subquery)")
    | .inArray => onOther left "IN UNNEST" (left.text ++ " IN UNNEST(" ++ right.text ++ ")")
    | .matching word _ _ => infixed word
    | .regexp _ => infixed "REGEXP"
    | .quantified comparison _ => infixed (comparison ++ " ANY/ALL")
    | .distinct => infixed "IS DISTINCT FROM"
  | .isNull operand => onOther operand "IS NULL" (operand.text ++ " IS NULL")
  | _ => return ()

/-- The clauses behind the body of a query that may hold predicates. -/
structure Tail where
  orderBy : List Expr := []
  limit : Option Expr := none
  limitBy : List Expr := []
  offset : Option Expr := none
  fetch : Option Expr := none

/-- The names of columns in an insertion with the values of a row. -/
def onRow (setting : Setting) (columns : List Ident) (row : List Expr) : Walk Unit :=
  (columns.zip row).forM fun (column, value) => onEquality setting false (.ofName column) value

/-- The rows of an insertion decide on its shard when it names its columns. -/
def onRows (setting : Setting) (insert : Insert) : Walk Unit :=
  match insert.columns, insert.source with
  | _ :: _, some { body := .values _ rows, .. } => rows.forM (onRow setting insert.columns)
  | _, _ => return ()

mutual

/-- Walks an expression; `depth` counts the open scopes. -/
def walkExpr (setting : Setting) (depth : Nat) (underNot : Bool) : Expr → Walk Expr
  | .ident name => return .ident name
  | .column parts => return .column parts
  | .literal value => return .literal value
  | .typed type value => return .typed type value
  | .nested operand => do return .nested (← walkExpr setting depth underNot operand)
  | .not operand => do return .not (← walkExpr setting depth true operand)
  | .sign negative operand => do return .sign negative (← walkExpr setting depth underNot operand)
  | .binary left op right => do
    onPredicate setting underNot (.binary left op right)
    let left ← walkExpr setting depth underNot left
    let right ← walkExpr setting depth underNot right
    return .binary left op right
  | .inList left negated items => do
    onPredicate setting underNot (.inList left negated items)
    let left ← walkExpr setting depth underNot left
    let items ← walkExprs setting depth underNot items
    return .inList left negated items
  | .between left negated low high => do
    onPredicate setting underNot (.between left negated low high)
    let left ← walkExpr setting depth underNot left
    let low ← walkExpr setting depth underNot low
    let high ← walkExpr setting depth underNot high
    return .between left negated low high
  | .test left negated kind right => do
    onPredicate setting underNot (.test left negated kind right)
    let left ← walkExpr setting depth underNot left
    let right ← walkExpr setting depth underNot right
    return .test left negated kind right
  | .isNull operand => do
    onPredicate setting underNot (.isNull operand)
    return .isNull (← walkExpr setting depth underNot operand)
  | .subquery query => do return .subquery (← walkQuery setting depth query)
  | .trim side what subject => do
    let subject ← walkExpr setting depth underNot subject
    let what ← walkExpr setting depth underNot what
    return .trim side what subject
  | .call name pieces => do return .call name (← walkPieces setting depth underNot pieces)
  | .form pieces => do return .form (← walkPieces setting depth underNot pieces)

def walkExprs (setting : Setting) (depth : Nat) (underNot : Bool) : List Expr → Walk (List Expr)
  | [] => return []
  | e :: es => do
    let e ← walkExpr setting depth underNot e
    let es ← walkExprs setting depth underNot es
    return e :: es

def walkOptional (setting : Setting) (depth : Nat) (underNot : Bool) : Option Expr → Walk (Option Expr)
  | none => return none
  | some e => do return some (← walkExpr setting depth underNot e)

def walkRows (setting : Setting) (depth : Nat) : List (List Expr) → Walk (List (List Expr))
  | [] => return []
  | row :: rows => do
    let row ← walkExprs setting depth false row
    let rows ← walkRows setting depth rows
    return row :: rows

def walkPieces (setting : Setting) (depth : Nat) (underNot : Bool) : List Piece → Walk (List Piece)
  | [] => return []
  | piece :: pieces => do
    let piece ← walkPiece setting depth underNot piece
    let pieces ← walkPieces setting depth underNot pieces
    return piece :: pieces

def walkPiece (setting : Setting) (depth : Nat) (underNot : Bool) : Piece → Walk Piece
  | .words text => return .words text
  | .part operand => do return .part (← walkExpr setting depth underNot operand)
  | .aside operand => return .aside operand

/-- The clauses behind the body are walked in the scope of the body if that is a plain selection. -/
def walkQuery (setting : Setting) (depth : Nat) : Query → Walk Query
  | { recursive, ctes, body, orderBy, limit, offset, limitBy, settings, fetch, ending } => do
    let ctes ← walkCtes setting depth ctes
    let walkTail (depth : Nat) : Walk Tail := do
      let orderBy ← walkExprs setting depth false orderBy
      let limit ← walkOptional setting depth false limit
      let limitBy ← walkExprs setting depth false limitBy
      let offset ← walkOptional setting depth false offset
      let fetch ← walkOptional setting depth false fetch
      return { orderBy, limit, limitBy, offset, fetch }
    let (body, tail) ← walkBody setting depth walkTail body
    return {
      recursive, ctes, body, settings, ending
      orderBy := tail.orderBy
      limit := tail.limit
      offset := tail.offset
      limitBy := tail.limitBy
      fetch := tail.fetch }

def walkCte (setting : Setting) (depth : Nat) : Cte → Walk Cte
  | { alias_, keyword, query, source } => do
    let query ← walkQuery setting depth query
    return { alias_, keyword, query, source }

def walkCtes (setting : Setting) (depth : Nat) : List Cte → Walk (List Cte)
  | [] => return []
  | cte :: ctes => do
    let cte ← walkCte setting depth cte
    let ctes ← walkCtes setting depth ctes
    return cte :: ctes

/-- Walks the body of a query, and what stands behind it by `walkTail`. -/
def walkBody (setting : Setting) (depth : Nat) (walkTail : Nat → Walk Tail) : Body → Walk (Body × Tail)
  | .select select => do
    let (select, tail) ← walkSelect setting depth walkTail select
    return (.select select, tail)
  | .query query => do
    let query ← walkQuery setting depth query
    return (.query query, ← walkTail depth)
  | .setOperation left words right => do
    let (left, _) ← walkBody setting depth (fun _ => return {}) left
    let (right, _) ← walkBody setting depth (fun _ => return {}) right
    return (.setOperation left words right, ← walkTail depth)
  | .values explicitRow rows => do
    let rows ← walkRows setting depth rows
    return (.values explicitRow rows, ← walkTail depth)
  | .table schema name => return (.table schema name, ← walkTail depth)
  | .statement statement => do
    let statement ← walkStatement setting depth statement
    return (.statement statement, ← walkTail depth)

def walkSelect (setting : Setting) (depth : Nat) (walkTail : Nat → Walk Tail) :
    Select → Walk (Select × Tail)
  | { head, projection, into, from_, views, prewhere, selection, groupBy, groupTail, clusterBy,
      distributeBy, sortBy, having, windowsBefore, qualify, windowsAfter, connectBy } => do
    let depth := depth + 1
    let ((select, tail), scope) ← inScope do
      bindFactors setting depth 0 (factors from_)
      let from_ ← walkTables setting depth from_
      let projection ← walkExprs setting depth false projection
      let prewhere ← walkOptional setting depth false prewhere
      let selection ← walkOptional setting depth false selection
      let groupBy ← walkExprs setting depth false groupBy
      let having ← walkOptional setting depth false having
      let qualify ← walkOptional setting depth false qualify
      let clusterBy ← walkExprs setting depth false clusterBy
      let distributeBy ← walkExprs setting depth false distributeBy
      let sortBy ← walkExprs setting depth false sortBy
      let tail ← walkTail depth
      let select : Select := {
        head, projection, into, from_, views, prewhere, selection, groupBy, groupTail, clusterBy,
        distributeBy, sortBy, having, windowsBefore, qualify, windowsAfter, connectBy }
      return (select, tail)
    let relocations ← closeScope setting true scope.bindings
    return ({ select with
      from_ := relocateTables setting.options.defaultSchema relocations 0 select.from_ }, tail)

/-- Derived tables have scopes of their own; the conditions of a join belong to the scope around it. No
    table is routed that is turned. -/
def walkTable (setting : Setting) (depth : Nat) : TableRef → Walk TableRef
  | .table name arguments alias_ hints => return .table name arguments alias_ hints
  | .derived lateral query alias_ => do return .derived lateral (← walkQuery setting depth query) alias_
  | .nested inner alias_ => do return .nested (← walkTable setting depth inner) alias_
  | .join left words right matching on using_ => do
    let left ← walkTable setting depth left
    let right ← walkTable setting depth right
    let matching ← walkOptional setting depth false matching
    let on ← walkOptional setting depth false on
    return .join left words right matching on using_
  | .turned source pieces alias_ => return .turned source pieces alias_
  | .other pieces alias_ trailer => return .other pieces alias_ trailer

def walkTables (setting : Setting) (depth : Nat) : List TableRef → Walk (List TableRef)
  | [] => return []
  | table :: tables => do
    let table ← walkTable setting depth table
    let tables ← walkTables setting depth tables
    return table :: tables

def walkInsert (setting : Setting) (depth : Nat) : Insert → Walk Insert
  | { head, target, alias_, columns, middle, source, trailer } => do
    let (source, scope) ← inScope do
      bindTable setting (depth + 1) .target target none
      onRows setting { head, target, alias_, columns, middle, source, trailer }
      match source with
      | some query => return some (← walkQuery setting (depth + 1) query)
      | none => return none
    let relocations ← closeScope setting false scope.bindings
    let target := relocateTarget setting.options.defaultSchema relocations target
    return { head, target, alias_, columns, middle, source, trailer }

def walkUpdate (setting : Setting) (depth : Nat) : Update → Walk Update
  | { conflict, table, fromBefore, assignments, fromAfter, selection, returning } => do
    let depth := depth + 1
    let ((table, assignments, selection), scope) ← inScope do
      bindFactors setting depth 0 (tableFactors table)
      let table ← walkTable setting depth table
      let assignments ← walkExprs setting depth false assignments
      let selection ← walkOptional setting depth false selection
      return (table, assignments, selection)
    let relocations ← closeScope setting true scope.bindings
    let table := relocateTable setting.options.defaultSchema relocations 0 table
    return { conflict, table, fromBefore, assignments, fromAfter, selection, returning }

def walkDelete (setting : Setting) (depth : Nat) : Delete → Walk Delete
  | { targets, fromKeyword, from_, using_, selection, returning, orderBy, limit } => do
    let depth := depth + 1
    let ((from_, using_, selection, orderBy, limit), scope) ← inScope do
      bindFactors setting depth 0 (factors from_ ++ factors (using_.getD []))
      let from_ ← walkTables setting depth from_
      let using_ ← match using_ with
        | some tables => do pure (some (← walkTables setting depth tables))
        | none => pure none
      let selection ← walkOptional setting depth false selection
      let orderBy ← walkExprs setting depth false orderBy
      let limit ← walkOptional setting depth false limit
      return (from_, using_, selection, orderBy, limit)
    let relocations ← closeScope setting false scope.bindings
    let default := setting.options.defaultSchema
    let listed := relocateListed default relocations (factors from_ ++ factors (using_.getD []))
    return {
      targets := targets.map listed
      fromKeyword
      from_ := relocateTables default relocations 0 from_
      using_ := using_.map (relocateTables default relocations (factors from_).length)
      selection, returning, orderBy, limit }

def walkStatement (setting : Setting) (depth : Nat) : Statement → Walk Statement
  | .query query => do return .query (← walkQuery setting depth query)
  | .insert insert => do return .insert (← walkInsert setting depth insert)
  | .update update => do return .update (← walkUpdate setting depth update)
  | .delete delete => do return .delete (← walkDelete setting depth delete)
  | .other => return .other

end

end Walk
end ShardRouting
