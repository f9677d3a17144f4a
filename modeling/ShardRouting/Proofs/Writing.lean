import ShardRouting.Proofs.Landing

/-! Writing routes into a tree. A tree takes up the routes of its tables in the order in which the walk settles
    them: what stands inside a scope comes before the tables of that scope. No parameter, no value and no
    override has a part in it, only which names are sharded, the qualifiers of the columns and the default
    schema. -/

namespace ShardRouting

/-- What decides on the new names of tables beside their routes. -/
structure Naming where
  sharded : Sql.ObjectName → Bool
  scan : Sql.Scan
  defaultSchema : Option String

def Setting.naming (setting : Setting) : Naming where
  sharded name := Sql.Reference.sharded setting { name }
  scan := setting.scan
  defaultSchema := setting.options.defaultSchema

/-- The alias of a table that is sent to a route: a table without alias keeps its logical name as alias when its
    name changes and columns are qualified with it. -/
def Naming.aliasFor (naming : Naming) (name : Sql.ObjectName) (alias_ : Option Sql.TableAlias)
    (route : Destination) : Option Sql.TableAlias :=
  match name.split? with
  | some (_, table) =>
    if alias_.isNone && !Text.sameAscii route.table table.value && naming.scan.isQualifier table.value then
      some { name := table }
    else alias_
  | none => alias_

/-- A name in the list of a deletion follows the first sharded table without alias that it means. -/
def Naming.follow (naming : Naming) (homes : List (Factor × Destination)) (name : Sql.ObjectName) :
    Sql.ObjectName :=
  (homes.find? fun home => home.1.alias_.isNone && names name home.1.name).elim name fun home =>
    rename naming.defaultSchema home.2 name

namespace Sql

/-- A step of writing, which takes the routes one by one. -/
abbrev Writing := StateM (List Destination)

/-- The next route. -/
def nextRoute : Writing Destination := modifyGet fun
  | [] => (default, [])
  | route :: routes => (route, routes)

section
variable (naming : Naming)

/-! ### The tables of a scope -/

/-- The name that rows are inserted into. -/
def ObjectName.settle (name : ObjectName) : Writing ObjectName :=
  if naming.sharded name then do return rename naming.defaultSchema (← nextRoute) name else return name

/-- Settles the tables of a reference. They get aliases only where `aliases` is set. -/
def TableRef.settle (aliases : Bool) : TableRef → Writing TableRef
  | .table name arguments alias_ hints =>
    if naming.sharded name then do
      let route ← nextRoute
      let given := if aliases then naming.aliasFor name alias_ route else alias_
      return .table (rename naming.defaultSchema route name) arguments given hints
    else return .table name arguments alias_ hints
  | .nested inner alias_ => do return .nested (← inner.settle aliases) alias_
  | .join left words right matching on using_ => do
    let left ← left.settle aliases
    let right ← right.settle aliases
    return .join left words right matching on using_
  | .derived lateral query alias_ => return .derived lateral query alias_
  | .turned source pieces alias_ => return .turned source pieces alias_
  | .other pieces alias_ trailer => return .other pieces alias_ trailer

def TableRef.settleAll (aliases : Bool) : List TableRef → Writing (List TableRef)
  | [] => return []
  | first :: rest => do
    let first ← first.settle naming aliases
    let rest ← TableRef.settleAll aliases rest
    return first :: rest

def TableRef.settleOptional (aliases : Bool) : Option (List TableRef) → Writing (Option (List TableRef))
  | none => return none
  | some tables => do return some (← TableRef.settleAll naming aliases tables)

/-- The sharded ones among some tables, with the routes that come next. -/
def homes (fs : List Factor) : Writing (List (Factor × Destination)) := do
  return (fs.filter fun factor => naming.sharded factor.name).zip (← get)

/-! ### Trees -/

mutual

def Expr.write : Expr → Writing Expr
  | .ident name => return .ident name
  | .column parts => return .column parts
  | .literal value => return .literal value
  | .typed type value => return .typed type value
  | .nested operand => do return .nested (← operand.write)
  | .not operand => do return .not (← operand.write)
  | .sign negative operand => do return .sign negative (← operand.write)
  | .binary left op right => do
    let left ← left.write
    let right ← right.write
    return .binary left op right
  | .inList left negated items => do
    let left ← left.write
    let items ← Expr.writeAll items
    return .inList left negated items
  | .between left negated low high => do
    let left ← left.write
    let low ← low.write
    let high ← high.write
    return .between left negated low high
  | .test left negated kind right => do
    let left ← left.write
    let right ← right.write
    return .test left negated kind right
  | .isNull operand => do return .isNull (← operand.write)
  | .subquery query => do return .subquery (← query.write)
  | .trim side what subject => do
    let subject ← subject.write
    let what ← what.write
    return .trim side what subject
  | .call name pieces => do return .call name (← Piece.writeAll pieces)
  | .form pieces => do return .form (← Piece.writeAll pieces)

def Expr.writeAll : List Expr → Writing (List Expr)
  | [] => return []
  | e :: es => do
    let e ← e.write
    let es ← Expr.writeAll es
    return e :: es

def Expr.writeOptional : Option Expr → Writing (Option Expr)
  | none => return none
  | some e => do return some (← e.write)

def Expr.writeRows : List (List Expr) → Writing (List (List Expr))
  | [] => return []
  | row :: rows => do
    let row ← Expr.writeAll row
    let rows ← Expr.writeRows rows
    return row :: rows

def Piece.writeAll : List Piece → Writing (List Piece)
  | [] => return []
  | piece :: pieces => do
    let piece ← piece.write
    let pieces ← Piece.writeAll pieces
    return piece :: pieces

/-- Nothing is written into what is only printed. -/
def Piece.write : Piece → Writing Piece
  | .words text => return .words text
  | .part operand => do return .part (← operand.write)
  | .aside operand => return .aside operand

def Query.write : Query → Writing Query
  | { recursive, ctes, body, orderBy, limit, offset, limitBy, settings, fetch, ending } => do
    let ctes ← Cte.writeAll ctes
    let writeTail : Writing Walk.Tail := do
      let orderBy ← Expr.writeAll orderBy
      let limit ← Expr.writeOptional limit
      let limitBy ← Expr.writeAll limitBy
      let offset ← Expr.writeOptional offset
      let fetch ← Expr.writeOptional fetch
      return { orderBy, limit, limitBy, offset, fetch }
    let (body, tail) ← body.write writeTail
    return {
      recursive, ctes, body, settings, ending
      orderBy := tail.orderBy
      limit := tail.limit
      offset := tail.offset
      limitBy := tail.limitBy
      fetch := tail.fetch }

def Cte.write : Cte → Writing Cte
  | { alias_, keyword, query, source } => do
    let query ← query.write
    return { alias_, keyword, query, source }

def Cte.writeAll : List Cte → Writing (List Cte)
  | [] => return []
  | cte :: ctes => do
    let cte ← cte.write
    let ctes ← Cte.writeAll ctes
    return cte :: ctes

/-- Writes a body, and what stands behind it by `writeTail`. -/
def Body.write (writeTail : Writing Walk.Tail) : Body → Writing (Body × Walk.Tail)
  | .select select => do
    let (select, tail) ← select.write writeTail
    return (.select select, tail)
  | .query query => do
    let query ← query.write
    return (.query query, ← writeTail)
  | .setOperation left words right => do
    let (left, _) ← left.write (return {})
    let (right, _) ← right.write (return {})
    return (.setOperation left words right, ← writeTail)
  | .values explicitRow rows => do
    let rows ← Expr.writeRows rows
    return (.values explicitRow rows, ← writeTail)
  | .table schema name => do return (.table schema name, ← writeTail)
  | .statement statement => do
    let statement ← statement.write
    return (.statement statement, ← writeTail)

def Select.write (writeTail : Writing Walk.Tail) : Select → Writing (Select × Walk.Tail)
  | { head, projection, into, from_, views, prewhere, selection, groupBy, groupTail, clusterBy,
      distributeBy, sortBy, having, windowsBefore, qualify, windowsAfter, connectBy } => do
    let from_ ← TableRef.writeAll from_
    let projection ← Expr.writeAll projection
    let prewhere ← Expr.writeOptional prewhere
    let selection ← Expr.writeOptional selection
    let groupBy ← Expr.writeAll groupBy
    let having ← Expr.writeOptional having
    let qualify ← Expr.writeOptional qualify
    let clusterBy ← Expr.writeAll clusterBy
    let distributeBy ← Expr.writeAll distributeBy
    let sortBy ← Expr.writeAll sortBy
    let tail ← writeTail
    let from_ ← TableRef.settleAll naming true from_
    return ({
      head, projection, into, from_, views, prewhere, selection, groupBy, groupTail, clusterBy,
      distributeBy, sortBy, having, windowsBefore, qualify, windowsAfter, connectBy }, tail)

/-- Writes what stands inside a table reference. Its tables belong to the scope around it. -/
def TableRef.write : TableRef → Writing TableRef
  | .table name arguments alias_ hints => return .table name arguments alias_ hints
  | .derived lateral query alias_ => do return .derived lateral (← query.write) alias_
  | .nested inner alias_ => do return .nested (← inner.write) alias_
  | .join left words right matching on using_ => do
    let left ← left.write
    let right ← right.write
    let matching ← Expr.writeOptional matching
    let on ← Expr.writeOptional on
    return .join left words right matching on using_
  | .turned source pieces alias_ => return .turned source pieces alias_
  | .other pieces alias_ trailer => return .other pieces alias_ trailer

def TableRef.writeAll : List TableRef → Writing (List TableRef)
  | [] => return []
  | table :: tables => do
    let table ← table.write
    let tables ← TableRef.writeAll tables
    return table :: tables

def TableRef.writeOptional : Option (List TableRef) → Writing (Option (List TableRef))
  | none => return none
  | some tables => do return some (← TableRef.writeAll tables)

def Query.writeOptional : Option Query → Writing (Option Query)
  | none => return none
  | some query => do return some (← query.write)

def Insert.write : Insert → Writing Insert
  | { head, target, alias_, columns, middle, source, trailer } => do
    let source ← Query.writeOptional source
    let target ← target.settle naming
    return { head, target, alias_, columns, middle, source, trailer }

def Update.write : Update → Writing Update
  | { conflict, table, fromBefore, assignments, fromAfter, selection, returning } => do
    let table ← table.write
    let assignments ← Expr.writeAll assignments
    let selection ← Expr.writeOptional selection
    let table ← table.settle naming true
    return { conflict, table, fromBefore, assignments, fromAfter, selection, returning }

def Delete.write : Delete → Writing Delete
  | { targets, fromKeyword, from_, using_, selection, returning, orderBy, limit } => do
    let from_ ← TableRef.writeAll from_
    let using_ ← TableRef.writeOptional using_
    let selection ← Expr.writeOptional selection
    let orderBy ← Expr.writeAll orderBy
    let limit ← Expr.writeOptional limit
    let homes ← homes naming (factors from_ ++ factors (using_.getD []))
    let from_ ← TableRef.settleAll naming false from_
    let using_ ← TableRef.settleOptional naming false using_
    return {
      targets := targets.map (naming.follow homes)
      fromKeyword, from_, using_, selection, returning, orderBy, limit }

def Statement.write : Statement → Writing Statement
  | .query query => do return .query (← query.write)
  | .insert insert => do return .insert (← insert.write)
  | .update update => do return .update (← update.write)
  | .delete delete => do return .delete (← delete.write)
  | .other => return .other

end

end

/-- A statement with the routes of its tables written into it. -/
def Statement.written (naming : Naming) (tables : List RoutedTable) (statement : Statement) : Statement :=
  ((statement.write naming).run (tables.map RoutedTable.route)).1

end Sql
open Sql

/-! ### Taking up routes -/

variable {α β : Type}

/-- A step of writing takes up exactly the routes of some tables. -/
def Writes (x : Writing α) (tables : List RoutedTable) (a : α) : Prop :=
  ∀ rest, x.run (tables.map RoutedTable.route ++ rest) = (a, rest)

namespace Writes

variable {x : Writing α} {f : α → Writing β} {a : α} {b : β} {tables more : List RoutedTable}

theorem pure (a : α) : Writes (Pure.pure a) [] a := fun _ => rfl

theorem bind (hx : Writes x tables a) (hf : Writes (f a) more b) : Writes (x >>= f) (tables ++ more) b := by
  intro rest
  rw [StateT.run_bind, List.map_append, List.append_assoc, hx]
  exact hf rest

/-- What is written may be put into a tree at the end. -/
theorem map (hx : Writes x tables a) (f : α → β) : Writes (x >>= fun a => Pure.pure (f a)) tables (f a) := by
  have hbind := hx.bind (f := fun a => Pure.pure (f a)) (pure (f a))
  rwa [List.append_nil] at hbind

theorem given (h : Writes (f a) tables b) : Writes (Pure.pure a >>= f) tables b := h

theorem next {f : Destination → Writing β} {table : RoutedTable} (h : Writes (f table.route) tables b) :
    Writes (nextRoute >>= f) (table :: tables) b := h

theorem result (h : Writes x tables a) : (x.run (tables.map RoutedTable.route)).1 = a := by
  have hall := h []
  rw [List.append_nil] at hall
  rw [hall]

end Writes
end ShardRouting
