import ShardRouting.Proofs.Landing

/-! Erasure. A mark stands for every place where the walk may rename a table, in the order of the tree, and says
    what may change there. To erase a tree by some marks is to take out just that, so two trees that are the same
    after erasure differ in marked places only. -/

namespace ShardRouting
namespace Sql

/-- What may change at a name of a table. -/
inductive Mark where
  | kept
  | renamed
  /-- The table is renamed, and may get an alias. -/
  | aliased
  deriving DecidableEq, Repr

namespace Mark

/-- What is left of a name. -/
def name : Mark → ObjectName → ObjectName
  | kept, name => name
  | renamed, _ => []
  | aliased, _ => []

/-- What is left of an alias. -/
def alias_ : Mark → Option TableAlias → Option TableAlias
  | kept, alias_ => alias_
  | renamed, alias_ => alias_
  | aliased, _ => none

end Mark

/-- The mark of the table that is inserted into. -/
def ObjectName.mark (setting : Setting) (name : ObjectName) : Mark :=
  if Reference.sharded setting { name } then .renamed else .kept

/-- The mark of a table. It can get an alias only where `aliases` is set, and only if it has none. -/
def Factor.mark (setting : Setting) (aliases : Bool) (factor : Factor) : Mark :=
  if Reference.sharded setting { name := factor.name } then
    if aliases && factor.alias_.isNone then .aliased else .renamed
  else .kept

/-! ### Marks -/

section
variable (setting : Setting)

mutual

/-- The marks of the places inside an expression, from the left to the right. -/
def Expr.marks : Expr → List Mark
  | .ident _ => []
  | .column _ => []
  | .literal _ => []
  | .typed _ _ => []
  | .nested operand => operand.marks
  | .not operand => operand.marks
  | .sign _ operand => operand.marks
  | .binary left _ right => left.marks ++ right.marks
  | .inList left _ items => left.marks ++ Expr.allMarks items
  | .between left _ low high => left.marks ++ (low.marks ++ high.marks)
  | .test left _ _ right => left.marks ++ right.marks
  | .isNull operand => operand.marks
  | .subquery query => query.marks
  | .trim _ what subject => what.marks ++ subject.marks
  | .call _ pieces => Piece.allMarks pieces
  | .form pieces => Piece.allMarks pieces

def Expr.allMarks : List Expr → List Mark
  | [] => []
  | e :: es => e.marks ++ Expr.allMarks es

def Expr.optionalMarks : Option Expr → List Mark
  | none => []
  | some e => e.marks

def Expr.rowMarks : List (List Expr) → List Mark
  | [] => []
  | row :: rows => Expr.allMarks row ++ Expr.rowMarks rows

def Piece.allMarks : List Piece → List Mark
  | [] => []
  | piece :: pieces => piece.marks ++ Piece.allMarks pieces

/-- Nothing changes in what is only printed, so it has no marks. -/
def Piece.marks : Piece → List Mark
  | .words _ => []
  | .part operand => operand.marks
  | .aside _ => []

def Query.marks : Query → List Mark
  | { recursive := _, ctes, body, orderBy, limit, offset, limitBy, settings := _, fetch, ending := _ } =>
    Cte.allMarks ctes ++ (body.marks ++ (Expr.allMarks orderBy ++ (Expr.optionalMarks limit ++
      (Expr.optionalMarks offset ++ (Expr.allMarks limitBy ++ Expr.optionalMarks fetch)))))

def Cte.marks : Cte → List Mark
  | { alias_ := _, keyword := _, query, source := _ } => query.marks

def Cte.allMarks : List Cte → List Mark
  | [] => []
  | cte :: ctes => cte.marks ++ Cte.allMarks ctes

def Body.marks : Body → List Mark
  | .select select => select.marks
  | .query query => query.marks
  | .setOperation left _ right => left.marks ++ right.marks
  | .values _ rows => Expr.rowMarks rows
  | .table _ _ => []
  | .statement statement => statement.marks

def Select.marks : Select → List Mark
  | { head := _, projection, into := _, from_, views := _, prewhere, selection, groupBy, groupTail := _,
      clusterBy, distributeBy, sortBy, having, windowsBefore := _, qualify, windowsAfter := _,
      connectBy := _ } =>
    Expr.allMarks projection ++ (TableRef.allMarks true from_ ++ (Expr.optionalMarks prewhere ++
      (Expr.optionalMarks selection ++ (Expr.allMarks groupBy ++ (Expr.allMarks clusterBy ++
      (Expr.allMarks distributeBy ++ (Expr.allMarks sortBy ++ (Expr.optionalMarks having ++
      Expr.optionalMarks qualify))))))))

def TableRef.marks (aliases : Bool) : TableRef → List Mark
  | .table name _ alias_ _ => [Factor.mark setting aliases ⟨name, alias_⟩]
  | .derived _ query _ => query.marks
  | .nested inner _ => inner.marks aliases
  | .join left _ right matching on _ =>
    left.marks aliases ++ (right.marks aliases ++ (Expr.optionalMarks matching ++ Expr.optionalMarks on))
  | .turned .. => []
  | .other .. => []

def TableRef.allMarks (aliases : Bool) : List TableRef → List Mark
  | [] => []
  | table :: tables => table.marks aliases ++ TableRef.allMarks aliases tables

def Insert.marks : Insert → List Mark
  | { head := _, target, alias_ := _, columns := _, middle := _, source, trailer := _ } =>
    target.mark setting :: match source with
      | some query => query.marks
      | none => []

def Update.marks : Update → List Mark
  | { conflict := _, table, fromBefore := _, assignments, fromAfter := _, selection, returning := _ } =>
    table.marks true ++ (Expr.allMarks assignments ++ Expr.optionalMarks selection)

/-- The names in the list of a deletion may follow the tables that they mean. -/
def Delete.marks : Delete → List Mark
  | { targets, fromKeyword := _, from_, using_, selection, returning := _, orderBy, limit } =>
    targets.map (fun _ => Mark.renamed) ++ (TableRef.allMarks false from_ ++ ((match using_ with
      | some tables => TableRef.allMarks false tables
      | none => []) ++ (Expr.optionalMarks selection ++ (Expr.allMarks orderBy ++ Expr.optionalMarks limit))))

def Statement.marks : Statement → List Mark
  | .query query => query.marks
  | .insert insert => insert.marks
  | .update update => update.marks
  | .delete delete => delete.marks
  | .other => []

end

end

/-! ### Erasing -/

/-- A step of erasing, which takes the marks one by one. -/
abbrev Erasing := StateM (List Mark)

/-- The next mark. Nothing is erased when there are no marks left. -/
def nextMark : Erasing Mark := modifyGet fun
  | [] => (.kept, [])
  | mark :: marks => (mark, marks)

/-- The names in the list of a deletion. -/
def eraseNames : List ObjectName → Erasing (List ObjectName)
  | [] => return []
  | name :: names => do
    let mark ← nextMark
    let names ← eraseNames names
    return mark.name name :: names

mutual

/-- Erases what is marked in an expression. -/
def Expr.erase : Expr → Erasing Expr
  | .ident name => return .ident name
  | .column parts => return .column parts
  | .literal value => return .literal value
  | .typed type value => return .typed type value
  | .nested operand => do return .nested (← operand.erase)
  | .not operand => do return .not (← operand.erase)
  | .sign negative operand => do return .sign negative (← operand.erase)
  | .binary left op right => do
    let left ← left.erase
    let right ← right.erase
    return .binary left op right
  | .inList left negated items => do
    let left ← left.erase
    let items ← Expr.eraseAll items
    return .inList left negated items
  | .between left negated low high => do
    let left ← left.erase
    let low ← low.erase
    let high ← high.erase
    return .between left negated low high
  | .test left negated kind right => do
    let left ← left.erase
    let right ← right.erase
    return .test left negated kind right
  | .isNull operand => do return .isNull (← operand.erase)
  | .subquery query => do return .subquery (← query.erase)
  | .trim side what subject => do
    let what ← what.erase
    let subject ← subject.erase
    return .trim side what subject
  | .call name pieces => do return .call name (← Piece.eraseAll pieces)
  | .form pieces => do return .form (← Piece.eraseAll pieces)

def Expr.eraseAll : List Expr → Erasing (List Expr)
  | [] => return []
  | e :: es => do
    let e ← e.erase
    let es ← Expr.eraseAll es
    return e :: es

def Expr.eraseOptional : Option Expr → Erasing (Option Expr)
  | none => return none
  | some e => do return some (← e.erase)

def Expr.eraseRows : List (List Expr) → Erasing (List (List Expr))
  | [] => return []
  | row :: rows => do
    let row ← Expr.eraseAll row
    let rows ← Expr.eraseRows rows
    return row :: rows

def Piece.eraseAll : List Piece → Erasing (List Piece)
  | [] => return []
  | piece :: pieces => do
    let piece ← piece.erase
    let pieces ← Piece.eraseAll pieces
    return piece :: pieces

def Piece.erase : Piece → Erasing Piece
  | .words text => return .words text
  | .part operand => do return .part (← operand.erase)
  | .aside operand => return .aside operand

def Query.erase : Query → Erasing Query
  | { recursive, ctes, body, orderBy, limit, offset, limitBy, settings, fetch, ending } => do
    let ctes ← Cte.eraseAll ctes
    let body ← body.erase
    let orderBy ← Expr.eraseAll orderBy
    let limit ← Expr.eraseOptional limit
    let offset ← Expr.eraseOptional offset
    let limitBy ← Expr.eraseAll limitBy
    let fetch ← Expr.eraseOptional fetch
    return { recursive, ctes, body, orderBy, limit, offset, limitBy, settings, fetch, ending }

def Cte.erase : Cte → Erasing Cte
  | { alias_, keyword, query, source } => do return { alias_, keyword, query := ← query.erase, source }

def Cte.eraseAll : List Cte → Erasing (List Cte)
  | [] => return []
  | cte :: ctes => do
    let cte ← cte.erase
    let ctes ← Cte.eraseAll ctes
    return cte :: ctes

def Body.erase : Body → Erasing Body
  | .select select => do return .select (← select.erase)
  | .query query => do return .query (← query.erase)
  | .setOperation left words right => do
    let left ← left.erase
    let right ← right.erase
    return .setOperation left words right
  | .values explicitRow rows => do return .values explicitRow (← Expr.eraseRows rows)
  | .table schema name => return .table schema name
  | .statement statement => do return .statement (← statement.erase)

def Select.erase : Select → Erasing Select
  | { head, projection, into, from_, views, prewhere, selection, groupBy, groupTail, clusterBy,
      distributeBy, sortBy, having, windowsBefore, qualify, windowsAfter, connectBy } => do
    let projection ← Expr.eraseAll projection
    let from_ ← TableRef.eraseAll from_
    let prewhere ← Expr.eraseOptional prewhere
    let selection ← Expr.eraseOptional selection
    let groupBy ← Expr.eraseAll groupBy
    let clusterBy ← Expr.eraseAll clusterBy
    let distributeBy ← Expr.eraseAll distributeBy
    let sortBy ← Expr.eraseAll sortBy
    let having ← Expr.eraseOptional having
    let qualify ← Expr.eraseOptional qualify
    return {
      head, projection, into, from_, views, prewhere, selection, groupBy, groupTail, clusterBy,
      distributeBy, sortBy, having, windowsBefore, qualify, windowsAfter, connectBy }

def TableRef.erase : TableRef → Erasing TableRef
  | .table name arguments alias_ hints => do
    let mark ← nextMark
    return .table (mark.name name) arguments (mark.alias_ alias_) hints
  | .derived lateral query alias_ => do return .derived lateral (← query.erase) alias_
  | .nested inner alias_ => do return .nested (← inner.erase) alias_
  | .join left words right matching on using_ => do
    let left ← left.erase
    let right ← right.erase
    let matching ← Expr.eraseOptional matching
    let on ← Expr.eraseOptional on
    return .join left words right matching on using_
  | .turned source pieces alias_ => return .turned source pieces alias_
  | .other pieces alias_ trailer => return .other pieces alias_ trailer

def TableRef.eraseAll : List TableRef → Erasing (List TableRef)
  | [] => return []
  | table :: tables => do
    let table ← table.erase
    let tables ← TableRef.eraseAll tables
    return table :: tables

def Insert.erase : Insert → Erasing Insert
  | { head, target, alias_, columns, middle, source, trailer } => do
    let mark ← nextMark
    let source ← match source with
      | some query => do pure (some (← query.erase))
      | none => pure none
    return { head, target := mark.name target, alias_, columns, middle, source, trailer }

def Update.erase : Update → Erasing Update
  | { conflict, table, fromBefore, assignments, fromAfter, selection, returning } => do
    let table ← table.erase
    let assignments ← Expr.eraseAll assignments
    let selection ← Expr.eraseOptional selection
    return { conflict, table, fromBefore, assignments, fromAfter, selection, returning }

def Delete.erase : Delete → Erasing Delete
  | { targets, fromKeyword, from_, using_, selection, returning, orderBy, limit } => do
    let targets ← eraseNames targets
    let from_ ← TableRef.eraseAll from_
    let using_ ← match using_ with
      | some tables => do pure (some (← TableRef.eraseAll tables))
      | none => pure none
    let selection ← Expr.eraseOptional selection
    let orderBy ← Expr.eraseAll orderBy
    let limit ← Expr.eraseOptional limit
    return { targets, fromKeyword, from_, using_, selection, returning, orderBy, limit }

def Statement.erase : Statement → Erasing Statement
  | .query query => do return .query (← query.erase)
  | .insert insert => do return .insert (← insert.erase)
  | .update update => do return .update (← update.erase)
  | .delete delete => do return .delete (← delete.erase)
  | .other => return .other

end

/-- A statement without what is marked in it, and the marks that were not needed. -/
def Statement.erased (marks : List Mark) (statement : Statement) : Statement × List Mark :=
  (statement.erase.run marks).run

end Sql
end ShardRouting
