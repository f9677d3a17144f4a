import ShardRouting.Routing.Router

/-! The walk as a script. What a walk does to its progress depends on the statement only through a list
    of steps: the predicates on columns in the order they are read, and the scopes with the tables that
    they bind. The steps know nothing of parameters, of the engine or of the overrides, so two walks of
    one statement run the same script. Here are the steps and how they run; `Proofs/Effect` shows that
    the walk runs the script of its statement. -/

namespace ShardRouting

/-- What a predicate says of the value of its column. -/
inductive Evidence where
  /-- The value of an expression. -/
  | item (e : Sql.Expr)
  /-- The integers between two bounds; `text` is the predicate as messages quote it. -/
  | range (text : String) (low high : Sql.Expr)

/-- A predicate that routes the table its column is bound to, unless it is refused there. -/
structure KeyPredicate where
  column : ColumnRef
  refusal : Option (String × PredicateFault) := none
  evidence : List Evidence

namespace KeyPredicate

def equality (underNot : Bool) (column : ColumnRef) (right : Sql.Expr) : KeyPredicate where
  column := column
  refusal := if underNot then some (column.display ++ " = " ++ right.text, .underNot) else none
  evidence := [.item right]

def inList (underNot : Bool) (column : ColumnRef) (negated : Bool) (items : List Sql.Expr) :
    KeyPredicate where
  column := column
  refusal :=
    if negated then some (column.display ++ " NOT IN (..)", .negated)
    else if underNot then some (column.display ++ " IN (..)", .underNot)
    else if items.isEmpty then some (column.display ++ " IN ()", .emptyList)
    else none
  evidence := items.map .item

def between (underNot : Bool) (column : ColumnRef) (negated : Bool) (low high : Sql.Expr) : KeyPredicate :=
  let text := column.display ++ " BETWEEN " ++ low.text ++ " AND " ++ high.text
  { column
    refusal :=
      if negated then some ("NOT " ++ text, .negated)
      else if underNot then some (text, .underNot)
      else none
    evidence := [.range text low high] }

end KeyPredicate

/-- A place in a scope where a table is named. -/
structure Site where
  slot : Slot
  name : Sql.ObjectName
  alias_ : Option String

inductive Step where
  | key (predicate : KeyPredicate)
  /-- A predicate on `left` that no value can be read from. -/
  | other (left : Sql.Expr) (operator text : String)
  /-- A scope with its tables, and the steps until it closes. -/
  | scope (aliases : Bool) (sites : List Site) (steps : List Step)

namespace Walk

/-! ### Running a script -/

/-- Adds what one piece of evidence tells of a bound table. -/
def weigh (setting : Setting) (column : ColumnRef) (binding : Binding) : Evidence → Walk Binding
  | .item e => routeItem setting column binding e
  | .range text low high => do
    let low ← readFor setting column low
    let high ← readFor setting column high
    routeRange setting text binding low high

def weighAll (setting : Setting) (column : ColumnRef) (binding : Binding) : List Evidence → Walk Binding
  | [] => return binding
  | evidence :: rest => do weighAll setting column (← weigh setting column binding evidence) rest

def onKey (setting : Setting) (predicate : KeyPredicate) : Walk Unit := do
  match ← boundTable predicate.column with
  | none => return ()
  | some (index, binding) => match predicate.refusal with
    | some (text, fault) => refuse text fault
    | none =>
      let binding := binding.see predicate.column.display
      updateTable index (← weighAll setting predicate.column binding predicate.evidence)

def bindSites (setting : Setting) (depth : Nat) : List Site → Walk Unit
  | [] => return ()
  | site :: sites => do
    bindTable setting depth site.slot site.name site.alias_
    bindSites setting depth sites

/-- Runs a step in a scope of its own and closes that scope. -/
def runScope (setting : Setting) (aliases : Bool) (step : Walk Unit) : Walk Unit := do
  let (_, scope) ← inScope step
  let _ ← closeScope setting aliases scope.bindings

mutual

def runStep (setting : Setting) (depth : Nat) : Step → Walk Unit
  | .key predicate => onKey setting predicate
  | .other left operator text => onOther left operator text
  | .scope aliases sites steps => runScope setting aliases do
    bindSites setting (depth + 1) sites
    runSteps setting (depth + 1) steps

def runSteps (setting : Setting) (depth : Nat) : List Step → Walk Unit
  | [] => return ()
  | step :: steps => do
    runStep setting depth step
    runSteps setting depth steps

end

end Walk

namespace Sql

/-! ### The script of a statement -/

/-- What a predicate does before its parts are walked. -/
def Expr.ownSteps (underNot : Bool) : Expr → List Step
  | .binary left op right => match op with
    | .eq => match ColumnRef.ofExpr? left with
      | some ref => [.key (.equality underNot ref right)]
      | none => []
    | .notEq | .less | .lessEq | .greater | .greaterEq =>
      [.other left op.text (left.text ++ " " ++ op.text ++ " " ++ right.text)]
    | _ => []
  | .inList left negated items => match ColumnRef.ofExpr? left with
    | some ref => [.key (.inList underNot ref negated items)]
    | none => []
  | .between left negated low high => match ColumnRef.ofExpr? left with
    | some ref => [.key (.between underNot ref negated low high)]
    | none => []
  | .test left _ kind right =>
    let infixed (operator : String) : Step :=
      .other left operator (left.text ++ " " ++ operator ++ " " ++ right.text)
    match kind with
    | .inSubquery => [.other left "IN (subquery)" (left.text ++ " IN (subquery)")]
    | .inArray => [.other left "IN UNNEST" (left.text ++ " IN UNNEST(" ++ right.text ++ ")")]
    | .matching word _ _ => [infixed word]
    | .regexp _ => [infixed "REGEXP"]
    | .quantified comparison _ => [infixed (comparison ++ " ANY/ALL")]
    | .distinct => [infixed "IS DISTINCT FROM"]
  | .isNull operand => [.other operand "IS NULL" (operand.text ++ " IS NULL")]
  | _ => []

/-- The numbered tables of a statement as places, the first of which has number `index`. -/
def Factor.sites (index : Nat) : List Factor → List Site
  | [] => []
  | factor :: factors =>
    ⟨.factor index, factor.name, factor.alias_.map fun alias_ => alias_.name.value⟩ ::
      Factor.sites (index + 1) factors

/-- The rows of an insertion that names its columns, as predicates. -/
def Insert.ownSteps (insert : Insert) : List Step :=
  match insert.columns, insert.source with
  | _ :: _, some { body := .values _ rows, .. } => rows.flatMap fun row =>
    (insert.columns.zip row).map fun (name, value) => .key (.equality false (.ofName name) value)
  | _, _ => []

mutual

def Expr.steps (underNot : Bool) : Expr → List Step
  | .ident _ => []
  | .column _ => []
  | .literal _ => []
  | .typed _ _ => []
  | .nested operand => operand.steps underNot
  | .not operand => operand.steps true
  | .sign _ operand => operand.steps underNot
  | .binary left op right =>
    Expr.ownSteps underNot (.binary left op right) ++ (left.steps underNot ++ right.steps underNot)
  | .inList left negated items =>
    Expr.ownSteps underNot (.inList left negated items) ++ (left.steps underNot ++ Expr.allSteps underNot items)
  | .between left negated low high =>
    Expr.ownSteps underNot (.between left negated low high) ++
      (left.steps underNot ++ (low.steps underNot ++ high.steps underNot))
  | .test left negated kind right =>
    Expr.ownSteps underNot (.test left negated kind right) ++ (left.steps underNot ++ right.steps underNot)
  | .isNull operand => Expr.ownSteps underNot (.isNull operand) ++ operand.steps underNot
  | .subquery query => query.steps
  | .trim _ what subject => subject.steps underNot ++ what.steps underNot
  | .call _ pieces => Piece.allSteps underNot pieces
  | .form pieces => Piece.allSteps underNot pieces

def Expr.allSteps (underNot : Bool) : List Expr → List Step
  | [] => []
  | e :: es => e.steps underNot ++ Expr.allSteps underNot es

def Expr.optionalSteps (underNot : Bool) : Option Expr → List Step
  | none => []
  | some e => e.steps underNot

def Expr.rowSteps : List (List Expr) → List Step
  | [] => []
  | row :: rows => Expr.allSteps false row ++ Expr.rowSteps rows

def Piece.allSteps (underNot : Bool) : List Piece → List Step
  | [] => []
  | piece :: pieces => piece.steps underNot ++ Piece.allSteps underNot pieces

def Piece.steps (underNot : Bool) : Piece → List Step
  | .words _ => []
  | .part operand => operand.steps underNot
  | .aside _ => []

def Query.steps : Query → List Step
  | { recursive := _, ctes, body, orderBy, limit, offset, limitBy, settings := _, fetch, ending := _ } =>
    Cte.allSteps ctes ++ body.steps (Expr.allSteps false orderBy ++ (Expr.optionalSteps false limit ++
      (Expr.allSteps false limitBy ++ (Expr.optionalSteps false offset ++ Expr.optionalSteps false fetch))))

def Cte.steps : Cte → List Step
  | { alias_ := _, keyword := _, query, source := _ } => query.steps

def Cte.allSteps : List Cte → List Step
  | [] => []
  | cte :: ctes => cte.steps ++ Cte.allSteps ctes

/-- The steps of a body; `tail` are those of the clauses behind it. -/
def Body.steps (tail : List Step) : Body → List Step
  | .select select => select.steps tail
  | .query query => query.steps ++ tail
  | .setOperation left _ right => left.steps [] ++ (right.steps [] ++ tail)
  | .values _ rows => Expr.rowSteps rows ++ tail
  | .table _ _ => tail
  | .statement statement => statement.steps ++ tail

def Select.steps (tail : List Step) : Select → List Step
  | { head := _, projection, into := _, from_, views := _, prewhere, selection, groupBy, groupTail := _,
      clusterBy, distributeBy, sortBy, having, windowsBefore := _, qualify, windowsAfter := _,
      connectBy := _ } =>
    [.scope true (Factor.sites 0 (factors from_))
      (TableRef.allSteps from_ ++ (Expr.allSteps false projection ++ (Expr.optionalSteps false prewhere ++
        (Expr.optionalSteps false selection ++ (Expr.allSteps false groupBy ++
        (Expr.optionalSteps false having ++ (Expr.optionalSteps false qualify ++
        (Expr.allSteps false clusterBy ++ (Expr.allSteps false distributeBy ++
        (Expr.allSteps false sortBy ++ tail))))))))))]

def TableRef.steps : TableRef → List Step
  | .table .. => []
  | .derived _ query _ => query.steps
  | .nested inner _ => inner.steps
  | .join left _ right matching on _ =>
    left.steps ++ (right.steps ++ (Expr.optionalSteps false matching ++ Expr.optionalSteps false on))
  | .turned .. => []
  | .other .. => []

def TableRef.allSteps : List TableRef → List Step
  | [] => []
  | table :: tables => table.steps ++ TableRef.allSteps tables

def Insert.steps : Insert → List Step
  | { head, target, alias_, columns, middle, source, trailer } =>
    [.scope false [⟨.target, target, none⟩]
      (Insert.ownSteps { head, target, alias_, columns, middle, source, trailer } ++
        match source with
        | some query => query.steps
        | none => [])]

def Update.steps : Update → List Step
  | { conflict := _, table, fromBefore := _, assignments, fromAfter := _, selection, returning := _ } =>
    [.scope true (Factor.sites 0 (tableFactors table))
      (table.steps ++ (Expr.allSteps false assignments ++ Expr.optionalSteps false selection))]

def Delete.steps : Delete → List Step
  | { targets := _, fromKeyword := _, from_, using_, selection, returning := _, orderBy, limit } =>
    [.scope false (Factor.sites 0 (factors from_ ++ factors (using_.getD [])))
      (TableRef.allSteps from_ ++
        ((match using_ with
          | some tables => TableRef.allSteps tables
          | none => []) ++
        (Expr.optionalSteps false selection ++ (Expr.allSteps false orderBy ++
        Expr.optionalSteps false limit))))]

def Statement.steps : Statement → List Step
  | .query query => query.steps
  | .insert insert => insert.steps
  | .update update => update.steps
  | .delete delete => delete.steps
  | .other => []

end

end Sql
end ShardRouting
