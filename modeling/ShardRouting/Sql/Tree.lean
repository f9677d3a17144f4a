import ShardRouting.Sql.Token

/-! Statement trees. Predicates, tables and the clauses of a statement have constructors of their own;
    all other expressions are forms, which hold their printed words and, between them, the expressions
    inside. -/

namespace ShardRouting
namespace Sql

/-- A name; `quote` is the character that begins its quotes. -/
structure Ident where
  value : String
  quote : Option Char := none
  deriving DecidableEq, Repr, Inhabited

/-- A name of one or more parts, the name of the object last. -/
abbrev ObjectName := List Ident

inductive Literal where
  | number (digits : String) (long : Bool)
  | string (style : QuoteStyle) (content : String)
  | boolean (value : Bool)
  | null
  | placeholder (text : String) (position : Position)
  deriving DecidableEq, Repr, Inhabited

/-- A type by its text; `temporal` when its values are dates or times. -/
structure DataType where
  text : String
  temporal : Bool := false
  deriving DecidableEq, Repr, Inhabited

inductive BinaryOp where
  | eq
  | notEq
  | less
  | lessEq
  | greater
  | greaterEq
  | and
  | or
  | other (symbol : String)
  deriving DecidableEq, Repr, Inhabited

/-- Predicates on one expression by another that no value can be read from. -/
inductive Test where
  | inSubquery
  | inArray
  /-- Pattern matching by the keywords `word`. -/
  | matching (word : String) (any : Bool) (escape : Option String)
  /-- Pattern matching by regular expressions, with either keyword. -/
  | regexp (word : String)
  /-- A comparison with some or all of many values. -/
  | quantified (comparison : String) (quantifier : String)
  | distinct
  deriving DecidableEq, Repr, Inhabited

structure AliasColumn where
  name : Ident
  type : Option String
  deriving DecidableEq, Repr

structure TableAlias where
  name : Ident
  columns : List AliasColumn := []
  deriving DecidableEq, Repr

mutual

inductive Expr where
  | ident (name : Ident)
  /-- A name of at least two parts. -/
  | column (parts : List Ident)
  | literal (value : Literal)
  /-- A literal behind the name of its type. -/
  | typed (type : DataType) (value : Literal)
  | nested (operand : Expr)
  | not (operand : Expr)
  | sign (negative : Bool) (operand : Expr)
  | binary (left : Expr) (op : BinaryOp) (right : Expr)
  | inList (left : Expr) (negated : Bool) (items : List Expr)
  | between (left : Expr) (negated : Bool) (low high : Expr)
  | test (left : Expr) (negated : Bool) (kind : Test) (right : Expr)
  | isNull (operand : Expr)
  | subquery (query : Query)
  /-- The characters `what` are taken off `subject`. -/
  | trim (side : String) (what subject : Expr)
  | call (name : ObjectName) (pieces : List Piece)
  | form (pieces : List Piece)

/-- A piece of a form or of a call behind its name. -/
inductive Piece where
  | words (text : String)
  | part (operand : Expr)
  /-- An expression that is printed, and in which no table is routed. -/
  | aside (operand : Expr)

structure Query where
  recursive : Bool
  ctes : List Cte
  body : Body
  orderBy : List Expr
  limit : Option Expr
  offset : Option Expr
  limitBy : List Expr
  settings : List Piece
  fetch : Option Expr
  ending : List Piece

structure Cte where
  alias_ : TableAlias
  keyword : String
  query : Query
  source : Option Ident

inductive Body where
  | select (select : Select)
  | query (query : Query)
  | setOperation (left : Body) (words : String) (right : Body)
  | values (explicitRow : Bool) (rows : List (List Expr))
  | table (schema : Option String) (name : String)
  | statement (statement : Statement)

structure Select where
  head : List Piece
  projection : List Expr
  into : List Piece
  from_ : List TableRef
  views : List Piece
  prewhere : Option Expr
  selection : Option Expr
  groupBy : List Expr
  groupTail : List Piece
  clusterBy : List Expr
  distributeBy : List Expr
  sortBy : List Expr
  having : Option Expr
  windowsBefore : List Piece
  qualify : Option Expr
  windowsAfter : List Piece
  connectBy : List Piece

inductive TableRef where
  | table (name : ObjectName) (arguments : List Piece) (alias_ : Option TableAlias) (hints : List Piece)
  | derived (lateral : Bool) (query : Query) (alias_ : Option TableAlias)
  | nested (inner : TableRef) (alias_ : Option TableAlias)
  | join (left : TableRef) (words : String) (right : TableRef) (matching on : Option Expr)
      (using_ : List ObjectName)
  /-- A table whose rows and columns are turned, or searched for patterns, as the pieces say. -/
  | turned (source : TableRef) (pieces : List Piece) (alias_ : Option TableAlias)
  /-- Any other source of rows. The `trailer` stands behind the alias. -/
  | other (pieces : List Piece) (alias_ : Option TableAlias) (trailer : String)

structure Insert where
  head : String
  target : ObjectName
  alias_ : Option Ident
  columns : List Ident
  middle : List Piece
  source : Option Query
  trailer : List Piece

structure Update where
  conflict : String
  table : TableRef
  fromBefore : List TableRef
  assignments : List Expr
  fromAfter : List TableRef
  selection : Option Expr
  returning : List Piece

structure Delete where
  targets : List ObjectName
  fromKeyword : Bool
  from_ : List TableRef
  using_ : Option (List TableRef)
  selection : Option Expr
  returning : List Piece
  orderBy : List Expr
  limit : Option Expr

inductive Statement where
  | query (query : Query)
  | insert (insert : Insert)
  | update (update : Update)
  | delete (delete : Delete)
  /-- A statement of any other kind. -/
  | other

end

instance : Inhabited Expr := ⟨.form []⟩

/-- The innermost name of an object and the name of its schema, if it has one. -/
def ObjectName.split? (name : ObjectName) : Option (Option Ident × Ident) :=
  match name.reverse with
  | [] => none
  | [table] => some (none, table)
  | table :: schema :: _ => some (some schema, table)

end Sql
end ShardRouting
