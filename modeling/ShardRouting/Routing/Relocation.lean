import ShardRouting.Routing.Scope

/-! Writing destinations into the names of tables. The tables of a statement are numbered from the left,
    those inside parentheses included; derived tables, turned tables and table functions of their own have
    no number. -/

namespace ShardRouting
open Sql

/-- A destination for one table of a scope, with the alias that it gets. -/
structure Relocation where
  slot : Slot
  route : Destination
  alias_ : Option Ident
  deriving DecidableEq, Repr

/-- The last two parts become the physical schema and table. -/
def renameQualified (route : Destination) : ObjectName → ObjectName
  | [schema, table] => [{ schema with value := route.schema }, { table with value := route.table }]
  | part :: parts => part :: renameQualified route parts
  | [] => []

/-- A schema is the default schema whatever the case of its ASCII letters. -/
def isDefaultSchema (defaultSchema : Option String) (schema : String) : Bool :=
  match defaultSchema with
  | some default => Text.sameAscii default schema
  | none => false

/-- Writes a destination into a name. A name of one part gets a schema in front, in the same quotes,
    unless that is the default schema. -/
def rename (defaultSchema : Option String) (route : Destination) (name : ObjectName) : ObjectName :=
  match name with
  | [table] =>
    let renamed : Ident := { table with value := route.table }
    if isDefaultSchema defaultSchema route.schema then [renamed]
    else [⟨route.schema, table.quote⟩, renamed]
  | name => renameQualified route name

/-- A numbered table as its statement names it. -/
structure Factor where
  name : ObjectName
  alias_ : Option TableAlias

/-- The numbered tables inside a table reference, in order. -/
def tableFactors : TableRef → List Factor
  | .table name _ alias_ _ => [⟨name, alias_⟩]
  | .nested inner _ => tableFactors inner
  | .join left _ right _ _ _ => tableFactors left ++ tableFactors right
  | .derived .. => []
  | .turned .. => []
  | .other .. => []

def factors (tables : List TableRef) : List Factor := tables.flatMap tableFactors

/-- The relocation of a numbered table, if there is one. -/
def relocationAt? (relocations : List Relocation) (index : Nat) : Option Relocation :=
  relocations.find? (·.slot = .factor index)

/-- Applies relocations to the numbered tables of a reference, the first of which has number `index`. -/
def relocateTable (defaultSchema : Option String) (relocations : List Relocation) (index : Nat) :
    TableRef → TableRef
  | .table name arguments alias_ hints =>
    match relocationAt? relocations index with
    | none => .table name arguments alias_ hints
    | some relocation =>
      let given := relocation.alias_.map fun name => { name }
      .table (rename defaultSchema relocation.route name) arguments (given.or alias_) hints
  | .nested inner alias_ => .nested (relocateTable defaultSchema relocations index inner) alias_
  | .join left words right matching on using_ =>
    .join (relocateTable defaultSchema relocations index left) words
      (relocateTable defaultSchema relocations (index + (tableFactors left).length) right) matching on using_
  | .derived lateral query alias_ => .derived lateral query alias_
  | .turned source pieces alias_ => .turned source pieces alias_
  | .other pieces alias_ trailer => .other pieces alias_ trailer

def relocateTables (defaultSchema : Option String) (relocations : List Relocation) (index : Nat) :
    List TableRef → List TableRef
  | [] => []
  | table :: tables =>
    relocateTable defaultSchema relocations index table ::
      relocateTables defaultSchema relocations (index + (tableFactors table).length) tables

/-- The name that rows are inserted into. -/
def relocateTarget (defaultSchema : Option String) (relocations : List Relocation) (name : ObjectName) :
    ObjectName :=
  match relocations.find? (·.slot = .target) with
  | some relocation => rename defaultSchema relocation.route name
  | none => name

/-- A name in the list of a deletion means a table that is written like it, but for the case of ASCII
    letters. -/
def names (name other : ObjectName) : Bool :=
  match name.split?, other.split? with
  | some (schema, table), some (otherSchema, otherTable) =>
    Text.sameAscii otherTable.value table.value && match schema, otherSchema with
      | some schema, some otherSchema => Text.sameAscii schema.value otherSchema.value
      | none, none => true
      | _, _ => false
  | _, _ => false

/-- A name in the list of a deletion follows the first relocated table without alias that it means. -/
def relocateListed (defaultSchema : Option String) (relocations : List Relocation) (factors : List Factor)
    (name : ObjectName) : ObjectName :=
  let means (relocation : Relocation) : Bool := match relocation.slot with
    | .factor index => match factors[index]? with
      | some factor => factor.alias_.isNone && names name factor.name
      | none => false
    | .target => false
  match relocations.find? means with
  | some relocation => rename defaultSchema relocation.route name
  | none => name

end ShardRouting
