import ShardRouting.Settings.Toml.Scalar

/-! TOML documents. Lines are read into statements, and the statements are put together into one table.
    A table that is defined once cannot be defined again; a dotted name may only extend a table that
    dotted names made. -/

namespace ShardRouting
namespace Toml

/-- How a table came about. -/
inductive Origin where
  /-- On the way to the table of a header. -/
  | implied
  /-- By its own header. -/
  | header
  /-- By a dotted name. -/
  | dotted
  deriving DecidableEq

/-- What stands under a name while a document is put together. Values, inline tables among them, are
    closed. -/
inductive Node where
  | value (datum : Datum)
  | table (origin : Origin) (fields : List (String × Node))
  | tables (items : List (List (String × Node)))
  deriving Inhabited

abbrev Fields := List (String × Node)

/-- Changes the entry of a name; an unknown name comes last. -/
def Fields.alter (name : String) (change : Option Node → Option Node) : Fields → Option Fields
  | [] => (change none).map fun node => [(name, node)]
  | (key, node) :: rest =>
    if key = name then (change (some node)).map fun node => (key, node) :: rest
    else (Fields.alter name change rest).map ((key, node) :: ·)

/-- Changes the last item of a list. -/
def alterLast (change : α → Option α) : List α → Option (List α)
  | [] => none
  | [a] => (change a).map ([·])
  | a :: as => (alterLast change as).map (a :: ·)

/-- Goes down a path and changes the table at its end, which is made when it is missing. An array of
    tables stands for its last one. `change` learns whether dotted names made the table. -/
def descend (byDots : Bool) (change : Bool → Fields → Option Fields) (here : Bool) :
    List String → Fields → Option Fields
  | [], fields => change here fields
  | name :: path, fields =>
    Fields.alter name (fun entry => match entry with
      | none =>
        let origin := if byDots then .dotted else .implied
        (descend byDots change byDots path []).map (.table origin)
      | some (.table origin fields) =>
        if byDots ∧ origin = .header then none
        else (descend byDots change (origin = .dotted) path fields).map (.table origin)
      | some (.tables items) => (alterLast (descend byDots change false path) items).map .tables
      | some (.value _) => none) fields

/-- Enters `key = value` into the open table. -/
def assign (path : List String) (datum : Datum) (fields : Fields) : Option Fields :=
  descend true (fun dotted fields =>
    if dotted = (path.length ≤ 1) then none
    else Fields.alter (path.getLastD "") (fun entry => match entry with
      | none => some (.value datum)
      | some _ => none) fields) false path.dropLast fields

/-- Opens the table of a header. -/
def openTable (path : List String) (fields : Fields) : Option Fields :=
  descend false (fun _ fields =>
    Fields.alter (path.getLastD "") (fun entry => match entry with
      | none => some (.table .header [])
      | some (.table .implied fields) => some (.table .header fields)
      | _ => none) fields) false path.dropLast fields

/-- Opens one more table of an array. -/
def openItem (path : List String) (fields : Fields) : Option Fields :=
  descend false (fun _ fields =>
    Fields.alter (path.getLastD "") (fun entry => match entry with
      | none => some (.tables [[]])
      | some (.tables items) => some (.tables (items ++ [[]]))
      | _ => none) fields) false path.dropLast fields

mutual

def Node.datum : Node → Datum
  | .value datum => datum
  | .table _ fields => .table (fieldsDatum fields)
  | .tables items => .list (itemsDatum items)

def fieldsDatum : Fields → List (String × Datum)
  | [] => []
  | (name, node) :: rest => (name, node.datum) :: fieldsDatum rest

def itemsDatum : List Fields → List Datum
  | [] => []
  | fields :: rest => .table (fieldsDatum fields) :: itemsDatum rest

end

/-! ### Values -/

/-- Blanks, line ends and comments between the items of an array. -/
def skipLines (fuel : Nat) (cs : List Char) : List Char :=
  match fuel with
  | 0 => cs
  | fuel + 1 =>
    let cs := skipComment (skipSpaces cs)
    match lineEnd? cs with
    | some cs => skipLines fuel cs
    | none => cs

mutual

/-- A value; `fuel` bounds the number of values in it. -/
def value (fuel : Nat) (cs : List Char) : Option (Datum × List Char) :=
  match fuel with
  | 0 => none
  | fuel + 1 =>
    match cs with
    | '[' :: cs => (items fuel (skipLines cs.length cs)).map fun (items, cs) => (.list items, cs)
    | '\x7b' :: cs =>
      match skipSpaces cs with
      | '\x7d' :: cs => some (.table [], cs)
      | cs => (fields fuel [] cs).map fun (fields, cs) => (.table (fieldsDatum fields), cs)
    | c :: _ =>
      if c = '"' ∨ c = '\'' then (string cs).map fun (s, cs) => (.string s, cs) else bareValue cs
    | [] => none

/-- The items of an array up to its bracket. A comma may stand behind the last one. -/
def items (fuel : Nat) (cs : List Char) : Option (List Datum × List Char) :=
  match fuel, cs with
  | 0, _ => none
  | _, ']' :: cs => some ([], cs)
  | fuel + 1, cs => do
    let (item, cs) ← value fuel cs
    match skipLines cs.length cs with
    | ',' :: cs =>
      let (rest, cs) ← items fuel (skipLines cs.length cs)
      return (item :: rest, cs)
    | ']' :: cs => return ([item], cs)
    | _ => none

/-- The fields of an inline table up to its brace, on one line. -/
def fields (fuel : Nat) (read : Fields) (cs : List Char) : Option (Fields × List Char) :=
  match fuel with
  | 0 => none
  | fuel + 1 => do
    let (path, cs) ← key cs.length cs
    match cs with
    | '=' :: cs =>
      let (datum, cs) ← value fuel (skipSpaces cs)
      let read ← assign path datum read
      match skipSpaces cs with
      | ',' :: cs => fields fuel read cs
      | '\x7d' :: cs => return (read, cs)
      | _ => none
    | _ => none

end

/-! ### Lines -/

inductive Line where
  | blank
  | header (path : List String)
  | item (path : List String)
  | assignment (path : List String) (datum : Datum)

/-- The rest of a line holds nothing but a comment. -/
def finish (line : Line) (cs : List Char) : Option (Line × List Char) :=
  match skipComment (skipSpaces cs) with
  | [] => some (line, [])
  | cs => (lineEnd? cs).map (line, ·)

/-- One line, or the lines of one value. -/
def line (cs : List Char) : Option (Line × List Char) :=
  match skipSpaces cs with
  | '[' :: '[' :: cs => do
    let (path, cs) ← key cs.length cs
    match cs with
    | ']' :: ']' :: cs => finish (.item path) cs
    | _ => none
  | '[' :: cs => do
    let (path, cs) ← key cs.length cs
    match cs with
    | ']' :: cs => finish (.header path) cs
    | _ => none
  | [] => some (.blank, [])
  | c :: cs =>
    if c = '#' ∨ c = '\n' ∨ c = '\r' then finish .blank (c :: cs)
    else do
      let (path, cs) ← key (cs.length + 1) (c :: cs)
      match cs with
      | '=' :: cs =>
        let (datum, cs) ← value cs.length (skipSpaces cs)
        finish (.assignment path datum) cs
      | _ => none

/-- Puts the lines together. `opened` is the path of the last header. -/
def assemble (fuel : Nat) (opened : List String) (fields : Fields) (cs : List Char) : Option Fields :=
  match fuel, cs with
  | _, [] => some fields
  | 0, _ => none
  | fuel + 1, cs => do
    let (line, cs) ← line cs
    match line with
    | .blank => assemble fuel opened fields cs
    | .header path => assemble fuel path (← openTable path fields) cs
    | .item path => assemble fuel path (← openItem path fields) cs
    | .assignment path datum =>
      let fields ← descend false (fun _ fields => assign path datum fields) false opened fields
      assemble fuel opened fields cs

/-- The table that a document describes; a byte order mark in front is left out. -/
def parse (text : String) : Option (List (String × Datum)) :=
  let cs := match text.toList with
    | '\ufeff' :: cs => cs
    | cs => cs
  (assemble (cs.length + 1) [] [] cs).map fieldsDatum

end Toml
end ShardRouting
