import ShardRouting.Sql.Grammar.Reader
import ShardRouting.Sql.Tree.Text

/-! Names of data types, with their lengths, precisions and brackets. -/

namespace ShardRouting
namespace Sql
namespace Grammar

/-- A type that was read. Any name is a type, but only the known ones may stand in front of a literal. -/
inductive TypeName where
  | known (type : DataType)
  | interval
  | custom (text : String)

def TypeName.type : TypeName → DataType
  | .known type => type
  | .interval => { text := "INTERVAL" }
  | .custom text => { text }

/-- `(n)` behind a type, if it is there. -/
def precision : Reader String := do
  match ← given (symbol "(") natural with
  | some n =>
    needSymbol ")"
    return "(" ++ toString n ++ ")"
  | none => return ""

/-- `(n)` or `(n,m)`. -/
def precisionAndScale : Reader String := do
  if !(← symbol "(") then return ""
  let n ← natural
  let scale ← given (symbol ",") natural
  needSymbol ")"
  match scale with
  | some m => return "(" ++ toString n ++ "," ++ toString m ++ ")"
  | none => return "(" ++ toString n ++ ")"

/-- `(n)` with a unit, or `(MAX)`. -/
def characterLength : Reader String := do
  if !(← symbol "(") then return ""
  let length ← if ← keyword "MAX" then pure "MAX" else do
    let n ← natural
    match ← oneOf ["CHARACTERS", "OCTETS"] with
    | some unit => pure (toString n ++ " " ++ unit)
    | none => pure (toString n)
  needSymbol ")"
  return "(" ++ length ++ ")"

/-- `(n)` or `(MAX)`. -/
def byteLength : Reader String := do
  if !(← symbol "(") then return ""
  let length ← if ← keyword "MAX" then pure "MAX" else pure (toString (← natural))
  needSymbol ")"
  return "(" ++ length ++ ")"

/-- A number or a placeholder. -/
def numeral : Reader Literal := do
  match ← literal with
  | .number digits long => return .number digits long
  | .placeholder text position => return .placeholder text position
  | _ => refuse

/-- As `numeral`, with a sign in front of it where one is written. -/
def signedNumeral : Reader String := do
  let sign ← if ← symbol "-" then pure "-" else if ← symbol "+" then pure "+" else pure ""
  return sign ++ (← numeral).text

/-- The members of an enumeration, each of which may have a number. -/
def enumMembers : Reader String := do
  let members ← inParens (commaList do
    let name ← stringText
    let value ← match ← given (symbol "=") signedNumeral with
      | some value => pure (" = " ++ value)
      | none => pure ""
    return QuoteStyle.text .single name ++ value)
  return "(" ++ commas members ++ ")"

/-- The strings of a set. -/
def stringValues : Reader String := do
  let values ← inParens (commaItems false do
    match (← take).token with
    | .string .single content => return QuoteStyle.text .single content
    | _ => refuse)
  return "(" ++ commas values ++ ")"

/-- Whether the type has a time zone. -/
def timeZone : Reader String := do
  if ← keyword "WITH" then
    needKeywords ["TIME", "ZONE"]
    return " WITH TIME ZONE"
  if ← keyword "WITHOUT" then
    needKeywords ["TIME", "ZONE"]
    return " WITHOUT TIME ZONE"
  return ""

/-- What stands in parentheses behind the name of a custom type. -/
def modifiers : Reader String := do
  if !(← symbol "(") then return ""
  let items ← many do
    let _ ← many (given (symbol ",") (pure ()))
    if ← symbol ")" then return none
    match (← take).token with
    | .word value quote => return some (Token.word value quote).text
    | .number digits _ => return some digits
    | .string .single content => return some content
    | _ => refuse
  return if items.isEmpty then "" else "(" ++ commas items ++ ")"

/-- Types without parameters. -/
def bareTypes : List (String × String) :=
  [("BOOLEAN", "BOOLEAN"), ("BOOL", "BOOL"), ("REAL", "REAL"), ("FLOAT4", "FLOAT4"), ("FLOAT8", "FLOAT8"),
    ("FLOAT32", "Float32"), ("FLOAT64", "FLOAT64"), ("INT16", "Int16"), ("INT32", "Int32"),
    ("INT64", "INT64"), ("INT128", "Int128"), ("INT256", "Int256"), ("UINT8", "UInt8"),
    ("UINT16", "UInt16"), ("UINT32", "UInt32"), ("UINT64", "UInt64"), ("UINT128", "UInt128"),
    ("UINT256", "UInt256"), ("TINYBLOB", "TINYBLOB"), ("MEDIUMBLOB", "MEDIUMBLOB"),
    ("LONGBLOB", "LONGBLOB"), ("UUID", "UUID"), ("DATE32", "Date32"), ("JSON", "JSON"), ("JSONB", "JSONB"),
    ("REGCLASS", "REGCLASS"), ("TEXT", "TEXT"), ("TINYTEXT", "TINYTEXT"), ("MEDIUMTEXT", "MEDIUMTEXT"),
    ("LONGTEXT", "LONGTEXT"), ("BYTEA", "BYTEA"), ("TRIGGER", "TRIGGER")]

/-- Types with an optional precision. -/
def preciseTypes : List String :=
  ["FLOAT", "CLOB", "BINARY", "BLOB", "BYTES", "STRING", "VARBIT"]

/-- Integer types, which have a width and may be unsigned. -/
def integerTypes : List String :=
  ["TINYINT", "INT2", "SMALLINT", "MEDIUMINT", "INT", "INT4", "INT8", "INTEGER", "BIGINT"]

def decimalTypes : List String := ["NUMERIC", "DECIMAL", "DEC", "BIGNUMERIC", "BIGDECIMAL"]

def geometricTypes : List String := ["POINT", "LINE", "LSEG", "BOX", "PATH", "POLYGON", "CIRCLE"]

/-- A character type whose name goes on with `VARYING` or `LARGE OBJECT`. -/
def characterType (name : String) : Reader String := do
  if ← keyword "VARYING" then return name ++ " VARYING" ++ (← characterLength)
  if ← keywords ["LARGE", "OBJECT"] then return name ++ " LARGE OBJECT" ++ (← precision)
  return name ++ (← characterLength)

/-- A point in time, with its precision and time zone. -/
def momentType (name : String) : Reader TypeName := do
  let digits ← precision
  return .known { text := name ++ digits ++ (← timeZone), temporal := true }

/-- The type that a keyword names, unless it takes other types as parameters. -/
def keywordType (word : String) : Reader (Option TypeName) := do
  let known (text : String) : Reader (Option TypeName) := return some (.known { text })
  match bareTypes.lookup word with
  | some text => known text
  | none =>
    if preciseTypes.contains word then known (word ++ (← precision))
    else if integerTypes.contains word then
      let width ← precision
      if ← keyword "UNSIGNED" then known (word ++ width ++ " UNSIGNED") else known (word ++ width)
    else if decimalTypes.contains word then known (word ++ (← precisionAndScale))
    else if geometricTypes.contains word then
      if ← among [.postgres] then known word else return none
    else match word with
      | "DOUBLE" =>
        if ← keyword "PRECISION" then known "DOUBLE PRECISION" else known ("DOUBLE" ++ (← precisionAndScale))
      | "VARCHAR" | "NVARCHAR" => known (word ++ (← characterLength))
      | "VARBINARY" => known (word ++ (← byteLength))
      | "SIGNED" | "UNSIGNED" => if ← keyword "INTEGER" then known (word ++ " INTEGER") else known word
      | "CHARACTER" | "CHAR" => known (← characterType word)
      | "BIT" =>
        let name := if ← keyword "VARYING" then "BIT VARYING" else "BIT"
        known (name ++ (← precision))
      | "DATE" => return some (.known { text := "DATE", temporal := true })
      | "DATETIME64" => known (← inParens do
          let digits ← natural
          let zone ← given (symbol ",") stringText
          return "DateTime64(" ++ toString digits ++ (zone.elim "" fun zone => ", '" ++ zone ++ "'") ++ ")")
      | "FIXEDSTRING" => known ("FixedString(" ++ toString (← inParens natural) ++ ")")
      | "DATETIME" => return some (.known { text := "DATETIME" ++ (← precision), temporal := true })
      | "TIMESTAMP" | "TIME" => return some (← momentType word)
      | "TIMESTAMPTZ" | "TIMETZ" => return some (.known { text := word ++ (← precision), temporal := true })
      | "INTERVAL" => return some .interval
      | "ENUM" | "ENUM8" | "ENUM16" => known (word ++ (← enumMembers))
      | "SET" => known (word ++ (← stringValues))
      | "ANY" => if ← keyword "TYPE" then known "ANY TYPE" else return none
      | _ => return none

/-- The end of angle brackets. Where `>>` closes two of them, the outer one is told that it is closed. -/
def closeAngle (closed : Bool) : Reader Bool := do
  if closed then return false
  if ← symbol ">" then return false
  if ← symbol ">>" then return true
  refuse

/-- Brackets behind a type make it an array. -/
def arrayBrackets : Reader (List String) := do
  if !(← among [.postgres, .generic]) then return []
  many (given (symbol "[") do
    let size ← attempt natural
    needSymbol "]"
    match size with
    | some n => return "[" ++ toString n ++ "]"
    | none => return "[]")

/-- A type as a part of another one, with whether it has closed angle brackets around it as well. -/
abbrev TypeReader := Reader (TypeName × Bool)

/-- A type that leaves the angle brackets around it open. -/
def TypeReader.whole (inner : TypeReader) : Reader TypeName := do
  match ← inner with
  | (name, false) => return name
  | (_, true) => refuse

def TypeReader.text (inner : TypeReader) : Reader String := return (← inner.whole).type.text

/-- A field of a structure. It has a name where two words come in a row. -/
def structField (inner : TypeReader) : Reader (String × Bool) := do
  let name ← match ← peekToken 0, ← peekToken 1 with
    | some (.word ..), some (.word ..) => pure ((← ident).text ++ " ")
    | _, _ => pure ""
  let (type, closed) ← inner
  return (name ++ type.type.text, closed)

/-- Fields with commas between them. The field that closes the brackets around it is the last one. -/
def structFields (inner : TypeReader) : Nat → Reader (List String × Bool)
  | 0 => refuse
  | fuel + 1 => do
    let (field, closed) ← structField inner
    if !closed then
      if ← symbol "," then
        let (fields, closed) ← structFields inner fuel
        return (field :: fields, closed)
    return ([field], closed)

/-- The fields of a structure in angle brackets, if there are any. -/
def angleFields (inner : TypeReader) : Reader (Option String × Bool) := do
  if !(← symbol "<") then return (none, false)
  let (fields, closed) ← structFields inner ((← get).length + 1)
  return (some ("<" ++ commas fields ++ ">"), ← closeAngle closed)

/-- Columns by name and type. -/
def typedColumns (inner : TypeReader) : Reader String := do
  let columns ← inParens (commaList do
    let name ← ident
    return name.text ++ " " ++ (← inner.text))
  return "(" ++ commas columns ++ ")"

/-- The type that a keyword names, with other types as its parameters. -/
def parameterType (inner : TypeReader) (word : String) : Reader (Option (TypeName × Bool)) := do
  let known (text : String) (closed : Bool) : Option (TypeName × Bool) := some (.known { text }, closed)
  if word = "ARRAY" then
    needSymbol "<"
    let (item, closed) ← inner
    return known ("ARRAY<" ++ item.type.text ++ ">") (← closeAngle closed)
  if word = "TABLE" then return known ("TABLE" ++ (← typedColumns inner)) false
  if !(← among [.generic]) then return none
  match word with
  | "STRUCT" =>
    let (fields, closed) ← angleFields inner
    return known ("STRUCT" ++ fields.getD "") closed
  | "UNION" => return known ("UNION" ++ (← typedColumns inner)) false
  | "NESTED" => return known ("Nested" ++ (← typedColumns inner)) false
  | "NULLABLE" => return known ("Nullable(" ++ (← inParens inner.text) ++ ")") false
  | "LOWCARDINALITY" => return known ("LowCardinality(" ++ (← inParens inner.text) ++ ")") false
  | "MAP" =>
    let (key, value) ← inParens do
      let key ← inner.text
      needSymbol ","
      return (key, ← inner.text)
    return known ("Map(" ++ key ++ ", " ++ value ++ ")") false
  | "TUPLE" =>
    let fields ← inParens (return (← structFields inner ((← get).length + 1)).1)
    return known ("Tuple(" ++ commas fields ++ ")") false
  | _ => return none

/-- A type that nests others at most `fuel` times. -/
def typeWithin : Nat → TypeReader
  | 0 => refuse
  | fuel + 1 => do
    let start ← get
    let known ← match ← peekKeyword 0 with
      | some word => do
        skip 1
        match ← parameterType (typeWithin fuel) word with
        | some found => pure (some found)
        | none => pure ((← keywordType word).map (·, false))
      | none => pure none
    let (name, closed) ← match known with
      | some found => pure found
      | none => do
        set start
        match ← peekToken 0 with
        | some (.word ..) => pure (TypeName.custom (dotted (← objectName) ++ (← modifiers)), false)
        | _ => refuse
    match ← arrayBrackets with
    | [] => return (name, closed)
    | brackets => return (.known { text := name.type.text ++ String.join brackets }, closed)

/-- Any type, within the tokens that are left. -/
def anyType : TypeReader := do typeWithin ((← get).length + 1)

def typeName : Reader TypeName := anyType.whole

/-- The type of a cast or of a column. -/
def dataType : Reader DataType := return (← typeName).type

end Grammar
end Sql
end ShardRouting
