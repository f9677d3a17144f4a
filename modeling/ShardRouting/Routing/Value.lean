import ShardRouting.Routing.Source
import ShardRouting.Sql.Scan

/-! Reading shard values from expressions: literals, literals behind a sign, dates and times, and
    parameters. Anything else gives no value. -/

namespace ShardRouting
open Sql

/-- A value with its source, or a parameter that is not bound. -/
inductive Reading where
  | known (value : ShardValue) (source : ValueSource)
  | unbound (key : ParamKey)
  deriving DecidableEq, Repr

namespace Reading

def source : Reading → ValueSource
  | known _ source => source
  | unbound key => .param key

/-- A value that stands in the statement itself. -/
def ofLiteral (value : ShardValue) : Reading := .known value (.literal value)

/-- What a parameter is bound to. -/
def ofParam (params : Params) (key : ParamKey) : Reading :=
  match params.get? key with
  | some value => .known value (.param key)
  | none => .unbound key

end Reading

/-- Digits are an integer if they fit into a word, else a number, which must be finite. -/
def numberValue? (digits : String) : Option ShardValue :=
  match Number.readWord 10 digits.toList with
  | some n => some (.int n)
  | none => match Number.Binary64.read digits.toList with
    | some x => if x.isFinite then some (.float x) else none
    | none => none

/-- The value of a literal that is no placeholder. -/
def literalValue? : Literal → Option ShardValue
  | .number digits _ => numberValue? digits
  | .string .single content => some (.text content)
  | .string .double content => some (.text content)
  | .string .hex content => (Number.readWord 16 content.toList).map .int
  | _ => none

/-- The opposite number. The least integer has none. -/
def ShardValue.negate? : ShardValue → Option ShardValue
  | .int n => (Number.word? (-n.toInt)).map .int
  | .float x => some (.float x.neg)
  | _ => none

/-- The text of a literal without the single quotes around it. -/
def temporalText (value : Literal) : String :=
  let unquoted := value.text.toList.dropWhile (· = '\'')
  String.ofList (unquoted.reverse.dropWhile (· = '\'')).reverse

/-- The value of an expression, or the part of it that has none. Bare placeholders are counted through
    the whole statement; a sign stands before literals only. -/
def readValue (scan : Scan) (params : Params) : Expr → Except Expr Reading
  | .literal (.placeholder text position) =>
    if text = "?" then
      match scan.index? position with
      | some n => .ok (.ofParam params (.index n))
      | none => .error (.literal (.placeholder text position))
    else .ok (.ofParam params (.ofText text))
  | .literal value =>
    match literalValue? value with
    | some v => .ok (.ofLiteral v)
    | none => .error (.literal value)
  | .sign negative operand =>
    match readValue scan params operand with
    | .error e => .error e
    | .ok (.known value (.literal _)) =>
      match if negative then value.negate? else some value with
      | some v => .ok (.ofLiteral v)
      | none => .error (.sign negative operand)
    | .ok _ => .error (.sign negative operand)
  | .nested operand => readValue scan params operand
  | .typed type value =>
    if type.temporal then .ok (.ofLiteral (.temporal (temporalText value))) else .error (.typed type value)
  | e => .error e

end ShardRouting
