import ShardRouting.Sql.Keyword
import ShardRouting.Sql.Token.Read
import ShardRouting.Sql.Tree

/-! Reading trees from tokens. A reader takes tokens from the front of a list and gives a tree, or it
    refuses them; a refused alternative leaves the tokens as they were. Nesting beyond the limit is
    refused for good. -/

namespace ShardRouting
namespace Sql
namespace Grammar

inductive Refusal where
  | unexpected
  | tooDeep
  deriving DecidableEq, Repr

/-- What does not change while tokens are taken: the dialect, the nesting that is left, and whether the
    reader is inside `CONNECT BY`. -/
structure Setting where
  dialect : Dialect
  depth : Nat
  connecting : Bool := false

abbrev Reader := ReaderT Setting (StateT (List Lexeme) (Except Refusal))

def refuse {α : Type} : Reader α := throw .unexpected

/-- The dialect is one of those in the list. -/
def among (dialects : List Dialect) : Reader Bool := return dialects.contains (← read).dialect

/-- Reads one level deeper. -/
def deeper {α : Type} (reader : Reader α) : Reader α := do
  match (← read).depth with
  | 0 => throw .tooDeep
  | depth + 1 => withReader (fun setting => { setting with depth := depth }) reader

/-! ### Single tokens -/

def peekAt (n : Nat) : Reader (Option Lexeme) := return (← get)[n]?

def peekToken (n : Nat) : Reader (Option Token) := return (← peekAt n).map (·.token)

def peekKeyword (n : Nat) : Reader (Option String) := return (← peekAt n).bind (·.keyword)

def isKeywordAt (n : Nat) (keyword : String) : Reader Bool := return (← peekKeyword n) = some keyword

def isSymbolAt (n : Nat) (text : String) : Reader Bool := return (← peekToken n) = some (.symbol text)

/-- Drops tokens. -/
def skip (n : Nat) : Reader Unit := modify (·.drop n)

/-- The next token. -/
def take : Reader Lexeme := do
  match ← get with
  | [] => refuse
  | lexeme :: rest =>
    set rest
    return lexeme

def keyword (word : String) : Reader Bool := do
  if ← isKeywordAt 0 word then
    skip 1
    return true
  return false

def symbol (text : String) : Reader Bool := do
  if ← isSymbolAt 0 text then
    skip 1
    return true
  return false

/-- Both conditions; the second one is only tried when the first one holds. -/
def both (first second : Reader Bool) : Reader Bool := do
  if ← first then second else return false

/-- All of the keywords in a row, or none of them. -/
def keywords (words : List String) : Reader Bool := do
  if ((← get).take words.length).map (·.keyword) = words.map some then
    skip words.length
    return true
  return false

/-- The first of the keywords that comes next. -/
def oneOf (words : List String) : Reader (Option String) := do
  match ← peekKeyword 0 with
  | none => return none
  | some word =>
    if words.contains word then
      skip 1
      return some word
    return none

def need (condition : Reader Bool) : Reader Unit := do
  unless ← condition do refuse

def needKeyword (word : String) : Reader Unit := need (keyword word)

def needKeywords (words : List String) : Reader Unit := need (keywords words)

def needSymbol (text : String) : Reader Unit := need (symbol text)

def needOneOf (words : List String) : Reader String := do
  match ← oneOf words with
  | some word => return word
  | none => refuse

/-! ### Combinations -/

/-- What a reader gives, or nothing when it refuses. -/
def attempt {α : Type} (reader : Reader α) : Reader (Option α) := fun setting lexemes =>
  match reader setting lexemes with
  | .ok (value, rest) => .ok (some value, rest)
  | .error .unexpected => .ok (none, lexemes)
  | .error .tooDeep => .error .tooDeep

/-- What a reader gives, or why it refuses; a refusal leaves the tokens as they were. -/
def outcome {α : Type} (reader : Reader α) : Reader (Except Refusal α) := fun setting lexemes =>
  match reader setting lexemes with
  | .ok (value, rest) => .ok (.ok value, rest)
  | .error refusal => .ok (.error refusal, lexemes)

/-- Reads on when the condition holds. -/
def given {α : Type} (condition : Reader Bool) (reader : Reader α) : Reader (Option α) := do
  if ← condition then return some (← reader) else return none

def inParens {α : Type} (reader : Reader α) : Reader α := do
  needSymbol "("
  let value ← reader
  needSymbol ")"
  return value

/-- Tries a reader and drops what it reads; a token that it refuses at once is dropped as well. -/
def lenient {α : Type} (reader : Reader α) : Reader Unit := do
  if (← attempt reader).isNone then modify (·.drop 1)

/-- Reads on when the condition holds, and drops what it reads. -/
def optionally {α : Type} (condition : Reader Bool) (reader : Reader α) : Reader Unit := do
  if ← condition then discard reader

/-- Takes the keywords if they are there. -/
def allow (words : List String) : Reader Unit := discard (keywords words)

/-- Takes one of the keywords if it is there. -/
def allowOneOf (words : List String) : Reader Unit := discard (oneOf words)

/-- Repeats a step until it gives nothing. -/
def repeated {α : Type} (step : Reader (Option α)) : Nat → Reader (List α)
  | 0 => return []
  | fuel + 1 => do
    match ← step with
    | none => return []
    | some value => return value :: (← repeated step fuel)

/-- As often as there are tokens at most. -/
def many {α : Type} (step : Reader (Option α)) : Reader (List α) := do
  repeated step ((← get).length + 1)

/-- Words that end a list of columns behind a comma, and no column goes by without `AS`. -/
def columnReserved : List String :=
  ["WITH", "EXPLAIN", "ANALYZE", "SELECT", "WHERE", "GROUP", "SORT", "HAVING", "ORDER", "TOP", "LATERAL",
    "VIEW", "LIMIT", "OFFSET", "FETCH", "UNION", "EXCEPT", "INTERSECT", "MINUS", "CLUSTER",
    "DISTRIBUTE", "RETURNING", "FROM", "INTO", "END"]

/-- A comma with another item behind it. A comma in front of the end of the list is taken as well. -/
def comma (trailing : Bool) : Reader Bool := do
  if !(← symbol ",") then return false
  if !trailing then return true
  match ← peekAt 0 with
  | none => return false
  | some lexeme =>
    let ends := match lexeme.token with
      | .symbol text => [")", ";", "]", "\x7d"].contains text
      | _ => lexeme.keyword.any columnReserved.contains
    return !ends

/-- Repeats a step as long as it holds. -/
def whileHolds (step : Reader Bool) : Reader Unit := discard (many (given step (pure ())))

def commaItems {α : Type} (trailing : Bool) (item : Reader α) : Reader (List α) := do
  let first ← item
  let rest ← many (given (comma trailing) item)
  return first :: rest

/-- One or more items with commas between them. -/
def commaList {α : Type} (item : Reader α) : Reader (List α) := commaItems true item

/-- Items in front of `closing`, which may be missing; a lone comma counts as no item. -/
def commaListBefore {α : Type} (closing : String) (item : Reader α) : Reader (List α) := do
  if ← isSymbolAt 0 closing then return []
  if (← isSymbolAt 0 ",") && (← isSymbolAt 1 closing) then
    skip 1
    return []
  commaList item

/-! ### Names -/

def ident : Reader Ident := do
  match (← take).token with
  | .word value quote => return { value, quote }
  | .string .single value => return { value, quote := some '\'' }
  | .string .double value => return { value, quote := some '"' }
  | _ => refuse

def objectName : Reader ObjectName := do
  let first ← ident
  let rest ← many (given (symbol ".") ident)
  return first :: rest

/-- `IF EXISTS`, if it is there. -/
def ifExists : Reader Unit := allow ["IF", "EXISTS"]

/-- `IF NOT EXISTS`, if it is there. -/
def ifNotExists : Reader Unit := allow ["IF", "NOT", "EXISTS"]

def objectNames : Reader (List ObjectName) := commaList objectName

/-- A list of names in parentheses. -/
def columnNames : Reader (List Ident) := inParens (commaList ident)

def columnNamesIfAny : Reader (List Ident) := do
  if ← isSymbolAt 0 "(" then columnNames else return []

/-- An unsigned integer without sign or point. -/
def natural : Reader Nat := do
  match (← take).token with
  | .number digits _ =>
    match Number.readUnsigned (UInt64.size - 1) digits.toList with
    | some n => return n
    | none => refuse
  | _ => refuse

/-- A name that may follow `AS` or, unless it is reserved, stand alone. Strings are names as well. -/
def optionalAlias (reserved : String → Bool) : Reader (Option Ident) := do
  let explicit ← keyword "AS"
  match ← peekAt 0 with
  | some lexeme =>
    match lexeme.token with
    | .word .. =>
      if explicit || !lexeme.keyword.any reserved then return some (← ident)
      return none
    | .string .single _ | .string .double _ => return some (← ident)
    | _ => if explicit then refuse else return none
  | none => if explicit then refuse else return none

/-- Literals, quoted names that stand for strings among them. -/
def literal : Reader Literal := do
  let lexeme ← take
  match lexeme.token with
  | .word value quote =>
    match lexeme.keyword with
    | some "TRUE" => return .boolean true
    | some "FALSE" => return .boolean false
    | some "NULL" => return .null
    | _ => if quote = some '"' then return .string .double value else refuse
  | .number digits long => return .number digits long
  | .string .escaped content =>
    if ← among [.postgres, .generic] then return .string .escaped content else refuse
  | .string style content => return .string style content
  | .placeholder text => return .placeholder text lexeme.position
  | .symbol text =>
    if text = ":" ∨ text = "@" then
      match (← take).token with
      | .word value _ => return .placeholder (text ++ value) lexeme.position
      | .number digits false => return .placeholder (text ++ digits) lexeme.position
      | _ => refuse
    else refuse

/-- The text of a string literal, or of a name that means nothing else. -/
def stringText : Reader String := do
  let lexeme ← take
  match lexeme.token with
  | .word value _ => if lexeme.isReserved then refuse else return value
  | .string .single content => return content
  | .string .double content => return content
  | .string .escaped content => if ← among [.postgres, .generic] then return content else refuse
  | .string .unicode content => return content
  | _ => refuse

end Grammar
end Sql
end ShardRouting
