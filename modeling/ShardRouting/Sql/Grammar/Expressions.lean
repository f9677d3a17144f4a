import ShardRouting.Sql.Grammar.Primary

/-! Expressions with operators, by the ranks of the operators. -/

namespace ShardRouting
namespace Sql
namespace Grammar

/-! ### Names with points and subscripts -/

/-- A step from a value to a part of it. -/
inductive Step where
  | dot (operand : Expr)
  | subscript (pieces : List Piece)

def Step.pieces : Step → List Piece
  | .dot operand => [.words ".", .aside operand]
  | .subscript pieces => [.words "["] ++ pieces ++ [.words "]"]

def Step.ident? : Step → Option Ident
  | .dot (.ident name) => some name
  | _ => none

/-- The names of a root and steps that are names only. -/
def identsOf (root : Expr) (steps : List Step) : Option (List Ident) :=
  match root with
  | .ident name => (steps.mapM Step.ident?).map (name :: ·)
  | _ => none

/-- A root with its steps: a name of several parts, a call under such a name, or some part of a value. -/
def assemble (root : Expr) (steps : List Step) : Expr :=
  let parted : Expr := .form (.aside root :: steps.flatMap Step.pieces)
  if steps.isEmpty then root
  else match identsOf root steps with
    | some names => .column names
    | none => match steps.getLast?, identsOf root steps.dropLast with
      | some (.dot (.call name pieces)), some names => .call (names ++ name) pieces
      | _, _ => parted

/-- An index or a slice, behind its bracket. -/
def subscript (rules : Rules) : Reader (List Piece) := do
  let low ← if ← symbol ":" then pure none else pure (some (← rules.expr))
  if ← symbol "]" then
    return match low with
      | some e => [.aside e]
      | none => [.words ":"]
  if low.isSome then needSymbol ":"
  let start := asides low.toList ++ [.words ":"]
  if ← symbol "]" then return start
  let high ← rules.expr
  if ← symbol "]" then return start ++ [.aside high]
  needSymbol ":"
  if ← symbol "]" then return start ++ [.aside high]
  let stride ← rules.expr
  needSymbol "]"
  return start ++ [.aside high, .words ":", .aside stride]

/-- The next step, if there is one. `.*` is none. -/
def step (rules : Rules) : Reader (Option (List Step)) := do
  if ← symbol "[" then return some [.subscript (← subscript rules)]
  if !(← isSymbolAt 0 ".") || (← isSymbolAt 1 "*") then return none
  skip 1
  match ← peekToken 0 with
  | some (.string .single _) => return some [.dot (.ident (← ident))]
  | _ =>
    match ← rules.above .period with
    | .column names => return some (names.map fun name => .dot (.ident name))
    | operand => return some [.dot operand]

/-- Takes the steps behind a root. -/
def stepsFrom (rules : Rules) (root : Expr) : Reader Expr := do
  let steps := (← many (step rules)).flatten
  if (← among [.postgres]) && (← isSymbolAt 0 ".") then
    skip 2
    match identsOf root steps with
    | some names => return .form [.words (dotted names ++ ".*")]
    | none => refuse
  return assemble root steps

/-! ### Operators -/

/-- Operators of equal rank with `=`. -/
def equalitySigns : List String :=
  ["=", "==", "<", "<=", "<>", ">", ">=", "~", "~*", "!~", "!~*", "~~", "~~*", "!~~", "!~~*", "<=>"]

def customSigns : List String :=
  ["->", "->>", "#>", "#>>", "@>", "<@", "#-", "@?", "@@", "?", "?&", "?|"]

/-- Operators that some dialects rank with their own ones. -/
def mixedSigns : List String := ["!", "&&", "^@", "||", "#", ">>", "<<"]

/-- Operators on figures in the plane. -/
def figureSigns : List String :=
  ["##", "&<", "&>", "?-", "&<|", "|&>", "<->", "<^", ">^", "?#", "?||", "?-|", "~=", "<<|", "|>>", "@"]

/-- Signs that stand in front of an operand only, or between the name and the value of an argument. -/
def otherSigns : List String := ["=>", ":=", "!!", "|/", "||/", "@-@"]

/-- An operator that somebody defined: signs in a row that mean nothing else. -/
def isDefinedSign (text : String) : Bool :=
  text.length ≥ 2 && text.toList.all isOperatorSign && !otherSigns.contains text

def signLevel? (dialect : Dialect) (text : String) : Option Level :=
  if equalitySigns.contains text then some .equality
  else if customSigns.contains text then some .custom
  else if dialect = .postgres ∧ mixedSigns.contains text then some .custom
  else match text with
    | "|" | "&&" => some .pipe
    | "^" | "#" | ">>" | "<<" => some .shift
    | "&" => some .ampersand
    | "+" | "-" => some .sum
    | "*" | "/" | "//" | "%" | "||" => some .product
    | "[" => if dialect = .postgres then some .bracket else some .cast
    | "::" | "!" | "^@" => some .cast
    | _ =>
      if dialect ≠ .postgres then none
      else if figureSigns.contains text then some .pipe
      else if isDefinedSign text then some .custom
      else none

/-- The level of a keyword as an operator. `AT` and `NOT` depend on what follows. -/
def keywordLevel? (word : String) : Reader (Option Level) := do
  match word with
  | "OR" => return some .or
  | "AND" => return some .and
  | "XOR" => return some .xor
  | "AT" =>
    if (← isKeywordAt 1 "TIME") && (← isKeywordAt 2 "ZONE") then return some .zone else return none
  | "NOT" =>
    match ← peekKeyword 1 with
    | some "IN" | some "BETWEEN" => return some .between
    | some word =>
      if ["LIKE", "ILIKE", "RLIKE", "REGEXP", "SIMILAR"].contains word then return some .like else return none
    | none => return none
  | "IS" => return some .is
  | "IN" | "BETWEEN" | "OVERLAPS" | "OPERATOR" => return some .between
  | "LIKE" | "ILIKE" | "RLIKE" | "REGEXP" | "SIMILAR" => return some .like
  | "DIV" => return some .product
  | "COLLATE" => if ← among [.postgres] then return some .collation else return none
  | _ => return none

/-- The rank of the operator that comes next; zero for none. -/
def nextRank : Reader Nat := do
  let dialect := (← read).dialect
  match ← peekAt 0 with
  | none => return 0
  | some lexeme =>
    let level? ← match lexeme.token, lexeme.keyword with
      | .symbol text, _ => pure (signLevel? dialect text)
      | _, some word => keywordLevel? word
      | _, _ => pure none
    return match level? with
      | some level => level.rank dialect
      | none => 0

/-- The binary operator that a sign is in a dialect. -/
def binarySign? (dialect : Dialect) (text : String) : Option BinaryOp :=
  match text with
  | "=" | "==" => some .eq
  | "<>" => some .notEq
  | "<" => some .less
  | "<=" => some .lessEq
  | ">" => some .greater
  | ">=" => some .greaterEq
  | "::" | "!" | "[" | "." => none
  | "//" => if dialect = .generic then some (.other text) else none
  | "<<" | ">>" | "&&" | "^@" =>
    if dialect = .postgres ∨ dialect = .generic then some (.other text) else none
  | "#" => if dialect = .postgres then some (.other text) else none
  | _ => if (signLevel? dialect text).isSome then some (.other text) else none

/-- Comparisons that may be made with some or all of many values. -/
def quantifiable (op : BinaryOp) : Bool :=
  match op with
  | .eq | .notEq | .less | .lessEq | .greater | .greaterEq => true
  | _ => false

/-- The right side of a binary operator. -/
def binaryRest (rules : Rules) (rank : Nat) (left : Expr) (op : BinaryOp) : Reader Expr := do
  match ← oneOf ["ANY", "ALL", "SOME"] with
  | none => return .binary left op (← rules.operand rank)
  | some quantifier =>
    let queried := (← isKeywordAt 1 "SELECT") || (← isKeywordAt 1 "WITH")
    let right ← if (← isSymbolAt 0 "(") && queried then rules.operand rank
      else inParens (rules.operand rank)
    if quantifiable op then return .test left false (.quantified op.text quantifier) right else refuse

/-- The name of an operator in parentheses. -/
def operatorName : Reader BinaryOp := inParens do
  let first := (← take).token.text
  let rest ← many (given (symbol ".") (return (← take).token.text))
  return .other ("OPERATOR(" ++ ".".intercalate (first :: rest) ++ ")")

/-- What follows `IS`. -/
def isRest (rules : Rules) (left : Expr) : Reader Expr := do
  let words (text : String) : Expr := .form [.part left, .words (" IS " ++ text)]
  if ← keyword "NULL" then return .isNull left
  for text in ["TRUE", "FALSE", "UNKNOWN"] do
    if ← keyword text then return words text
  for text in ["NULL", "TRUE", "FALSE", "UNKNOWN"] do
    if ← keywords ["NOT", text] then return words ("NOT " ++ text)
  if ← keywords ["DISTINCT", "FROM"] then return .test left false .distinct (← rules.expr)
  if ← keywords ["NOT", "DISTINCT", "FROM"] then return .test left true .distinct (← rules.expr)
  let negated ← keyword "NOT"
  let form ← match ← oneOf ["NFC", "NFD", "NFKC", "NFKD"] with
    | some form => pure (form ++ " ")
    | none => pure ""
  needKeyword "NORMALIZED"
  return words (negation negated ++ form ++ "NORMALIZED")

/-- What follows `IN`. -/
def inRest (rules : Rules) (left : Expr) (negated : Bool) : Reader Expr := do
  if ← keyword "UNNEST" then
    return .test left negated .inArray (← inParens rules.expr)
  inParens do
    if (← isKeywordAt 0 "SELECT") || (← isKeywordAt 0 "WITH") then
      return .test left negated .inSubquery (.subquery (← rules.query))
    if ← among [.sqlite] then return .inList left negated (← commaListBefore ")" rules.expr)
    return .inList left negated (← commaList rules.expr)

def betweenRest (rules : Rules) (left : Expr) (negated : Bool) : Reader Expr := do
  let low ← rules.above .between
  needKeyword "AND"
  return .between left negated low (← rules.above .between)

/-- A pattern and its escape character. -/
def matchingRest (rules : Rules) (left : Expr) (negated : Bool) (word : String) : Reader Expr := do
  let any ← if word = "SIMILAR TO" then pure false else keyword "ANY"
  let pattern ← rules.above .like
  let escape ← given (keyword "ESCAPE") stringText
  return .test left negated (.matching word any escape) pattern

/-- A predicate by keywords, which `NOT` may precede. -/
def predicateRest (rules : Rules) (left : Expr) : Reader Expr := do
  let negated ← keyword "NOT"
  if ← keyword "REGEXP" then
    let _ ← keyword "RLIKE"
    return .test left negated (.regexp "REGEXP") (← rules.above .like)
  if ← keyword "RLIKE" then return .test left negated (.regexp "RLIKE") (← rules.above .like)
  if ← keyword "IN" then return ← inRest rules left negated
  if ← keyword "BETWEEN" then return ← betweenRest rules left negated
  if ← keyword "LIKE" then return ← matchingRest rules left negated "LIKE"
  if ← keyword "ILIKE" then return ← matchingRest rules left negated "ILIKE"
  if ← keywords ["SIMILAR", "TO"] then return ← matchingRest rules left negated "SIMILAR TO"
  refuse

/-- The operator that comes next and what it needs, behind its left operand. -/
def infixRest (rules : Rules) (rank : Nat) (left : Expr) : Reader Expr := do
  let dialect := (← read).dialect
  let lexeme ← take
  match lexeme.token, lexeme.keyword with
  | .symbol text, _ =>
    match binarySign? dialect text with
    | some op => binaryRest rules rank left op
    | none =>
      if text = "::" then return .form [.part left, .words ("::" ++ (← dataType).text)]
      if text = "!" ∧ dialect = .postgres then return .form [.part left, .words "!"]
      refuse
  | _, some word =>
    match word with
    | "AND" => binaryRest rules rank left .and
    | "OR" => binaryRest rules rank left .or
    | "XOR" | "OVERLAPS" => binaryRest rules rank left (.other word)
    | "DIV" => if dialect = .mysql then return .binary left (.other "DIV") (← rules.expr) else refuse
    | "OPERATOR" =>
      if dialect = .postgres ∨ dialect = .generic then binaryRest rules rank left (← operatorName) else refuse
    | "IS" => isRest rules left
    | "AT" =>
      skip 2
      return .form [.part left, .words " AT TIME ZONE ", .part (← rules.operand rank)]
    | _ =>
      modify (lexeme :: ·)
      predicateRest rules left
  | _, none => refuse

/-- Goes on with operators that bind more tightly than `rank`. -/
def operators (rules : Rules) (rank : Nat) : Nat → Expr → Reader Expr
  | 0, left => return left
  | fuel + 1, left => do
    let next ← nextRank
    if next ≤ rank then return left
    operators rules rank fuel (← infixRest rules next left)

/-- An expression whose operators bind more tightly than `rank`. -/
def operandExpr (rules : Rules) (rank : Nat) : Reader Expr := deeper do
  let root ← rules.primary
  let root ← stepsFrom rules root
  operators rules rank ((← get).length + 1) root

end Grammar
end Sql
end ShardRouting
