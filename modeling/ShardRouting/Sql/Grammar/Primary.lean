import ShardRouting.Sql.Grammar.Calls

/-! Expressions without operators: literals, names, calls, and the functions that are written with
    keywords between their operands. -/

namespace ShardRouting
namespace Sql
namespace Grammar

/-! ### Functions with keywords -/

def caseExpr (rules : Rules) : Reader Expr := do
  let operand ← if ← keyword "WHEN" then pure [] else do
    let operand ← rules.expr
    needKeyword "WHEN"
    pure [Piece.words " ", .part operand]
  let branch : Reader (List Piece) := do
    let condition ← rules.expr
    needKeyword "THEN"
    return [.words " WHEN ", .part condition, .words " THEN ", .part (← rules.expr)]
  let first ← branch
  let rest ← many (given (keyword "WHEN") branch)
  let otherwise ← given (keyword "ELSE") rules.expr
  needKeyword "END"
  return .form ([.words "CASE"] ++ operand ++ first ++ rest.flatten ++ wordsAnd " ELSE " otherwise ++
    [.words " END"])

def convertExpr (rules : Rules) (name : String) : Reader Expr := inParens do
  let operand ← rules.expr
  let head : List Piece := [.words (name ++ "("), .part operand]
  if ← keyword "USING" then
    return .form (head ++ [.words (" USING " ++ dotted (← objectName) ++ ")")])
  needSymbol ","
  let type ← dataType
  let charset ← match ← given (keywords ["CHARACTER", "SET"]) objectName with
    | some name => pure (" CHARACTER SET " ++ dotted name)
    | none => pure ""
  return .form (head ++ [.words (", " ++ type.text ++ charset ++ ")")])

def castExpr (rules : Rules) (name : String) : Reader Expr := inParens do
  let operand ← rules.expr
  needKeyword "AS"
  let type ← dataType
  let format ← match ← given (keyword "FORMAT") literal with
    | some value => match ← given (keywords ["AT", "TIME", "ZONE"]) literal with
      | some zone => pure (" FORMAT " ++ value.text ++ " AT TIME ZONE " ++ zone.text)
      | none => pure (" FORMAT " ++ value.text)
    | none => pure ""
  return .form [.words (name ++ "("), .part operand, .words (" AS " ++ type.text ++ format ++ ")")]

def existsExpr (rules : Rules) (words : String) : Reader Expr := inParens do
  return .form [.words words, .part (.subquery (← rules.query))]

def extractExpr (rules : Rules) : Reader Expr := inParens do
  let part ← momentPart
  let between ← if ← keyword "FROM" then pure " FROM "
    else if ← both (among [.generic]) (symbol ",") then pure ", "
    else refuse
  return .form [.words ("EXTRACT(" ++ part ++ between), .part (← rules.expr), .words ")"]

/-- `CEIL` and `FLOOR`, to a part of a date or to a number of places. -/
def roundExpr (rules : Rules) (name : String) : Reader Expr := inParens do
  let operand ← rules.expr
  let behind ← if ← keyword "TO" then do
      let part ← momentPart
      pure (" TO " ++ part)
    else if ← symbol "," then do
      match ← literal with
      | .number digits long => pure (", " ++ (Literal.number digits long).text)
      | _ => refuse
    else pure ""
  return .form [.words (name ++ "("), .part operand, .words (behind ++ ")")]

def positionExpr (rules : Rules) (name : Ident) : Reader Expr := do
  let found ← attempt (inParens do
    let operand ← rules.above .between
    needKeyword "IN"
    return Expr.form [.words "POSITION(", .part operand, .words " IN ", .part (← rules.expr), .words ")"])
  match found with
  | some e => return e
  | none => call rules [name]

def substringExpr (rules : Rules) : Reader Expr := inParens do
  let operand ← rules.expr
  let special ← symbol ","
  let from_ ← if special then pure (some (← rules.expr)) else given (keyword "FROM") rules.expr
  let for_ ← if ← keyword "FOR" then pure (some (← rules.expr)) else given (symbol ",") rules.expr
  let between (word : String) := if special then ", " else " " ++ word ++ " "
  return .form ([.words "SUBSTRING(", .part operand] ++ wordsAnd (between "FROM") from_ ++
    wordsAnd (between "FOR") for_ ++ [.words ")"])

def overlayExpr (rules : Rules) : Reader Expr := inParens do
  let operand ← rules.expr
  needKeyword "PLACING"
  let what ← rules.expr
  needKeyword "FROM"
  let from_ ← rules.expr
  let for_ ← given (keyword "FOR") rules.expr
  return .form ([.words "OVERLAY(", .part operand, .words " PLACING ", .part what, .words " FROM ",
    .part from_] ++ wordsAnd " FOR " for_ ++ [.words ")"])

def trimExpr (rules : Rules) : Reader Expr := inParens do
  let side ← match ← oneOf ["BOTH", "LEADING", "TRAILING"] with
    | some word => pure (word ++ " ")
    | none => pure ""
  let first ← rules.expr
  if ← keyword "FROM" then
    return .trim side first (← rules.expr)
  if ← symbol "," then
    if ← among [.generic] then
      let characters ← commaList rules.expr
      return .form ([.words "TRIM(", .part first, .words ", "] ++ parts characters ++ [.words ")"])
  return .form [.words ("TRIM(" ++ side), .part first, .words ")"]

def matchExpr : Reader Expr := do
  let columns ← columnNames
  needKeyword "AGAINST"
  inParens do
    let value ← literal
    let mode ← if ← keywords ["IN", "NATURAL", "LANGUAGE", "MODE"] then
        if ← keywords ["WITH", "QUERY", "EXPANSION"] then
          pure " IN NATURAL LANGUAGE MODE WITH QUERY EXPANSION"
        else pure " IN NATURAL LANGUAGE MODE"
      else if ← keywords ["IN", "BOOLEAN", "MODE"] then pure " IN BOOLEAN MODE"
      else if ← keywords ["WITH", "QUERY", "EXPANSION"] then pure " WITH QUERY EXPANSION"
      else pure ""
    return .form [.words ("MATCH (" ++ commas (columns.map Ident.text) ++ ") AGAINST (" ++ value.text ++
      mode ++ ")")]

def structExpr (rules : Rules) : Reader Expr := do
  let (types, closed) ← angleFields anyType
  if closed then refuse
  let values ← inParens (commaList do
    let value ← rules.expr
    if ← keyword "AS" then
      if types.isSome then refuse
      return [Piece.part value, .words (" AS " ++ (← ident).text)]
    return [Piece.part value])
  return .form ([.words ("STRUCT" ++ types.getD "" ++ "(")] ++ joined ", " values ++ [.words ")"])

/-- Array elements up to the closing bracket. -/
def arrayExpr (rules : Rules) (name : String) : Reader Expr := do
  let items ← commaListBefore "]" rules.expr
  needSymbol "]"
  return .form ([.words (name ++ "[")] ++ asides items ++ [.words "]"])

/-- Entries in braces. -/
def braces (name : String) (key : Reader Piece) (rules : Rules) : Reader Expr := do
  needSymbol "\x7b"
  let entries ← commaListBefore "\x7d" do
    let key ← key
    needSymbol ":"
    return [key, .words ": ", .aside (← rules.expr)]
  needSymbol "\x7d"
  return .form ([.words (name ++ "\x7b")] ++ joined ", " entries ++ [.words "\x7d"])

/-- A call in braces, or a dictionary. -/
def braceExpr (rules : Rules) : Reader Expr := do
  let escaped ← attempt do
    needSymbol "\x7b"
    needKeyword "FN"
    let name ← objectName
    call rules name
  match escaped with
  | some e =>
    needSymbol "\x7d"
    return .form [.words "\x7bfn ", .part e, .words "\x7d"]
  | none =>
    if ← among [.generic] then braces "" (return .words (← ident).text) rules else refuse

/-! ### Words -/

/-- The expression that a keyword begins; `word` is the keyword as it is written. -/
def keywordExpr (rules : Rules) (name : Ident) (keyword_ : String) : Reader (Option Expr) := do
  match keyword_ with
  | "TRUE" => return some (.literal (.boolean true))
  | "FALSE" => return some (.literal (.boolean false))
  | "NULL" => return some (.literal .null)
  | "CURRENT_CATALOG" | "CURRENT_USER" | "SESSION_USER" | "USER" =>
    if ← among [.postgres, .generic] then return some (.call [name] []) else return none
  | "CURRENT_TIMESTAMP" | "CURRENT_TIME" | "CURRENT_DATE" | "LOCALTIME" | "LOCALTIMESTAMP" =>
    if ← symbol "(" then
      let (pieces, _) ← arguments rules
      return some (.call [name] ([.words "("] ++ pieces ++ [.words ")"]))
    return some (.call [name] [])
  | "CASE" => return some (← caseExpr rules)
  | "CONVERT" => return some (← convertExpr rules "CONVERT")
  | "TRY_CONVERT" =>
    if ← among [.generic] then return some (← convertExpr rules "TRY_CONVERT") else return none
  | "CAST" | "TRY_CAST" | "SAFE_CAST" => return some (← castExpr rules keyword_)
  | "EXISTS" => return some (← existsExpr rules "EXISTS ")
  | "EXTRACT" => return some (← extractExpr rules)
  | "CEIL" | "FLOOR" => return some (← roundExpr rules keyword_)
  | "POSITION" => if ← isSymbolAt 0 "(" then return some (← positionExpr rules name) else return none
  | "SUBSTRING" => return some (← substringExpr rules)
  | "OVERLAY" => return some (← overlayExpr rules)
  | "TRIM" => return some (← trimExpr rules)
  | "INTERVAL" => return some (← interval rules)
  | "ARRAY" =>
    if ← symbol "[" then return some (← arrayExpr rules "ARRAY")
    if ← isSymbolAt 0 "(" then
      let query ← inParens rules.query
      return some (.call [name] [.part (.subquery query)])
    return none
  | "NOT" =>
    if ← keyword "EXISTS" then return some (← existsExpr rules "NOT EXISTS ")
    return some (.not (← rules.above .not))
  | "MATCH" => if ← among [.mysql, .generic] then return some (← matchExpr) else return none
  | "STRUCT" => if ← among [.generic] then return some (← structExpr rules) else return none
  | "PRIOR" =>
    if (← read).connecting then
      return some (.form [.words "PRIOR ", .part (← rules.above .sum)])
    return none
  | "MAP" =>
    if (← among [.generic]) && (← isSymbolAt 0 "\x7b") then
      return some (← braces "MAP " (return .aside (← rules.expr)) rules)
    return none
  | _ =>
    if (← among [.postgres]) && geometricTypes.contains keyword_ then
      return some (.typed { text := keyword_ } (← literal))
    return none

/-- A name, a call of that name, or a string with a character set in front of it. -/
def nameExpr (rules : Rules) (name : Ident) : Reader Expr := do
  match ← peekToken 0 with
  | some (.symbol "(") => call rules [name]
  | some (.string style content) =>
    if (style = .single ∨ style = .double ∨ style = .hex) ∧ name.value.toList.head? = some '_' then
      skip 1
      return .form [.words (name.value ++ " " ++ style.text content)]
    return .ident name
  | _ => return .ident name

/-- Keywords that are never names. In some dialects `INTERVAL` is one. -/
def isReservedName (dialect : Dialect) (word : String) : Bool :=
  ["EXISTS", "STRUCT", "TRIM"].contains word || (word = "INTERVAL" && dialect ≠ .postgres)

/-- What a word begins: what its keyword says, and else a name. The flag tells whether `COLLATE` may
    follow. -/
def wordExpr (rules : Rules) (name : Ident) (word : Option String) : Reader (Expr × Bool) := do
  match word with
  | none => return (← nameExpr rules name, true)
  | some word =>
    match ← outcome (keywordExpr rules name word) with
    | .ok (some e) => return (e, true)
    | .ok none => return (← nameExpr rules name, true)
    | .error refusal =>
      if isReservedName (← read).dialect word then throw refusal
      match ← outcome (nameExpr rules name) with
      | .ok e => return (e, false)
      | .error _ => throw refusal

/-! ### All other beginnings -/

/-- Signs in front of an operand, with the level of the operand and whether a blank follows. -/
def signExpr (rules : Rules) (text : String) : Reader Expr := do
  let postgres ← among [.postgres]
  if text = "+" ∨ text = "-" then return .sign (text = "-") (← rules.above .product)
  if postgres ∧ ["!!", "|/", "||/", "@", "~"].contains text then
    return .form [.words text, .part (← rules.above .sum)]
  if postgres ∧ ["#", "@-@", "@@", "?-", "?|"].contains text then
    return .form [.words (text ++ " "), .part (← rules.above .sum)]
  refuse

/-- A subquery, an expression in parentheses, or a row. -/
def parenExpr (rules : Rules) : Reader Expr := inParens do
  if (← isKeywordAt 0 "SELECT") || (← isKeywordAt 0 "WITH") then return .subquery (← rules.query)
  match ← commaList rules.expr with
  | [operand] => return .nested operand
  | operands => return .form ([.words "("] ++ parts operands ++ [.words ")"])

/-- A literal behind the name of its type. -/
def typedExpr (rules : Rules) : Reader (Option Expr) := attempt do
  match ← typeName with
  | .known type => return .typed type (← literal)
  | .interval => interval rules
  | .custom _ => refuse

/-- An expression without operators. -/
def primaryExpr (rules : Rules) : Reader Expr := do
  if let some e ← typedExpr rules then return e
  let lexeme? ← peekAt 0
  let (operand, collated) ← match lexeme? with
    | none => refuse
    | some lexeme => match lexeme.token with
      | .word value quote => do
        skip 1
        wordExpr rules { value, quote } lexeme.keyword
      | .number .. | .string .. | .placeholder _ => do
        let value ← literal
        pure (.literal value, true)
      | .symbol text =>
        if text = "(" then do
          pure (← parenExpr rules, true)
        else if text = "[" then do
          skip 1
          pure (← arrayExpr rules "", true)
        else if text = "\x7b" then do
          pure (← braceExpr rules, true)
        else if text = ":" then do
          let value ← literal
          pure (.literal value, true)
        else if text = "@" && !(← among [.postgres]) then do
          let value ← literal
          pure (.literal value, true)
        else do
          skip 1
          pure (← signExpr rules text, true)
  if collated then
    if ← keyword "COLLATE" then
      return .form [.part operand, .words (" COLLATE " ++ dotted (← objectName))]
  return operand

end Grammar
end Sql
end ShardRouting
