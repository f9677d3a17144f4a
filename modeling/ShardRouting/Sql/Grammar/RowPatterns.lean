import ShardRouting.Sql.Grammar.RowSources

/-! Patterns of rows: a table in which runs of rows are found that match a pattern. -/

namespace ShardRouting
namespace Sql
namespace Grammar

/-! ### Repetitions -/

/-- A count of at most 32 bits, without leading zeros when it is printed. -/
def repetitionCount : Reader String := do
  match (← take).token with
  | .number digits _ =>
    match Number.readUnsigned (UInt32.size - 1) digits.toList with
    | some n => return toString n
    | none => refuse
  | _ => refuse

/-- A range of counts behind its opening brace. -/
def repetitionRange : Reader String := do
  if ← symbol "," then
    let high ← repetitionCount
    needSymbol "\x7d"
    return "\x7b," ++ high ++ "\x7d"
  let low ← repetitionCount
  if !(← symbol ",") then
    needSymbol "\x7d"
    return "\x7b" ++ low ++ "\x7d"
  if ← symbol "\x7d" then return "\x7b" ++ low ++ ",\x7d"
  let high ← repetitionCount
  needSymbol "\x7d"
  return "\x7b" ++ low ++ "," ++ high ++ "\x7d"

/-- How often the pattern in front of it is repeated. -/
def repetition : Reader (Option String) := do
  match ← peekToken 0 with
  | some (.symbol "*") | some (.symbol "+") | some (.placeholder "?") => return some (← take).token.text
  | some (.symbol "\x7b") =>
    skip 1
    return some (← repetitionRange)
  | _ => return none

/-! ### Patterns -/

/-- A pattern with no alternative and no successor, as its text; `inner` reads a whole pattern. -/
def patternAtom (inner : Reader String) : Reader String := do
  match ← peekToken 0 with
  | some (.symbol "^") | some (.placeholder "$") => return (← take).token.text
  | some (.symbol "\x7b") =>
    skip 1
    needSymbol "-"
    let name ← ident
    needSymbol "-"
    needSymbol "\x7d"
    return "\x7b- " ++ name.text ++ " -\x7d"
  | some (.word "PERMUTE" none) =>
    skip 1
    let names ← columnNames
    return "PERMUTE(" ++ commas (names.map Ident.text) ++ ")"
  | some (.symbol "(") => return "( " ++ (← inParens inner) ++ " )"
  | _ => return (← ident).text

/-- A pattern with its repetitions. -/
def repeatedAtom (inner : Reader String) : Reader String := do
  let atom ← patternAtom inner
  return atom ++ String.join (← many repetition)

/-- Patterns one behind the other. -/
def patternSequence (inner : Reader String) : Reader String := do
  let first ← repeatedAtom inner
  let rest ← many do
    if (← isSymbolAt 0 ")") || (← isSymbolAt 0 "|") then return none
    return some (← repeatedAtom inner)
  return " ".intercalate (first :: rest)

/-- A pattern with its alternatives, nested at most `fuel` times. -/
def rowPattern : Nat → Reader String
  | 0 => refuse
  | fuel + 1 => do
    let first ← patternSequence (rowPattern fuel)
    if ← symbol "|" then return first ++ " | " ++ (← rowPattern fuel) else return first

/-! ### Clauses -/

/-- Which rows of a match are given. -/
def rowsPerMatch : Reader (List Piece) := do
  if ← keywords ["ONE", "ROW", "PER", "MATCH"] then return [.words "ONE ROW PER MATCH "]
  if !(← keywords ["ALL", "ROWS", "PER", "MATCH"]) then return []
  for words in [["SHOW", "EMPTY", "MATCHES"], ["OMIT", "EMPTY", "MATCHES"], ["WITH", "UNMATCHED", "ROWS"]] do
    if ← keywords words then return [.words ("ALL ROWS PER MATCH " ++ " ".intercalate words ++ " ")]
  return [.words "ALL ROWS PER MATCH "]

/-- Where the search goes on behind a match. -/
def afterMatch : Reader (List Piece) := do
  if !(← keywords ["AFTER", "MATCH", "SKIP"]) then return []
  let head := "AFTER MATCH SKIP "
  if ← keywords ["PAST", "LAST", "ROW"] then return [.words (head ++ "PAST LAST ROW ")]
  if ← keywords ["TO", "NEXT", "ROW"] then return [.words (head ++ " TO NEXT ROW ")]
  needKeyword "TO"
  let place ← needOneOf ["FIRST", "LAST"]
  return [.words (head ++ "TO " ++ place ++ " " ++ (← ident).text ++ " ")]

/-- A clause that is printed with a blank behind it. -/
def leadingClause (words : List String) (item : Reader (List Piece)) : Reader (List Piece) := do
  match ← given (keywords words) (commaList item) with
  | some items => return .words (" ".intercalate words ++ " ") :: joined ", " items ++ [.words " "]
  | none => return []

/-- The matches of a pattern in `table`. -/
def matchedRows (rules : Rules) (table : TableRef) : Reader TableRef := do
  needSymbol "("
  let partition ← leadingClause ["PARTITION", "BY"] (return [.aside (← rules.expr)])
  let order ← leadingClause ["ORDER", "BY"] (return [.aside (← orderItem rules)])
  let measures ← leadingClause ["MEASURES"] do
    let value ← rules.expr
    allow ["AS"]
    return [.aside value, .words (" AS " ++ (← ident).text)]
  let rows ← rowsPerMatch
  let after ← afterMatch
  needKeyword "PATTERN"
  let pattern ← inParens (rowPattern (← get).length)
  needKeyword "DEFINE"
  let symbols ← commaList do
    let name ← ident
    needKeyword "AS"
    return [Piece.words (name.text ++ " AS "), .aside (← rules.expr)]
  needSymbol ")"
  return .turned table ([.words " MATCH_RECOGNIZE("] ++ partition ++ order ++ measures ++ rows ++ after ++
    [.words ("PATTERN (" ++ pattern ++ ") DEFINE ")] ++ joined ", " symbols ++ [.words ")"]) (← tableAlias)

end Grammar
end Sql
end ShardRouting
