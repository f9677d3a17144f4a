import ShardRouting.Sql.Tree

/-! The canonical text of statement trees: keywords in capitals, one blank around operators, a comma and
    a blank between items. Names and literals keep their quotes. -/

namespace ShardRouting
namespace Sql

/-! ### Quoted texts -/

/-- A lone quote is written twice. A quote behind a backslash, and a pair of quotes, stay as they are. -/
def doubleQuotes (quote before : Char) : List Char → List Char
  | [] => []
  | c :: cs =>
    if c ≠ quote then c :: doubleQuotes quote c cs
    else if before = '\\' then c :: doubleQuotes quote before cs
    else match cs with
      | [] => [c, c]
      | d :: ds =>
        if d = quote then c :: d :: doubleQuotes quote c ds else c :: c :: doubleQuotes quote c (d :: ds)

def quoted (quote : Char) (content : String) : String :=
  String.ofList (quote :: doubleQuotes quote '\x00' content.toList ++ [quote])

/-- `n` in at least `width` hexadecimal digits. -/
def hexText (width n : Nat) : List Char :=
  let digits := (Nat.toDigits 16 n).map Char.toUpper
  List.replicate (width - digits.length) '0' ++ digits

def escapeChar : Char → List Char
  | '\'' => ['\\', '\'']
  | '\\' => ['\\', '\\']
  | '\n' => ['\\', 'n']
  | '\t' => ['\\', 't']
  | '\r' => ['\\', 'r']
  | c => [c]

def escapeUnicode (c : Char) : List Char :=
  if c = '\'' then ['\'', '\'']
  else if c = '\\' then ['\\', '\\']
  else if c.toNat < 128 then [c]
  else if c.toNat ≤ 0xFFFF then '\\' :: hexText 4 c.toNat
  else '\\' :: '+' :: hexText 6 c.toNat

/-- What stands around a string. -/
def QuoteStyle.marks : QuoteStyle → String × String
  | .single => ("'", "'")
  | .double => ("\"", "\"")
  | .national => ("N'", "'")
  | .hex => ("X'", "'")
  | .byteSingle => ("B'", "'")
  | .byteDouble => ("B\"", "\"")
  | .rawSingle => ("R'", "'")
  | .rawDouble => ("R\"", "\"")
  | .rawTripleSingle => ("R'''", "'''")
  | .rawTripleDouble => ("R\"\"\"", "\"\"\"")
  | .escaped => ("E'", "'")
  | .unicode => ("U&'", "'")
  | .dollar tag => ("$" ++ tag ++ "$", "$" ++ tag ++ "$")

/-- A text in the marks of a style, as it is. -/
def QuoteStyle.enclose (style : QuoteStyle) (content : String) : String :=
  style.marks.1 ++ content ++ style.marks.2

/-- A string in its own quotes. -/
def QuoteStyle.text (style : QuoteStyle) (content : String) : String :=
  let escaped (escape : Char → List Char) := String.ofList (content.toList.flatMap escape)
  match style with
  | .single => quoted '\'' content
  | .double => quoted '"' content
  | .escaped => style.enclose (escaped escapeChar)
  | .unicode => style.enclose (escaped escapeUnicode)
  | _ => style.enclose content

/-! ### Leaves -/

def Ident.text (ident : Ident) : String :=
  match ident.quote with
  | none => ident.value
  | some '[' => "[" ++ ident.value ++ "]"
  | some quote => quoted quote ident.value

/-- The text of a token, with nothing in it doubled or escaped. -/
def Token.text : Token → String
  | .word value none => value
  | .word value (some quote) =>
    String.singleton quote ++ value ++ (if quote = '[' then "]" else String.singleton quote)
  | .number digits long => if long then digits ++ "L" else digits
  | .string style content => style.enclose content
  | .placeholder text => text
  | .symbol text => text

def commas (texts : List String) : String := ", ".intercalate texts

/-- A name of several parts with points between them. -/
def dotted (parts : List Ident) : String := ".".intercalate (parts.map Ident.text)

def Literal.text : Literal → String
  | .number digits long => if long then digits ++ "L" else digits
  | .string style content => style.text content
  | .boolean value => if value then "true" else "false"
  | .null => "NULL"
  | .placeholder text _ => text

def BinaryOp.text : BinaryOp → String
  | .eq => "="
  | .notEq => "<>"
  | .less => "<"
  | .lessEq => "<="
  | .greater => ">"
  | .greaterEq => ">="
  | .and => "AND"
  | .or => "OR"
  | .other symbol => symbol

def AliasColumn.text (column : AliasColumn) : String :=
  match column.type with
  | some type => column.name.text ++ " " ++ type
  | none => column.name.text

def TableAlias.text (alias_ : TableAlias) : String :=
  if alias_.columns.isEmpty then alias_.name.text
  else alias_.name.text ++ " (" ++ commas (alias_.columns.map AliasColumn.text) ++ ")"

def aliasText : Option TableAlias → String
  | some alias_ => " AS " ++ alias_.text
  | none => ""

def negation (negated : Bool) : String := if negated then "NOT " else ""

/-- A test between the texts of its operands. `enclosed` tells that the right one has parentheses. -/
def Test.text (kind : Test) (negated enclosed : Bool) (left right : String) : String :=
  match kind with
  | .inSubquery => left ++ " " ++ negation negated ++ "IN " ++ right
  | .inArray => left ++ " " ++ negation negated ++ "IN UNNEST(" ++ right ++ ")"
  | .matching word any escape =>
    left ++ " " ++ negation negated ++ word ++ " " ++ (if any then "ANY " else "") ++ right ++
      (match escape with
        | some escape => " ESCAPE '" ++ escape ++ "'"
        | none => "")
  | .regexp word => left ++ " " ++ negation negated ++ word ++ " " ++ right
  | .quantified comparison quantifier =>
    left ++ " " ++ comparison ++ " " ++ quantifier ++ (if enclosed then right else "(" ++ right ++ ")")
  | .distinct => left ++ " IS " ++ negation negated ++ "DISTINCT FROM " ++ right

def Expr.isSubquery : Expr → Bool
  | .subquery _ => true
  | _ => false

/-! ### Trees -/

/-- A clause behind a blank and its keywords, when it has items. -/
def clause (words : String) (items : List String) : String :=
  if items.isEmpty then "" else " " ++ words ++ " " ++ commas items

mutual

def Expr.text : Expr → String
  | .ident name => name.text
  | .column parts => dotted parts
  | .literal value => value.text
  | .typed type value => type.text ++ " " ++ value.text
  | .nested operand => "(" ++ operand.text ++ ")"
  | .not operand => "NOT " ++ operand.text
  | .sign negative operand => (if negative then "-" else "+") ++ operand.text
  | .binary left op right => left.text ++ " " ++ op.text ++ " " ++ right.text
  | .inList left negated items =>
    left.text ++ " " ++ negation negated ++ "IN (" ++ commas (Expr.texts items) ++ ")"
  | .between left negated low high =>
    left.text ++ " " ++ negation negated ++ "BETWEEN " ++ low.text ++ " AND " ++ high.text
  | .test left negated kind right => kind.text negated right.isSubquery left.text right.text
  | .isNull operand => operand.text ++ " IS NULL"
  | .subquery query => "(" ++ query.text ++ ")"
  | .trim side what subject => "TRIM(" ++ side ++ what.text ++ " FROM " ++ subject.text ++ ")"
  | .call name pieces => dotted name ++ Piece.texts pieces
  | .form pieces => Piece.texts pieces

def Expr.texts : List Expr → List String
  | [] => []
  | e :: es => e.text :: Expr.texts es

def Expr.rows : List (List Expr) → List String
  | [] => []
  | row :: rows => ("(" ++ commas (Expr.texts row) ++ ")") :: Expr.rows rows

/-- An optional clause with its keywords. -/
def Expr.optional (words : String) : Option Expr → String
  | some e => " " ++ words ++ e.text
  | none => ""

def Piece.text : Piece → String
  | .words text => text
  | .part operand => operand.text
  | .aside operand => operand.text

def Piece.texts : List Piece → String
  | [] => ""
  | p :: ps => p.text ++ Piece.texts ps

def Query.text : Query → String
  | { recursive, ctes, body, orderBy, limit, offset, limitBy, settings, fetch, ending } =>
    (match Cte.texts ctes with
      | [] => ""
      | texts => "WITH " ++ (if recursive then "RECURSIVE " else "") ++ commas texts ++ " ") ++
    body.text ++ clause "ORDER BY" (Expr.texts orderBy) ++ Expr.optional "LIMIT " limit ++
    Expr.optional "OFFSET " offset ++ clause "BY" (Expr.texts limitBy) ++ Piece.texts settings ++
    Expr.optional "" fetch ++ Piece.texts ending

def Cte.text : Cte → String
  | { alias_, keyword, query, source } =>
    alias_.text ++ " AS " ++ keyword ++ "(" ++ query.text ++ ")" ++
      (match source with
        | some name => " FROM " ++ name.text
        | none => "")

def Cte.texts : List Cte → List String
  | [] => []
  | c :: cs => c.text :: Cte.texts cs

def Body.text : Body → String
  | .select select => select.text
  | .query query => "(" ++ query.text ++ ")"
  | .setOperation left words right => left.text ++ " " ++ words ++ " " ++ right.text
  | .values explicitRow rows =>
    let row (text : String) := if explicitRow then "ROW" ++ text else text
    "VALUES " ++ commas ((Expr.rows rows).map row)
  | .table schema name => match schema with
    | some schema => "TABLE " ++ schema ++ "." ++ name
    | none => "TABLE " ++ name
  | .statement statement => statement.text

def Select.text : Select → String
  | { head, projection, into, from_, views, prewhere, selection, groupBy, groupTail, clusterBy,
      distributeBy, sortBy, having, windowsBefore, qualify, windowsAfter, connectBy } =>
    "SELECT" ++ Piece.texts head ++
    (match Expr.texts projection with
      | [] => ""
      | texts => " " ++ commas texts) ++
    Piece.texts into ++ clause "FROM" (TableRef.texts from_) ++
    Piece.texts views ++ Expr.optional "PREWHERE " prewhere ++ Expr.optional "WHERE " selection ++
    clause "GROUP BY" (Expr.texts groupBy) ++ Piece.texts groupTail ++
    clause "CLUSTER BY" (Expr.texts clusterBy) ++ clause "DISTRIBUTE BY" (Expr.texts distributeBy) ++
    clause "SORT BY" (Expr.texts sortBy) ++ Expr.optional "HAVING " having ++ Piece.texts windowsBefore ++
    Expr.optional "QUALIFY " qualify ++ Piece.texts windowsAfter ++ Piece.texts connectBy

def TableRef.text : TableRef → String
  | .table name arguments alias_ hints =>
    dotted name ++ Piece.texts arguments ++ aliasText alias_ ++ Piece.texts hints
  | .derived lateral query alias_ =>
    (if lateral then "LATERAL (" else "(") ++ query.text ++ ")" ++ aliasText alias_
  | .nested inner alias_ => "(" ++ inner.text ++ ")" ++ aliasText alias_
  | .join left words right matching on using_ =>
    left.text ++ " " ++ words ++ " " ++ right.text ++
      (match matching with
        | some e => " MATCH_CONDITION (" ++ e.text ++ ")"
        | none => "") ++
      Expr.optional "ON " on ++
      (if using_.isEmpty then "" else " USING(" ++ commas (using_.map dotted) ++ ")")
  | .turned source pieces alias_ => source.text ++ Piece.texts pieces ++ aliasText alias_
  | .other pieces alias_ trailer => Piece.texts pieces ++ aliasText alias_ ++ trailer

def TableRef.texts : List TableRef → List String
  | [] => []
  | t :: ts => t.text :: TableRef.texts ts

def Insert.text : Insert → String
  | { head, target, alias_, columns, middle, source, trailer } =>
    head ++ " " ++ dotted target ++
      (match alias_ with
        | some name => " AS " ++ name.text
        | none => "") ++ " " ++
      (if columns.isEmpty then "" else "(" ++ commas (columns.map Ident.text) ++ ") ") ++
      Piece.texts middle ++
      (match source with
        | some query => query.text
        | none => "") ++
      Piece.texts trailer

def Update.text : Update → String
  | { conflict, table, fromBefore, assignments, fromAfter, selection, returning } =>
    "UPDATE " ++ conflict ++ table.text ++ clause "FROM" (TableRef.texts fromBefore) ++
      clause "SET" (Expr.texts assignments) ++ clause "FROM" (TableRef.texts fromAfter) ++
      Expr.optional "WHERE " selection ++ Piece.texts returning

def Delete.text : Delete → String
  | { targets, fromKeyword, from_, using_, selection, returning, orderBy, limit } =>
    "DELETE " ++ (if targets.isEmpty then "" else commas (targets.map dotted) ++ " ") ++
      (if fromKeyword then "FROM " else "") ++ commas (TableRef.texts from_) ++
      (match using_ with
        | some tables => clause "USING" (TableRef.texts tables)
        | none => "") ++
      Expr.optional "WHERE " selection ++ Piece.texts returning ++
      clause "ORDER BY" (Expr.texts orderBy) ++ Expr.optional "LIMIT " limit

def Statement.text : Statement → String
  | .query query => query.text
  | .insert insert => insert.text
  | .update update => update.text
  | .delete delete => delete.text
  | .other => ""

end

end Sql
end ShardRouting
