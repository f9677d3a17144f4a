import ShardRouting.Number.Shortest

/-! JSON documents and their text, in one line or indented by two blanks. Strings escape the quote, the
    backslash and the control characters only. -/

namespace ShardRouting

/-- A JSON document. Numbers are kept in their written form. -/
inductive Json where
  | null
  | bool (value : Bool)
  | number (text : String)
  | string (text : String)
  | array (items : List Json)
  | object (fields : List (String × Json))
  deriving Inhabited

namespace Json

def ofFloat : Number.Binary64 → Json
  | .finite negative m e => .number (Number.jsonNumber.finite negative m e)
  | _ => .null

def ofOption (f : α → Json) : Option α → Json
  | none => .null
  | some a => f a

def escapeChar (c : Char) : List Char :=
  match c with
  | '"' => ['\\', '"']
  | '\\' => ['\\', '\\']
  | '\n' => ['\\', 'n']
  | '\r' => ['\\', 'r']
  | '\t' => ['\\', 't']
  | '\x08' => ['\\', 'b']
  | '\x0c' => ['\\', 'f']
  | _ =>
    if c.toNat < 0x20 then
      ['\\', 'u', '0', '0', Nat.digitChar (c.toNat / 16), Nat.digitChar (c.toNat % 16)]
    else
      [c]

/-- A text between quotes. -/
def quote (s : String) : String := String.ofList ('"' :: (s.toList.flatMap escapeChar ++ ['"']))

/-- Line break and indentation at a depth; nothing when the text is compact. -/
def lineBreak (pretty : Bool) (depth : Nat) : String :=
  if pretty then String.ofList ('\n' :: List.replicate (2 * depth) ' ') else ""

def colon (pretty : Bool) : String := if pretty then ": " else ":"

mutual

def text (pretty : Bool) (depth : Nat) : Json → String
  | null => "null"
  | bool b => if b then "true" else "false"
  | number t => t
  | string s => quote s
  | array [] => "[]"
  | array (item :: items) =>
    "[" ++ lineBreak pretty (depth + 1) ++ text pretty (depth + 1) item ++ itemsText pretty (depth + 1) items
      ++ lineBreak pretty depth ++ "]"
  | object [] => "\x7b\x7d"
  | object ((key, value) :: fields) =>
    "\x7b" ++ lineBreak pretty (depth + 1) ++ quote key ++ colon pretty ++ text pretty (depth + 1) value
      ++ fieldsText pretty (depth + 1) fields ++ lineBreak pretty depth ++ "\x7d"

def itemsText (pretty : Bool) (depth : Nat) : List Json → String
  | [] => ""
  | item :: items => "," ++ lineBreak pretty depth ++ text pretty depth item ++ itemsText pretty depth items

def fieldsText (pretty : Bool) (depth : Nat) : List (String × Json) → String
  | [] => ""
  | (key, value) :: fields =>
    "," ++ lineBreak pretty depth ++ quote key ++ colon pretty ++ text pretty depth value
      ++ fieldsText pretty depth fields

end

/-- The document in one line, without blanks. -/
def compact (json : Json) : String := json.text false 0

/-- The document with one item a line. -/
def pretty (json : Json) : String := json.text true 0

end Json
end ShardRouting
