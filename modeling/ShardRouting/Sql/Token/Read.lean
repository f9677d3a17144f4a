import ShardRouting.Number.Integer
import ShardRouting.Sql.Dialect
import ShardRouting.Sql.Token
import ShardRouting.Text.Blank
import ShardRouting.Text.Letters

/-! Reading the tokens of a text. Each reader takes the longest token of its kind from the front of the
    text; a text that breaks off inside a string, a quoted name or a comment has no tokens. -/

namespace ShardRouting
namespace Sql
open Text

/-! ### Characters of a dialect -/

/-- May begin a name. -/
def isNameStart (dialect : Dialect) (c : Char) : Bool :=
  match dialect with
  | .mysql => isLetter c || c = '_' || c = '$' || c = '@' || (0x80 ≤ c.toNat && c.toNat ≤ 0xFFFF)
  | .generic => isLetter c || c = '_' || c = '#' || c = '@'
  | .postgres => isLetter c || c = '_'
  | .sqlite => c.isAlpha || c = '_' || (0x7F ≤ c.toNat && c.toNat ≤ 0xFFFF)

/-- May go on a name. -/
def isNamePart (dialect : Dialect) (c : Char) : Bool :=
  match dialect with
  | .mysql | .sqlite => isNameStart dialect c || c.isDigit
  | .generic => isLetter c || c.isDigit || c = '_' || c = '#' || c = '@' || c = '$'
  | .postgres => isLetter c || c.isDigit || c = '_' || c = '$'

/-- The end of a quoted name, by the quote that begins it. -/
def nameEnd? (dialect : Dialect) (c : Char) : Option Char :=
  match dialect with
  | .mysql => if c = '`' then some '`' else none
  | .generic => if c = '"' ∨ c = '`' then some c else none
  | .postgres => if c = '"' then some '"' else none
  | .sqlite => if c = '"' ∨ c = '`' then some c else if c = '[' then some ']' else none

/-- Signs that run together to one operator where operators can be defined. -/
def isOperatorSign (c : Char) : Bool := "+-*/<>=~!@#%^&|`?".toList.contains c

def hexDigit? (c : Char) : Option Nat := Number.digitValue 16 c

/-! ### Delimited texts -/

/-- The characters up to `mark`, which is written twice where it is meant itself. -/
def readQuoted (mark : Char) : List Char → Option (List Char × List Char)
  | [] => none
  | c :: cs =>
    if c = mark then
      match cs with
      | [] => some ([], [])
      | d :: ds => if d = mark then (readQuoted mark ds).map fun (s, rest) => (mark :: s, rest)
        else some ([], d :: ds)
    else (readQuoted mark cs).map fun (s, rest) => (c :: s, rest)

/-- What a character behind a backslash stands for. -/
def unescape : Char → Char
  | '0' => '\x00'
  | 'a' => '\x07'
  | 'b' => '\x08'
  | 'f' => '\x0c'
  | 'n' => '\n'
  | 'r' => '\r'
  | 't' => '\t'
  | 'Z' => '\x1a'
  | c => c

/-- As `readQuoted`, with escapes by backslash. -/
def readEscaped (mark : Char) : List Char → Option (List Char × List Char)
  | [] => none
  | c :: cs =>
    if c = mark then
      match cs with
      | [] => some ([], [])
      | d :: ds => if d = mark then (readEscaped mark ds).map fun (s, rest) => (mark :: s, rest)
        else some ([], d :: ds)
    else if c = '\\' then
      match cs with
      | [] => none
      | d :: ds => (readEscaped mark ds).map fun (s, rest) => (unescape d :: s, rest)
    else (readEscaped mark cs).map fun (s, rest) => (c :: s, rest)

/-- The character with the code that hexadecimal digits spell. -/
def charOfHex? (digits : List Char) : Option Char :=
  (digits.foldlM (fun n c => (hexDigit? c).map (n * 16 + ·)) 0).bind fun n =>
    if n.isValidChar then some (Char.ofNat n) else none

/-- As `charOfHex?`; a plus sign may stand in front of the digits. -/
def charOfSignedHex? (digits : List Char) : Option Char :=
  match digits with
  | '+' :: rest => charOfHex? rest
  | _ => charOfHex? digits

/-- The character of a byte, if the byte alone is one. -/
def charOfByte? (n : Nat) : Option Char := if n ≤ 127 then some (Char.ofNat n) else none

/-- The longest run of at most `count` characters that satisfy `p`. -/
def takeUpTo (p : Char → Bool) : Nat → List Char → List Char
  | count + 1, c :: cs => if p c then c :: takeUpTo p count cs else []
  | _, _ => []

def isOctal (c : Char) : Bool := '0' ≤ c && c ≤ '7'

/-- The character of an escape and the rest behind it; a code of zero is none. -/
def readEscape (c : Char) (cs : List Char) : Option (Char × List Char) :=
  let coded (char : Option Char) (used : Nat) :=
    (char.filter (· ≠ '\x00')).map fun char => (char, cs.drop used)
  match c with
  | 'b' => some ('\x08', cs)
  | 'f' => some ('\x0c', cs)
  | 'n' => some ('\n', cs)
  | 'r' => some ('\r', cs)
  | 't' => some ('\t', cs)
  | 'u' => if cs.length < 4 then none else coded (charOfSignedHex? (cs.take 4)) 4
  | 'U' => if cs.length < 8 then none else coded (charOfSignedHex? (cs.take 8)) 8
  | 'x' =>
    match takeUpTo (fun d => (hexDigit? d).isSome) 2 cs with
    | [] => some ('x', cs)
    | digits => coded ((charOfHex? digits).bind fun char => charOfByte? char.toNat) digits.length
  | _ =>
    if isOctal c then
      let digits := takeUpTo isOctal 2 cs
      let n := (digits.foldl (fun n d => n * 8 + (d.toNat - '0'.toNat)) (c.toNat - '0'.toNat)) % 256
      coded (charOfByte? n) digits.length
    else coded (some c) 0

/-- A string with the escapes of C, behind its opening quote. -/
def readCEscaped (fuel : Nat) (cs : List Char) : Option (List Char × List Char) :=
  match fuel, cs with
  | fuel + 1, '\'' :: '\'' :: cs => (readCEscaped fuel cs).map fun (s, rest) => ('\'' :: s, rest)
  | _ + 1, '\'' :: cs => some ([], cs)
  | fuel + 1, '\\' :: c :: cs => do
    let (char, cs) ← readEscape c cs
    let (s, rest) ← readCEscaped fuel cs
    return (char :: s, rest)
  | _, ['\\'] => none
  | fuel + 1, c :: cs => (readCEscaped fuel cs).map fun (s, rest) => (c :: s, rest)
  | _, _ => none

/-- A string with escaped code points, behind its opening quote. -/
def readUnicode (fuel : Nat) (cs : List Char) : Option (List Char × List Char) :=
  match fuel, cs with
  | fuel + 1, '\'' :: '\'' :: cs => (readUnicode fuel cs).map fun (s, rest) => ('\'' :: s, rest)
  | _ + 1, '\'' :: cs => some ([], cs)
  | fuel + 1, '\\' :: '\\' :: cs => (readUnicode fuel cs).map fun (s, rest) => ('\\' :: s, rest)
  | fuel + 1, '\\' :: cs => do
    let (digits, cs) := match cs with
      | '+' :: cs => (cs.take 6, if cs.length < 6 then [] else cs.drop 6)
      | _ => (cs.take 4, if cs.length < 4 then [] else cs.drop 4)
    let char ← charOfHex? digits
    let (s, rest) ← readUnicode fuel cs
    return (char :: s, rest)
  | fuel + 1, c :: cs => (readUnicode fuel cs).map fun (s, rest) => (c :: s, rest)
  | _, _ => none

/-- The characters in front of the first occurrence of `mark`, and those behind it. -/
def splitBefore (mark : List Char) : List Char → Option (List Char × List Char)
  | [] => if mark.isEmpty then some ([], []) else none
  | c :: cs =>
    if mark.isPrefixOf (c :: cs) then some ([], (c :: cs).drop mark.length)
    else (splitBefore mark cs).map fun (s, rest) => (c :: s, rest)

/-- Behind `/*`: what follows the end of the comment. Where comments nest, `depth` counts the comments
    around it; elsewhere the opening of a comment in a comment means nothing. -/
def skipComment (nested : Bool) (depth : Nat) : List Char → Option (List Char)
  | '*' :: '/' :: cs => match depth with
    | 0 => some cs
    | depth + 1 => skipComment nested depth cs
  | '/' :: '*' :: cs => if nested then skipComment nested (depth + 1) cs else skipComment nested depth ('*' :: cs)
  | _ :: cs => skipComment nested depth cs
  | [] => none

/-! ### Single tokens -/

/-- A token, or none for blanks and comments, and the rest of the text. -/
abbrev Reading := Option (Option Token × List Char)

def found (token : Token) (rest : List Char) : Reading := some (some token, rest)

def sign (text : String) (rest : List Char) : Reading := found (.symbol text) rest

/-- The name that begins with `start`. -/
def readName (dialect : Dialect) (start cs : List Char) : Reading :=
  let part := cs.takeWhile (isNamePart dialect)
  let rest := cs.dropWhile (isNamePart dialect)
  found (.word (String.ofList (start ++ part)) none) rest

/-- A string behind the letters in front of it, else the name that the first letter begins. -/
def readStyled (style : QuoteStyle) (read : List Char → Option (List Char × List Char))
    (cs : List Char) : Reading :=
  (read cs).bind fun (s, rest) => found (.string style (String.ofList s)) rest

/-- A raw string behind its letter: between single marks, or between marks written three times. Two marks
    are an empty string. -/
def readRaw (mark : Char) (short long : QuoteStyle) (cs : List Char) : Reading :=
  let marks := takeUpTo (· = mark) 3 cs
  match marks.length with
  | 3 => readStyled long (splitBefore marks) (cs.drop 3)
  | 2 => found (.string short "") (cs.drop 2)
  | _ => readStyled short (readQuoted mark) (cs.drop 1)

/-- An operator that goes on with further signs where operators can be defined. -/
def readOperator (dialect : Dialect) (text : String) (cs : List Char) : Reading :=
  if dialect = .postgres then
    sign (text ++ String.ofList (cs.takeWhile isOperatorSign)) (cs.dropWhile isOperatorSign)
  else sign text cs

/-- The beginning of an operator, which has to go on with further signs. -/
def readOperatorFrom (start : String) (cs : List Char) : Reading :=
  if cs.head?.any isOperatorSign then readOperator .postgres start cs else none

/-- Digits, between which single underscores may stand where `underscores` is set. -/
def readDigits (underscores : Bool) : List Char → List Char × List Char
  | [] => ([], [])
  | c :: cs =>
    if c.isDigit || (underscores && c = '_' && (cs.head?.bind hexDigit?).isSome) then
      let (digits, rest) := readDigits underscores cs
      (c :: digits, rest)
    else ([], c :: cs)

def readHexDigits (underscores : Bool) : List Char → List Char × List Char
  | [] => ([], [])
  | c :: cs =>
    if (hexDigit? c).isSome || (underscores && c = '_' && (cs.head?.bind hexDigit?).isSome) then
      let (digits, rest) := readHexDigits underscores cs
      (c :: digits, rest)
    else ([], c :: cs)

/-- An exponent with at least one digit. -/
def readExponent : List Char → List Char × List Char
  | c :: cs =>
    if c = 'e' ∨ c = 'E' then
      let (mark, cs') := match cs with
        | d :: ds => if d = '+' ∨ d = '-' then ([c, d], ds) else ([c], cs)
        | [] => ([c], [])
      match cs'.takeWhile Char.isDigit with
      | [] => ([], c :: cs)
      | digits => (mark ++ digits, cs'.dropWhile Char.isDigit)
    else ([], c :: cs)
  | [] => ([], [])

/-- A number or a lone point. Where names may begin with digits, name characters behind the digits make
    the whole a name, unless the first of them is the letter of an exponent. -/
def readNumber (dialect : Dialect) (cs : List Char) : Reading :=
  let underscores := dialect = .postgres
  let (whole, rest) := readDigits underscores cs
  match whole, rest with
  | ['0'], 'x' :: rest =>
    let (digits, rest) := readHexDigits underscores rest
    found (.string .hex (String.ofList digits)) rest
  | _, _ =>
    let (point, rest) := match rest with
      | '.' :: rest => (['.'], rest)
      | _ => ([], rest)
    let (fraction, rest) := readDigits underscores rest
    let digits := whole ++ point ++ fraction
    if digits = ['.'] then sign "." rest
    else
      let isName := dialect = .mysql && rest.head?.any fun c => isNamePart dialect c && c ≠ 'e' && c ≠ 'E'
      if isName then
        found (.word (String.ofList (digits ++ rest.takeWhile (isNamePart dialect))) none)
          (rest.dropWhile (isNamePart dialect))
      else
        let (exponent, rest) := readExponent rest
        let digits := digits ++ exponent
        match rest with
        | 'L' :: rest => found (.number (String.ofList digits) true) rest
        | _ => found (.number (String.ofList digits) false) rest

/-- Behind `$`: a placeholder, or a string between two equal tags. -/
def readDollar (dialect : Dialect) (cs : List Char) : Reading :=
  let isTag (c : Char) := isLetter c || isNumeral c || c = '_' || (dialect = .sqlite && c = '$')
  let tag := cs.takeWhile isTag
  match cs.dropWhile isTag with
  | '$' :: rest =>
    if dialect = .sqlite then found (.placeholder (String.ofList ('$' :: tag))) ('$' :: rest)
    else
      (splitBefore ('$' :: tag ++ ['$']) rest).bind fun (s, rest) =>
        found (.string (.dollar (String.ofList tag)) (String.ofList s)) rest
  | rest => found (.placeholder (String.ofList ('$' :: tag))) rest

def readAt (dialect : Dialect) (cs : List Char) : Reading :=
  let nameStart := isNameStart dialect '@'
  match cs with
  | '>' :: rest => sign "@>" rest
  | '?' :: rest => sign "@?" rest
  | '-' :: rest =>
    if dialect = .postgres then
      match rest with
      | '@' :: rest => sign "@-@" rest
      | _ => readOperatorFrom "@-" rest
    else if nameStart then readName dialect ['@', '-'] rest
    else sign "@" cs
  | '@' :: rest => match rest with
    | ' ' :: _ => sign "@@" rest
    | c :: rest' => if nameStart then readName dialect ['@', '@', c] rest' else sign "@@" rest
    | [] => sign "@@" rest
  | c :: rest =>
    if nameStart ∧ c ≠ ' ' ∧ c ≠ '\'' ∧ c ≠ '"' ∧ c ≠ '`' then readName dialect ['@', c] rest
    else sign "@" cs
  | [] => sign "@" cs

def readHash (dialect : Dialect) (cs : List Char) : Reading :=
  match cs with
  | '-' :: rest => readOperator dialect "#-" rest
  | '>' :: '>' :: rest => readOperator dialect "#>>" rest
  | '>' :: rest => readOperator dialect "#>" rest
  | ' ' :: _ => sign "#" cs
  | c :: rest =>
    if c = '#' ∧ dialect = .postgres then readOperator dialect "##" rest
    else if isNameStart dialect '#' then readName dialect ['#', c] rest
    else readOperator dialect "#" cs
  | [] => readOperator dialect "#" cs

/-- An operator where operators can be defined, else a placeholder. The operator `?` takes the character
    behind it as well, which is a blank in most texts. -/
def readQuestion (dialect : Dialect) (cs : List Char) : Reading :=
  if dialect = .postgres then
    match cs with
    | '|' :: '|' :: rest => sign "?||" rest
    | '|' :: rest => sign "?|" rest
    | '&' :: rest => sign "?&" rest
    | '-' :: '|' :: rest => sign "?-|" rest
    | '-' :: rest => sign "?-" rest
    | '#' :: rest => sign "?#" rest
    | _ => sign "?" (cs.drop 1)
  else
    found (.placeholder (String.ofList ('?' :: cs.takeWhile isNumeral))) (cs.dropWhile isNumeral)

/-- Operators that stand as they are. -/
def plainSigns : List String :=
  ["=>", "==", "=", "!=", "!!", "!~~*", "!~~", "!~*", "!~", "!", "::", ":=", ":", "^@", "^", "(", ")", ",",
    ";", "\\", "[", "]", "\x7b", "\x7d", "+", "*"]

/-- Operators that may go on with further signs. -/
def openSigns : List String :=
  ["->>", "->", "-", "||/", "||", "|/", "|", "<=>", "<=", "<>", "<<", "<@", "<", ">=", ">>", ">", "&&", "&",
    "~~*", "~~", "~*", "~"]

/-- The first of the texts that the characters begin with, and the rest. -/
def readOneOf (texts : List String) (cs : List Char) : Option (String × List Char) :=
  (texts.find? (·.toList.isPrefixOf cs)).map fun text => (text, cs.drop text.length)

/-- Operators on figures in the plane. `<|` is the same as `<<|`, and `&>` takes the character behind it as
    well. -/
def readFigureSign : List Char → Option Reading
  | '<' :: '|' :: rest | '<' :: '<' :: '|' :: rest => some (readOperator .postgres "<<|" rest)
  | '<' :: '-' :: '>' :: rest => some (readOperator .postgres "<->" rest)
  | '<' :: '-' :: rest => some (readOperatorFrom "<-" rest)
  | '<' :: '^' :: rest => some (readOperator .postgres "<^" rest)
  | '>' :: '^' :: rest => some (readOperator .postgres ">^" rest)
  | '|' :: '&' :: '>' :: rest => some (readOperator .postgres "|&>" rest)
  | '|' :: '&' :: rest => some (readOperatorFrom "|&" rest)
  | '|' :: '>' :: '>' :: rest => some (readOperator .postgres "|>>" rest)
  | '|' :: '>' :: rest => some (readOperatorFrom "|>" rest)
  | '&' :: '>' :: rest => some (sign "&>" (rest.drop 1))
  | '&' :: '<' :: '|' :: rest => some (sign "&<|" rest)
  | '&' :: '<' :: rest => some (readOperator .postgres "&<" rest)
  | '~' :: '=' :: rest => some (readOperator .postgres "~=" rest)
  | _ => none

/-- Signs that belong to every dialect. -/
def readCommonSign (dialect : Dialect) (c : Char) (cs : List Char) : Reading :=
  match readOneOf plainSigns (c :: cs) with
  | some ("!=", rest) => sign "<>" rest
  | some (text, rest) => sign text rest
  | none => match readOneOf openSigns (c :: cs) with
    | some (text, rest) => readOperator dialect text rest
    | none => sign (String.singleton c) cs

def readSign (dialect : Dialect) (c : Char) (cs : List Char) : Reading :=
  let figure := if dialect = .postgres then readFigureSign (c :: cs) else none
  figure.getD (readCommonSign dialect c cs)

/-- A line comment ends with its line. -/
def skipLine (dialect : Dialect) (cs : List Char) : List Char :=
  (cs.dropWhile fun c => c ≠ '\n' && (dialect ≠ .postgres || c ≠ '\r')).drop 1

/-- The token that a text of at least one character begins with. -/
def readToken (dialect : Dialect) (c : Char) (cs : List Char) : Reading :=
  let backslash := dialect = .mysql
  let plain := readQuoted '\''
  let name := if isNameStart dialect c then readName dialect [c] cs else none
  match c, cs with
  | 'b', '\'' :: rest | 'B', '\'' :: rest =>
    if dialect = .sqlite then name else readStyled .byteSingle plain rest
  | 'b', '"' :: rest | 'B', '"' :: rest =>
    if dialect = .sqlite then name else readStyled .byteDouble (readQuoted '"') rest
  | 'r', '\'' :: _ | 'R', '\'' :: _ =>
    if dialect = .generic then readRaw '\'' .rawSingle .rawTripleSingle cs else name
  | 'r', '"' :: _ | 'R', '"' :: _ =>
    if dialect = .generic then readRaw '"' .rawDouble .rawTripleDouble cs else name
  | 'n', '\'' :: rest | 'N', '\'' :: rest =>
    readStyled .national (if backslash then readEscaped '\'' else plain) rest
  | 'e', '\'' :: rest | 'E', '\'' :: rest =>
    if dialect = .postgres ∨ dialect = .generic then
      readStyled .escaped (readCEscaped (rest.length + 1)) rest
    else name
  | 'u', '&' :: '\'' :: rest | 'U', '&' :: '\'' :: rest =>
    if dialect = .postgres ∨ dialect = .generic then
      readStyled .unicode (readUnicode (rest.length + 1)) rest
    else name
  | 'x', '\'' :: rest | 'X', '\'' :: rest => readStyled .hex (readEscaped '\'') rest
  | '\'', _ => readStyled .single (if backslash then readEscaped '\'' else plain) cs
  | '-', '-' :: rest =>
    if dialect = .mysql ∧ rest.head? ≠ some ' ' then readOperator dialect "-" cs
    else some (none, skipLine dialect rest)
  | '/', '*' :: rest =>
    (skipComment (dialect = .generic || dialect = .postgres) 0 rest).map fun rest => (none, rest)
  | '/', '/' :: rest => if dialect = .generic then sign "//" rest else sign "/" cs
  | '/', _ => sign "/" cs
  | '%', _ => if cs.head?.any isBlank then sign "%" cs else readOperator dialect "%" cs
  | '#', _ => if dialect = .mysql then some (none, skipLine dialect cs) else readHash dialect cs
  | '@', _ => readAt dialect cs
  | '?', _ => readQuestion dialect cs
  | _, _ =>
    match nameEnd? dialect c with
    | some mark =>
      (readQuoted mark cs).bind fun (s, rest) => found (.word (String.ofList s) (some c)) rest
    | none =>
      if c = '"' then readStyled .double (if backslash then readEscaped '"' else readQuoted '"') cs
      else if c.isDigit ∨ c = '.' then readNumber dialect (c :: cs)
      else if isNameStart dialect c then readName dialect [c] cs
      else if c = '$' then readDollar dialect cs
      else if isBlank c then some (none, cs)
      else readSign dialect c cs

/-! ### Texts -/

/-- The tokens of a text that begins at `position`. A reading that takes nothing is refused. -/
def readTokens (dialect : Dialect) (position : Position) (cs : List Char) : Option (List Lexeme) :=
  match cs with
  | [] => some []
  | c :: cs =>
    match readToken dialect c cs with
    | none => none
    | some (token, rest) =>
      if _h : rest.length ≤ cs.length then
        let behind := ((c :: cs).take (cs.length + 1 - rest.length)).foldl Position.after position
        match readTokens dialect behind rest, token with
        | some lexemes, some token => some (token.at position :: lexemes)
        | lexemes, _ => lexemes
      else none
termination_by cs.length

/-- The tokens of a text. -/
def tokens? (dialect : Dialect) (text : String) : Option (List Lexeme) :=
  readTokens dialect ⟨1, 1⟩ text.toList

end Sql
end ShardRouting
