import ShardRouting.Number.Binary64
import ShardRouting.Settings.Datum

/-! Strings, numbers, dates and names of TOML. Each reader takes the characters that are left and returns
    what it read with the rest. -/

namespace ShardRouting
namespace Toml

def isSpace (c : Char) : Bool := c = ' ' || c = '\t'

def skipSpaces (cs : List Char) : List Char := cs.dropWhile isSpace

/-- A line ends with a line feed, or with a carriage return before it. -/
def lineEnd? : List Char → Option (List Char)
  | '\n' :: cs => some cs
  | '\r' :: '\n' :: cs => some cs
  | _ => none

/-- Control characters other than the tab stand nowhere in a document. -/
def isPrintable (c : Char) : Bool := c = '\t' || (0x20 ≤ c.toNat && c.toNat ≠ 0x7F)

/-- Leaves out a comment, if there is one, up to the end of its line. -/
def skipComment : List Char → List Char
  | '#' :: cs => cs.dropWhile isPrintable
  | cs => cs

/-- The character with a hexadecimal code of `count` digits. -/
def codePoint (count : Nat) (cs : List Char) : Option (Char × List Char) :=
  let digits := cs.take count
  if digits.length < count ∨ digits.any fun c => (Number.digitValue 16 c).isNone then none
  else (Number.readDigits 16 digits).bind fun n =>
    if h : n.isValidChar then some (Char.ofNatAux n h, cs.drop count) else none

/-- The character behind a backslash. -/
def escape : List Char → Option (Char × List Char)
  | 'b' :: cs => some ('\x08', cs)
  | 't' :: cs => some ('\t', cs)
  | 'n' :: cs => some ('\n', cs)
  | 'f' :: cs => some ('\x0c', cs)
  | 'r' :: cs => some ('\r', cs)
  | '"' :: cs => some ('"', cs)
  | '\\' :: cs => some ('\\', cs)
  | 'u' :: cs => codePoint 4 cs
  | 'U' :: cs => codePoint 8 cs
  | _ => none

/-- A string of one line, after its opening quote. Only the double quote takes escapes. -/
def lineString (quote : Char) (read : List Char) (fuel : Nat) (cs : List Char) :
    Option (String × List Char) :=
  match fuel, cs with
  | fuel + 1, c :: cs =>
    if c = quote then some (String.ofList read.reverse, cs)
    else if c = '\\' ∧ quote = '"' then
      match escape cs with
      | some (c, cs) => lineString quote (c :: read) fuel cs
      | none => none
    else if isPrintable c then lineString quote (c :: read) fuel cs
    else none
  | _, _ => none

/-- Blanks and line ends after a backslash at the end of a line. -/
def skipFold (fuel : Nat) (cs : List Char) : List Char :=
  match fuel with
  | 0 => cs
  | fuel + 1 =>
    let cs := skipSpaces cs
    match lineEnd? cs with
    | some cs => skipFold fuel cs
    | none => cs

/-- A string of several lines, after its three opening quotes. Up to two quotes may stand before the
    closing three. -/
def blockString (quote : Char) (read : List Char) (fuel : Nat) (cs : List Char) :
    Option (String × List Char) :=
  match fuel, cs with
  | fuel + 1, c :: cs =>
    if c = quote then
      let run := (c :: cs).takeWhile (· = quote)
      if run.length < 3 then blockString quote (c :: read) fuel cs
      else if 5 < run.length then none
      else some (String.ofList (read.reverse ++ run.drop 3), (c :: cs).drop run.length)
    else if c = '\\' ∧ quote = '"' then
      match escape cs with
      | some (c, cs) => blockString quote (c :: read) fuel cs
      | none =>
        match lineEnd? (skipSpaces cs) with
        | some cs => blockString quote read fuel (skipFold fuel cs)
        | none => none
    else match lineEnd? (c :: cs) with
      | some cs => blockString quote ('\n' :: read) fuel cs
      | none => if isPrintable c then blockString quote (c :: read) fuel cs else none
  | _, _ => none

/-- A string in any of the four forms. A line end just behind three opening quotes is left out. -/
def string (cs : List Char) : Option (String × List Char) :=
  match cs with
  | a :: b :: c :: rest =>
    if (a = '"' ∨ a = '\'') ∧ b = a ∧ c = a then
      blockString a [] (rest.length + 1) ((lineEnd? rest).getD rest)
    else if a = '"' ∨ a = '\'' then lineString a [] (cs.length + 1) (b :: c :: rest)
    else none
  | a :: rest => if a = '"' ∨ a = '\'' then lineString a [] (cs.length + 1) rest else none
  | [] => none

def isBareKey (c : Char) : Bool := c.isAlphanum || c = '_' || c = '-'

/-- A name: bare, or a string of one line. -/
def simpleKey (cs : List Char) : Option (String × List Char) :=
  match cs with
  | '"' :: rest => lineString '"' [] (rest.length + 1) rest
  | '\'' :: rest => lineString '\'' [] (rest.length + 1) rest
  | _ =>
    let name := cs.takeWhile isBareKey
    if name.isEmpty then none else some (String.ofList name, cs.dropWhile isBareKey)

/-- Names with points between them. -/
def key (fuel : Nat) (cs : List Char) : Option (List String × List Char) :=
  match fuel with
  | 0 => none
  | fuel + 1 => do
    let (name, rest) ← simpleKey (skipSpaces cs)
    match skipSpaces rest with
    | '.' :: rest =>
      let (names, rest) ← key fuel rest
      return (name :: names, rest)
    | rest => return ([name], rest)

/-! ### Numbers and dates -/

/-- Digits with single underscores between them, which are left out. -/
def separated (radix : Nat) : List Char → Option (List Char)
  | [] => none
  | [c] => if (Number.digitValue radix c).isSome then some [c] else none
  | c :: '_' :: cs => if (Number.digitValue radix c).isSome then (separated radix cs).map (c :: ·) else none
  | c :: d :: cs =>
    if (Number.digitValue radix c).isSome then (separated radix (d :: cs)).map (c :: ·) else none

/-- Decimal digits without a zero in front of others. -/
def plainDigits (cs : List Char) : Option (List Char) :=
  match separated 10 cs with
  | some ('0' :: _ :: _) => none
  | digits => digits

def unsign : List Char → List Char
  | '+' :: cs => cs
  | '-' :: cs => cs
  | cs => cs

def integer? (cs : List Char) : Option Int64 :=
  match cs with
  | '0' :: 'x' :: cs => (separated 16 cs).bind (Number.readWord 16)
  | '0' :: 'o' :: cs => (separated 8 cs).bind (Number.readWord 8)
  | '0' :: 'b' :: cs => (separated 2 cs).bind (Number.readWord 2)
  | '-' :: cs => (plainDigits cs).bind fun digits => Number.readWord 10 ('-' :: digits)
  | cs => (plainDigits (unsign cs)).bind (Number.readWord 10)

/-- A number with a fraction, an exponent or both, an infinity, or no number. Only on the negative side
    may digits stand for more than the largest number. -/
def isReal (text : List Char) : Bool :=
  let cs := unsign text
  let mantissa := cs.takeWhile fun c => c ≠ 'e' ∧ c ≠ 'E'
  let exponent := (cs.drop mantissa.length).drop 1
  let whole := mantissa.takeWhile (· ≠ '.')
  let fraction := (mantissa.drop whole.length).drop 1
  let wholeOk := (plainDigits whole).isSome
  let fractionOk := whole.length = mantissa.length || (separated 10 fraction).isSome
  let exponentOk := mantissa.length = cs.length || (separated 10 (unsign exponent)).isSome
  cs = "inf".toList || cs = "nan".toList
    || (wholeOk && fractionOk && exponentOk && !(whole.length = cs.length)
      && Number.Binary64.read (text.filter (· ≠ '_')) ≠ some (.infinite false))

/-- Two digits up to a bound. -/
def twoDigits (low high : Nat) (a b : Char) : Bool :=
  a.isDigit && b.isDigit && (Number.readDigits 10 [a, b]).any fun n => low ≤ n && n ≤ high

def daysInMonth (year month : Nat) : Nat :=
  if month = 2 then
    if year % 4 = 0 ∧ (year % 100 ≠ 0 ∨ year % 400 = 0) then 29 else 28
  else if [4, 6, 9, 11].contains month then 30
  else 31

def isDate : List Char → Bool
  | [a, b, c, d, '-', m, n, '-', x, y] =>
    match Number.readDigits 10 [a, b, c, d], Number.readDigits 10 [m, n] with
    | some year, some month => twoDigits 1 12 m n && twoDigits 1 (daysInMonth year month) x y
    | _, _ => false
  | _ => false

def isOffset : List Char → Bool
  | [] => true
  | ['z'] => true
  | ['Z'] => true
  | [s, a, b, ':', c, d] => (s = '+' || s = '-') && twoDigits 0 23 a b && twoDigits 0 59 c d
  | _ => false

/-- A time of day, with an offset only where one may stand. -/
def isTime (withOffset : Bool) : List Char → Bool
  | a :: b :: ':' :: c :: d :: ':' :: e :: f :: rest =>
    let (fractionOk, rest) := match rest with
      | '.' :: rest => (!(rest.takeWhile Char.isDigit).isEmpty, rest.dropWhile Char.isDigit)
      | _ => (true, rest)
    twoDigits 0 23 a b && twoDigits 0 59 c d && twoDigits 0 60 e f && fractionOk
      && (if withOffset then isOffset rest else rest.isEmpty)
  | _ => false

def isMoment (cs : List Char) : Bool :=
  let day := cs.take 10
  match cs.drop 10 with
  | [] => isDate day || isTime false cs
  | c :: time => (isDate day && (c = 'T' || c = 't' || c = ' ') && isTime true time) || isTime false cs

def isWordChar (c : Char) : Bool := c.isAlphanum || c = '_' || c = '+' || c = '-' || c = '.' || c = ':'

/-- A value without quotes or brackets. A date and a time may have a blank between them. -/
def bareValue (cs : List Char) : Option (Datum × List Char) :=
  let word := cs.takeWhile isWordChar
  let rest := cs.dropWhile isWordChar
  let (word, rest) := match rest with
    | ' ' :: time =>
      if isDate word ∧ (time.head?.any Char.isDigit) then
        (word ++ ' ' :: time.takeWhile isWordChar, time.dropWhile isWordChar)
      else (word, rest)
    | _ => (word, rest)
  if word = "true".toList then some (.bool true, rest)
  else if word = "false".toList then some (.bool false, rest)
  else match integer? word with
    | some n => some (.integer n.toInt, rest)
    | none => if isReal word ∨ isMoment word then some (.other, rest) else none

end Toml
end ShardRouting
