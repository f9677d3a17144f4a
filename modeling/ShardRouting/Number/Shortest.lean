import ShardRouting.Number.Binary64

/-! The shortest decimal that reads back as a given floating-point number, and the two layouts of it:
    plain text without exponent, and the layout of JSON numbers. -/

namespace ShardRouting
namespace Number

/-- `digits * 10 ^ exponent`. -/
structure Decimal where
  digits : Nat
  exponent : Int
  deriving DecidableEq, Repr

namespace Decimal

/-- Moves up to `fuel` zeros from the end of the digits into the exponent. -/
def normalize (fuel : Nat) (d : Decimal) : Decimal :=
  match fuel with
  | 0 => d
  | fuel + 1 =>
    if d.digits ≠ 0 ∧ d.digits % 10 = 0 then normalize fuel ⟨d.digits / 10, d.exponent + 1⟩ else d

/-- The number of places before the point of `num / den`: zero or less below one tenth. -/
def places (num den : Nat) : Int :=
  if den ≤ num then (Nat.toDigits 10 (num / den)).length
  else
    -- `den / num` has as many digits as `den * 10 ^ k ≤ num` allows, up to one
    let k := (Nat.toDigits 10 (den / num)).length
    if den ≤ num * Nat.pow 10 (k - 1) then 2 - (k : Int) else 1 - (k : Int)

/-- The decimals of `place` just below and just above `num / den`. -/
def neighbours (num den : Nat) (place : Int) : Decimal × Decimal :=
  let below := if 0 ≤ place then num / (den * Nat.pow 10 place.toNat) else num * Nat.pow 10 (-place).toNat / den
  (⟨below, place⟩, ⟨below + 1, place⟩)

/-- Which neighbour is taken for a number in the middle between them. -/
inductive Tie where
  | up
  /-- The neighbour whose last digit is even. -/
  | even
  deriving DecidableEq, Repr

/-- The lower neighbour of `num / den` is taken: it is the nearer one, or a tie goes to it. -/
def takesBelow (tie : Tie) (num den : Nat) (below : Decimal) : Bool :=
  let middle := 2 * below.digits + 1
  let (twice, middle) :=
    if 0 ≤ below.exponent then (2 * num, middle * Nat.pow 10 below.exponent.toNat * den)
    else (2 * num * Nat.pow 10 (-below.exponent).toNat, middle * den)
  twice < middle || (twice = middle && tie = .even && below.digits % 2 = 0)

/-- The nearer of the neighbours that read back as `m * 2 ^ e`. -/
def candidate (tie : Tie) (m : Nat) (e : Int) (place : Int) : Option Decimal :=
  let (num, den) := Binary64.ratio m e
  let (below, above) := neighbours num den place
  let back (d : Decimal) : Bool := Binary64.ofDecimal false d.digits d.exponent = .finite false m e
  match back below, back above with
  | true, true => some (if takesBelow tie num den below then below else above)
  | true, false => some below
  | false, true => some above
  | false, false => none

/-- All digits of `m * 2 ^ e`. -/
def exact (m : Nat) (e : Int) : Decimal :=
  if 0 ≤ e then ⟨m <<< e.toNat, 0⟩ else ⟨m * Nat.pow 5 (-e).toNat, e⟩

/-- The fewest digits, up to seventeen, that read back as `m * 2 ^ e`. -/
def shortest (tie : Tie) (m : Nat) (e : Int) : Decimal :=
  let (num, den) := Binary64.ratio m e
  let top := places num den
  let found := (List.range 17).findSome? fun (n : Nat) => candidate tie m e (top - (n + 1))
  normalize 400 (found.getD (exact m e))

end Decimal

/-- How a finite number is laid out. -/
structure Layout where
  /-- Exponents of the first digit from which on the number is written with an exponent. -/
  largeFrom : Option Int
  /-- Exponents of the first digit below which the number is written with an exponent. -/
  smallBelow : Option Int
  /-- What follows the digits of a number without fractional part. -/
  whole : String
  /-- Which digits are written for a number in the middle between two shortest decimals. -/
  tie : Decimal.Tie

/-- Digits with a point, without exponent. -/
def Layout.positional (layout : Layout) (digits : List Char) (exponent : Int) : String :=
  let point : Int := digits.length + exponent
  if 0 ≤ exponent then
    String.ofList (digits ++ List.replicate exponent.toNat '0') ++ layout.whole
  else if 0 < point then
    String.ofList (digits.take point.toNat ++ '.' :: digits.drop point.toNat)
  else
    String.ofList ('0' :: '.' :: List.replicate (-point).toNat '0' ++ digits)

/-- One digit, the others behind a point, and an exponent that is always signed. -/
def Layout.scientific (digits : List Char) (top : Int) : String :=
  let mantissa := match digits with
    | [] => []
    | [c] => [c]
    | c :: cs => c :: '.' :: cs
  let sign := if 0 ≤ top then "e+" else "e-"
  String.ofList mantissa ++ sign ++ toString top.natAbs

def Layout.decimal (layout : Layout) (d : Decimal) : String :=
  let digits := Nat.toDigits 10 d.digits
  let top : Int := digits.length + d.exponent - 1
  if layout.largeFrom.any (· ≤ top) ∨ layout.smallBelow.any (top < ·) then scientific digits top
  else layout.positional digits d.exponent

def Layout.finite (layout : Layout) (negative : Bool) (m : Nat) (e : Int) : String :=
  let sign := if negative then "-" else ""
  if m = 0 then sign ++ "0" ++ layout.whole else sign ++ layout.decimal (Decimal.shortest layout.tie m e)

/-- Plain text never has an exponent and gives whole numbers no fraction; a tie goes up. -/
def plain : Layout := ⟨none, none, "", .up⟩

/-- JSON numbers have an exponent from 10 ^ 16 up and below 10 ^ -5; whole ones end in `.0`, and a tie goes
    to the even digit. -/
def jsonNumber : Layout := ⟨some 16, some (-5), ".0", .even⟩

/-- The number as plain text. -/
def Binary64.text : Binary64 → String
  | .nan => "NaN"
  | .infinite negative => if negative then "-inf" else "inf"
  | .finite negative m e => plain.finite negative m e

end Number
end ShardRouting
