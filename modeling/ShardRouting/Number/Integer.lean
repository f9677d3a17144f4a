/-! Integers as they are written: digits in a radix, with an optional sign, inside a range. -/

namespace ShardRouting
namespace Number

/-- The value of a digit or letter below `radix`. -/
def digitValue (radix : Nat) (c : Char) : Option Nat :=
  let value :=
    if '0' ≤ c ∧ c ≤ '9' then c.toNat - '0'.toNat
    else if 'a' ≤ c ∧ c ≤ 'z' then c.toNat - 'a'.toNat + 10
    else if 'A' ≤ c ∧ c ≤ 'Z' then c.toNat - 'A'.toNat + 10
    else radix
  if value < radix then some value else none

/-- Goes on reading digits after the value `acc`; none at the first character that is no digit. -/
def readDigitsFrom (radix acc : Nat) : List Char → Option Nat
  | [] => some acc
  | c :: cs => match digitValue radix c with
    | some d => readDigitsFrom radix (acc * radix + d) cs
    | none => none

/-- The number written by one or more digits. -/
def readDigits (radix : Nat) : List Char → Option Nat
  | [] => none
  | c :: cs => readDigitsFrom radix 0 (c :: cs)

/-- A number without minus sign, up to `limit`. -/
def readUnsigned (limit : Nat) (cs : List Char) : Option Nat :=
  let digits := match cs with
    | '+' :: rest => rest
    | _ => cs
  (readDigits 10 digits).bind fun n => if n ≤ limit then some n else none

/-- The integer as a 64-bit word, when it is one. -/
def word? (n : Int) : Option Int64 :=
  if Int64.minValue.toInt ≤ n ∧ n ≤ Int64.maxValue.toInt then some (Int64.ofInt n) else none

/-- A signed 64-bit integer. -/
def readWord (radix : Nat) (cs : List Char) : Option Int64 :=
  match cs with
  | '-' :: rest => (readDigits radix rest).bind fun n => word? (-(n : Int))
  | '+' :: rest => (readDigits radix rest).bind fun n => word? n
  | _ => (readDigits radix cs).bind fun n => word? n

theorem word?_eq_some_iff {n : Int} {w : Int64} : word? n = some w ↔ w.toInt = n := by
  unfold word?
  rw [Int64.toInt_minValue, Int64.toInt_maxValue]
  constructor
  · intro h
    split at h
    · rename_i hn
      cases h
      exact Int64.toInt_ofInt_of_le (by omega) (by omega)
    · cases h
  · rintro rfl
    have hl := w.le_toInt
    have hu := w.toInt_lt
    rw [if_pos ⟨by omega, by omega⟩, Int64.ofInt_toInt]

/-- `n` in decimal, with zeros in front up to `width` characters. -/
def padded (width n : Nat) : String :=
  let digits := Nat.toDigits 10 n
  String.ofList (List.replicate (width - digits.length) '0' ++ digits)

end Number
end ShardRouting
