import ShardRouting.Proofs.Digits
import ShardRouting.Proofs.Rounding
import ShardRouting.Routing.Value

/-! Numerals of any length. Up to the largest word a numeral is read as the integer that it denotes, and behind a minus
    sign as its opposite. What is larger is rounded to a floating-point number, and the integer view of that number is
    taken at the very edge as well: there it is one of its neighbours, and not what was written. -/

namespace ShardRouting
open Sql Number

/-- A text of decimal digits, at least one. -/
structure Numeral where
  text : String
  digits : ∀ c ∈ text.toList, c.isDigit = true
  nonempty : text.toList ≠ []

namespace Numeral

variable (d : Numeral)

/-- The integer that the digits denote. -/
def value : Nat := Nat.ofDigitChars 10 d.text.toList 0

/-- The floating-point number nearest to it. -/
def nearest : Binary64 := .ofDecimal false d.value 0

/-- The numeral as a literal of a statement. -/
def literal (long : Bool) : Expr := .literal (.number d.text long)

/-! ### Reading digits -/

theorem readDigits_text : Number.readDigits 10 d.text.toList = some d.value :=
  readDigits_digits d.nonempty d.digits

theorem exists_head : ∃ c cs, d.text.toList = c :: cs ∧ c.isDigit = true := by
  obtain ⟨c, cs, hcs⟩ := List.exists_cons_of_ne_nil d.nonempty
  exact ⟨c, cs, hcs, d.digits c (hcs ▸ List.mem_cons_self)⟩

/-- A numeral has no sign. -/
theorem readWord_text : readWord 10 d.text.toList = word? d.value := by
  have hread := d.readDigits_text
  obtain ⟨c, cs, hcs, hc⟩ := d.exists_head
  rw [hcs] at hread ⊢
  rw [readWord_of_isDigit hc, hread, Option.bind_some]

/-- Nor is it one of the words for what is no number. -/
theorem read_text : Binary64.read d.text.toList = some d.nearest :=
  (Binary64.denotes_whole d.nonempty d.digits).read.1

theorem trimChars_text : Text.trimChars d.text.toList = d.text.toList :=
  Text.strip_of_forall_not fun c hc => Text.isBlank_of_isDigit (d.digits c hc)

/-! ### Values -/

/-- The value of a numeral in a statement. -/
theorem numberValue?_text : numberValue? d.text =
    match word? d.value with
    | some n => some (.int n)
    | none => if d.nearest.isFinite = true then some (.float d.nearest) else none := by
  cases hword : word? d.value with
  | some n => simp only [numberValue?, readWord_text, hword]
  | none => simp only [numberValue?, readWord_text, hword, read_text]

/-- The value of a numeral as free text. -/
theorem ofText_text : ShardValue.ofText d.text =
    match word? d.value with
    | some n => .int n
    | none => if d.nearest.isFinite = true then .float d.nearest else .text d.text := by
  cases hword : word? d.value with
  | some n => simp only [ShardValue.ofText, trimChars_text, readWord_text, hword]
  | none => simp only [ShardValue.ofText, trimChars_text, readWord_text, hword, read_text]

/-- Up to the largest word a numeral is an integer, and beyond it a floating-point number. -/
theorem word?_value :
    (∃ n : Int64, word? d.value = some n ∧ n.toInt = d.value ∧ d.value < 2 ^ 63) ∨
      word? d.value = none ∧ 2 ^ 63 ≤ d.value := by
  cases hword : word? d.value with
  | some n =>
    have hvalue := word?_eq_some_iff.mp hword
    have hbound := n.toInt_lt
    exact .inl ⟨n, rfl, hvalue, by omega⟩
  | none =>
    have hbound := word?_eq_none_iff.mp hword
    exact .inr ⟨rfl, by omega⟩

end Numeral

/-! ### Integer views -/

/-- A number that is not finite is no value; it has no integer view either. -/
theorem ShardValue.toWord?_of_finite (x : Binary64) :
    (if x.isFinite = true then some (ShardValue.float x) else none).bind ShardValue.toWord? = wordOfFloat x := by
  cases x <;> rfl

theorem ShardValue.negate?_of_finite (x : Binary64) :
    (if x.isFinite = true then some (ShardValue.float x) else none).bind ShardValue.negate? =
      if x.neg.isFinite = true then some (ShardValue.float x.neg) else none := by
  cases x <;> rfl

/-- The integer that an expression is routed and counted by, if it is read as a value that stands for one. -/
def viewOf? (scan : Scan) (params : Params) (e : Expr) : Option Int :=
  match readValue scan params e with
  | .ok (.known value _) => value.toWord?.map Int64.toInt
  | _ => none

namespace Numeral

variable (scan : Scan) (params : Params) (d : Numeral) (long : Bool)

theorem viewOf?_literal_eq :
    viewOf? scan params (d.literal long) = ((numberValue? d.text).bind ShardValue.toWord?).map Int64.toInt := by
  unfold viewOf? literal
  simp only [readValue, literalValue?]
  cases numberValue? d.text <;> rfl

theorem viewOf?_negative_eq :
    viewOf? scan params (.sign true (d.literal long)) =
      (((numberValue? d.text).bind ShardValue.negate?).bind ShardValue.toWord?).map Int64.toInt := by
  unfold viewOf? literal
  simp only [readValue, literalValue?]
  cases numberValue? d.text with
  | none => rfl
  | some value => cases hnegated : value.negate? <;> simp [Reading.ofLiteral, hnegated]

/-- What a numeral is taken for: the integer that it denotes, at the edge the largest word, and beyond it none. -/
theorem viewOf?_literal :
    viewOf? scan params (d.literal long) =
      if d.value < 2 ^ 63 then some (d.value : Int) else if d.value ≤ 2 ^ 63 + 1024 then some (2 ^ 63 - 1) else none := by
  rw [viewOf?_literal_eq, numberValue?_text]
  rcases d.word?_value with ⟨n, hword, hvalue, hsmall⟩ | ⟨hword, hlarge⟩
  · rw [hword, if_pos hsmall, ← hvalue]
    rfl
  · rw [hword, if_neg (Nat.not_lt_of_le hlarge)]
    dsimp only
    rw [ShardValue.toWord?_of_finite, nearest, ShardValue.wordOfFloat_whole hlarge]
    split <;> rfl

/-- What a numeral behind a minus sign is taken for: the opposite integer, beyond the smallest word that word, and then
    none. -/
theorem viewOf?_negative :
    viewOf? scan params (.sign true (d.literal long)) =
      if d.value ≤ 2 ^ 63 + 1024 then some (max (-(d.value : Int)) (-2 ^ 63)) else none := by
  rw [viewOf?_negative_eq, numberValue?_text]
  rcases d.word?_value with ⟨n, hword, hvalue, hsmall⟩ | ⟨hword, hlarge⟩
  · obtain ⟨opposite, hopposite⟩ : ∃ opposite, word? (-n.toInt) = some opposite := by
      rw [← Option.ne_none_iff_exists', ne_eq, word?_eq_none_iff]
      omega
    have hedge : d.value ≤ 2 ^ 63 + 1024 := by omega
    rw [hword, if_pos hedge, max_eq_left (by omega), ← hvalue, ← word?_eq_some_iff.mp hopposite]
    simp only [Option.bind_some, ShardValue.negate?, hopposite, Option.map_some, ShardValue.toWord?]
  · rw [hword]
    dsimp only
    rw [ShardValue.negate?_of_finite, ShardValue.toWord?_of_finite, nearest, ShardValue.wordOfFloat_neg_whole hlarge,
      max_eq_right (by omega)]
    split <;> rfl

end Numeral

/-- A numeral is taken for no other integer than its own unless it is rounded down to 2 ^ 63, and behind a minus sign
    unless it is rounded down to it from above. -/
theorem views_exact_iff (scan : Scan) (params : Params) (d : Numeral) (long : Bool) :
    ((∀ i, viewOf? scan params (d.literal long) = some i → i = d.value) ↔
        d.value < 2 ^ 63 ∨ 2 ^ 63 + 1024 < d.value) ∧
      ((∀ i, viewOf? scan params (.sign true (d.literal long)) = some i → i = -d.value) ↔
        d.value ≤ 2 ^ 63 ∨ 2 ^ 63 + 1024 < d.value) := by
  rw [Numeral.viewOf?_literal, Numeral.viewOf?_negative]
  constructor
  · by_cases hsmall : d.value < 2 ^ 63
    · simp only [if_pos hsmall, Option.some.injEq, forall_eq', true_iff]
      exact .inl hsmall
    · by_cases hedge : d.value ≤ 2 ^ 63 + 1024
      · simp only [if_neg hsmall, if_pos hedge, Option.some.injEq, forall_eq']
        omega
      · simp only [if_neg hsmall, if_neg hedge, reduceCtorEq, false_implies, implies_true, true_iff]
        omega
  · by_cases hedge : d.value ≤ 2 ^ 63 + 1024
    · simp only [if_pos hedge, Option.some.injEq, forall_eq']
      omega
    · simp only [if_neg hedge, reduceCtorEq, false_implies, implies_true, true_iff]
      omega

namespace Sample

/-- The first numeral beyond the words. -/
def beyond : Numeral := ⟨"9223372036854775808", List.all_eq_true.mp (by decide), by decide⟩

/-- The first one that is beyond them also behind a minus sign. -/
def farther : Numeral := ⟨"9223372036854775809", List.all_eq_true.mp (by decide), by decide⟩

end Sample

/-- Beyond the words a numeral is taken for the largest of them, and behind a minus sign for the smallest. -/
theorem neighbour_taken :
    Sample.beyond.value = 9223372036854775808 ∧
      viewOf? {} .empty (Sample.beyond.literal false) = some 9223372036854775807 ∧
      Sample.farther.value = 9223372036854775809 ∧
      viewOf? {} .empty (.sign true (Sample.farther.literal false)) = some (-9223372036854775808) ∧
      ¬∀ (scan : Scan) (params : Params) (d : Numeral) (long : Bool) (i : Int),
        viewOf? scan params (d.literal long) = some i → i = d.value := by
  have hbeyond : Sample.beyond.value = 9223372036854775808 := by decide +kernel
  have hview : viewOf? {} .empty (Sample.beyond.literal false) = some 9223372036854775807 := by decide +kernel
  refine ⟨hbeyond, hview, by decide +kernel, by decide +kernel, fun hexact => ?_⟩
  have heq := hexact {} .empty Sample.beyond false _ hview
  rw [hbeyond] at heq
  exact absurd heq (by decide)

end ShardRouting
