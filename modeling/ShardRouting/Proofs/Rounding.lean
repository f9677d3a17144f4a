import Mathlib.Algebra.Order.Ring.Int
import Mathlib.Tactic.SplitIfs
import ShardRouting.Shard.Value

/-! Whole numbers as floating-point numbers. A whole number of more than 53 binary digits is rounded to the nearest
    multiple of the place of its 53rd digit. So the numbers from 2 ^ 63 on stay there, and the first 1025 of them become
    2 ^ 63 itself, which counts as the largest word; behind a minus sign it is the smallest. -/

namespace ShardRouting
namespace Number
namespace Binary64

variable {n : Nat}

/-! ### Rounding -/

theorem div_le_roundDiv (num den : Nat) : num / den ≤ roundDiv num den := by
  unfold roundDiv
  dsimp only
  split_ifs <;> omega

/-- The quotient stays as it is below a half, and at a half if it is even. -/
theorem roundDiv_eq_div_iff {num den : Nat} :
    roundDiv num den = num / den ↔ 2 * (num % den) < den ∨ 2 * (num % den) = den ∧ num / den % 2 = 0 := by
  unfold roundDiv
  dsimp only
  split_ifs <;> omega

/-- The multiple of the place of its 53rd binary digit that is nearest to a number. -/
def rounded (n : Nat) : Nat := roundDiv n (2 ^ (n.log2 - 52)) * 2 ^ (n.log2 - 52)

theorem leading_digits (h : 2 ^ 52 ≤ n) : 2 ^ 52 ≤ n / 2 ^ (n.log2 - 52) := by
  have hne : n ≠ 0 := by omega
  have hlog : 52 ≤ n.log2 := (Nat.le_log2 hne).mpr h
  rw [Nat.le_div_iff_mul_le (Nat.two_pow_pos _), ← Nat.pow_add, Nat.add_sub_cancel' hlog]
  exact Nat.log2_self_le hne

/-- Rounding leaves a number above the powers of two that it has reached. -/
theorem two_pow_log2_le_rounded (h : 2 ^ 52 ≤ n) : 2 ^ n.log2 ≤ rounded n := by
  have hlog : 52 ≤ n.log2 := (Nat.le_log2 (by omega)).mpr h
  calc 2 ^ n.log2 = 2 ^ 52 * 2 ^ (n.log2 - 52) := by rw [← Nat.pow_add, Nat.add_sub_cancel' hlog]
    _ ≤ rounded n := Nat.mul_le_mul_right _ ((leading_digits h).trans (div_le_roundDiv ..))

theorem le_rounded {k : Nat} (h : 2 ^ 52 ≤ n) (hk : 2 ^ k ≤ n) : 2 ^ k ≤ rounded n :=
  (Nat.pow_le_pow_right (by decide) ((Nat.le_log2 (by omega)).mpr hk)).trans (two_pow_log2_le_rounded h)

/-- From 2 ^ 63 on every 2048th number has a floating-point number of its own, and the middle between the first two goes
    to the lower one, whose significand is even. -/
theorem rounded_eq_iff (h : 2 ^ 63 ≤ n) : rounded n = 2 ^ 63 ↔ n ≤ 2 ^ 63 + 1024 := by
  have hne : n ≠ 0 := by omega
  by_cases hlarge : 2 ^ 64 ≤ n
  · have hrounded : 2 ^ 64 ≤ rounded n := le_rounded (by omega) hlarge
    omega
  · have hlog : n.log2 = 63 := (Nat.log2_eq_iff hne).mpr ⟨h, by omega⟩
    have hplace : rounded n = roundDiv n 2048 * 2048 := by simp [rounded, hlog]
    have hquotient := div_le_roundDiv n 2048
    have heven := @roundDiv_eq_div_iff n 2048
    omega

/-! ### Numbers without fraction -/

theorem toInt?_finite (negative : Bool) (m e : Nat) :
    (finite negative m e).toInt? = some (if negative then -((m * 2 ^ e : Nat) : Int) else (m * 2 ^ e : Nat)) := by
  simp [toInt?, ratio, Nat.mod_one, Nat.shiftLeft_eq]

theorem toInt?_neg (x : Binary64) : x.neg.toInt? = x.toInt?.map fun n => -n := by
  cases x with
  | nan => rfl
  | infinite negative => rfl
  | finite negative m e =>
    unfold neg toInt?
    dsimp only
    split
    · cases negative <;> simp
    · rfl

/-- The quotient by the place of the 53rd digit is the significand; a carry moves it one place on. -/
theorem ofRatio_whole_eq (negative : Bool) {k : Nat} (h : n.log2 = k + 52) :
    ofRatio negative n 1 =
      if roundDiv n (2 ^ k) = 2 ^ 53 then
        if 971 < (k : Int) + 1 then .infinite negative else .finite negative (2 ^ 52) (k + 1)
      else if 971 < (k : Int) then .infinite negative else .finite negative (roundDiv n (2 ^ k)) k := by
  have hne : n ≠ 0 := by
    rintro rfl
    simp at h
  have hguess : (n.log2 : Int) - (Nat.log2 1 : Int) - 52 = k := by
    have hone : Nat.log2 1 = 0 := by decide
    omega
  have hscale : scale n 1 k = (n, 2 ^ k) := by simp [scale, Nat.shiftLeft_eq]
  have hleading : ¬n / 2 ^ k < 2 ^ 52 := by
    have := leading_digits ((Nat.le_log2 hne).mp (by omega : 52 ≤ n.log2))
    rw [h, Nat.add_sub_cancel] at this
    exact Nat.not_lt_of_le this
  have hexponent : max (-1074) (k : Int) = k := by omega
  unfold ofRatio
  simp only [if_neg hne, hguess, hscale, Nat.one_shiftLeft, if_neg hleading, hexponent]
  split <;> rfl

/-- Only numbers of more than 1023 binary digits become infinite. -/
theorem ofRatio_whole (negative : Bool) (h : 2 ^ 52 ≤ n) :
    1023 ≤ n.log2 ∧ ofRatio negative n 1 = .infinite negative ∨
      ∃ m e : Nat, ofRatio negative n 1 = .finite negative m e ∧ m * 2 ^ e = rounded n := by
  have hlog : 52 ≤ n.log2 := (Nat.le_log2 (by omega)).mpr h
  obtain ⟨k, hk⟩ : ∃ k, n.log2 = k + 52 := ⟨n.log2 - 52, by omega⟩
  have hrounded : rounded n = roundDiv n (2 ^ k) * 2 ^ k := by rw [rounded, hk, Nat.add_sub_cancel]
  rw [ofRatio_whole_eq negative hk, hrounded]
  by_cases hcarry : roundDiv n (2 ^ k) = 2 ^ 53
  · rw [if_pos hcarry, hcarry]
    by_cases hlarge : 971 < (k : Int) + 1
    · exact .inl ⟨by omega, if_pos hlarge⟩
    · exact .inr ⟨2 ^ 52, k + 1, if_neg hlarge, by rw [← Nat.pow_add, ← Nat.pow_add, Nat.add_left_comm, Nat.add_comm]⟩
  · rw [if_neg hcarry]
    by_cases hlarge : 971 < (k : Int)
    · exact .inl ⟨by omega, if_pos hlarge⟩
    · exact .inr ⟨_, k, if_neg hlarge, rfl⟩

/-- Numbers of at most 1022 binary digits stay finite, whole significands or not. -/
theorem isFinite_ofRatio (negative : Bool) (h : n.log2 < 1022) : (ofRatio negative n 1).isFinite = true := by
  have hone : Nat.log2 1 = 0 := by decide
  unfold ofRatio
  split
  · rfl
  · dsimp only
    rw [if_neg]
    · rfl
    · split <;> split <;> dsimp only <;> omega

theorem isFinite_ofDecimal (h : n < 2 ^ 63) : (ofDecimal false n 0).isFinite = true := by
  by_cases hzero : n = 0
  · subst hzero
    rfl
  · have hlog : n.log2 < 63 := (Nat.log2_lt hzero).mpr h
    have hshort : (Nat.toDigits 10 n).length ≤ 19 :=
      (Nat.length_toDigits_le_iff (by decide) (by decide)).mpr (by omega)
    unfold ofDecimal
    dsimp only
    rw [if_neg (by omega), if_neg (by omega), if_pos (Int.le_refl 0)]
    simpa using isFinite_ofRatio false (by omega)

/-- A decimal digit is worth more than three binary ones. -/
theorem le_log2_of_digits {k : Nat} (hpos : 0 < k) (h : k < (Nat.toDigits 10 n).length) : 3 * k ≤ n.log2 := by
  have hten : 10 ^ k ≤ n := Nat.le_of_not_lt fun hless =>
    Nat.not_le_of_lt h ((Nat.length_toDigits_le_iff (by decide) hpos).mpr hless)
  have hne : n ≠ 0 := Nat.ne_of_gt ((Nat.pow_pos (by decide)).trans_le hten)
  refine (Nat.le_log2 hne).mpr ?_
  calc 2 ^ (3 * k) = 8 ^ k := Nat.pow_mul 2 3 k
    _ ≤ 10 ^ k := Nat.pow_le_pow_left (by decide) k
    _ ≤ n := hten

theorem ofDecimal_whole (h : 2 ^ 52 ≤ n) :
    1023 ≤ n.log2 ∧ ofDecimal false n 0 = .infinite false ∨
      ∃ m e : Nat, ofDecimal false n 0 = .finite false m e ∧ m * 2 ^ e = rounded n := by
  have hne : n ≠ 0 := by omega
  have hnone : ¬(n = 0 ∨ ((Nat.toDigits 10 n).length : Int) + 0 < -400) := by omega
  unfold ofDecimal
  dsimp only
  rw [if_neg hnone]
  by_cases hlong : 400 < ((Nat.toDigits 10 n).length : Int) + 0
  · have hlog : 3 * 400 ≤ n.log2 := le_log2_of_digits (by decide) (by omega)
    exact .inl ⟨by omega, if_pos hlong⟩
  · rw [if_neg hlong, if_pos (Int.le_refl 0)]
    simpa using ofRatio_whole false h

/-- An integer beyond the words is rounded to one beyond them, which is 2 ^ 63 up to the first middle. -/
theorem toInt?_whole (h : 2 ^ 63 ≤ n) :
    2 ^ 63 + 1024 < n ∧ (ofDecimal false n 0).toInt? = none ∨
      ∃ r : Nat, (ofDecimal false n 0).toInt? = some (r : Int) ∧ 2 ^ 63 ≤ r ∧ (r = 2 ^ 63 ↔ n ≤ 2 ^ 63 + 1024) := by
  rcases ofDecimal_whole (n := n) (by omega) with ⟨hlarge, hinfinite⟩ | ⟨m, e, hfinite, hvalue⟩
  · have hbeyond : 2 ^ 64 ≤ n := (Nat.le_log2 (by omega)).mp (by omega)
    rw [hinfinite]
    exact .inl ⟨by omega, rfl⟩
  · rw [hfinite, toInt?_finite, hvalue]
    exact .inr ⟨rounded n, rfl, le_rounded (by omega) h, rounded_eq_iff h⟩

end Binary64

theorem word?_eq_none_iff {n : Int} : word? n = none ↔ n < -2 ^ 63 ∨ 2 ^ 63 ≤ n := by
  unfold word?
  rw [Int64.toInt_minValue, Int64.toInt_maxValue]
  split
  · simp only [reduceCtorEq, false_iff]
    omega
  · simp only [true_iff]
    omega

end Number

open Number

/-- From 2 ^ 63 on only what is rounded down to it has an integer view. -/
theorem ShardValue.wordOfFloat_whole {n : Nat} (h : 2 ^ 63 ≤ n) :
    wordOfFloat (.ofDecimal false n 0) = if n ≤ 2 ^ 63 + 1024 then some Int64.maxValue else none := by
  unfold wordOfFloat
  rw [Int64.toInt_maxValue]
  rcases Binary64.toInt?_whole h with ⟨hlarge, hnone⟩ | ⟨r, hsome, hr, hiff⟩
  · rw [hnone, if_neg (by omega)]
    rfl
  · rw [hsome, Option.bind_some]
    by_cases hn : n ≤ 2 ^ 63 + 1024
    · rw [if_pos hn, if_pos (by omega)]
    · rw [if_neg hn, if_neg (by omega), word?_eq_none_iff]
      omega

theorem ShardValue.wordOfFloat_neg_whole {n : Nat} (h : 2 ^ 63 ≤ n) :
    wordOfFloat (Binary64.ofDecimal false n 0).neg = if n ≤ 2 ^ 63 + 1024 then some Int64.minValue else none := by
  unfold wordOfFloat
  rw [Binary64.toInt?_neg, Int64.toInt_maxValue]
  rcases Binary64.toInt?_whole h with ⟨hlarge, hnone⟩ | ⟨r, hsome, hr, hiff⟩
  · rw [hnone, if_neg (by omega)]
    rfl
  · rw [hsome, Option.map_some, Option.bind_some, if_neg (by omega)]
    by_cases hn : n ≤ 2 ^ 63 + 1024
    · rw [if_pos hn, word?_eq_some_iff, Int64.toInt_minValue]
      omega
    · rw [if_neg hn, word?_eq_none_iff]
      omega

end ShardRouting
