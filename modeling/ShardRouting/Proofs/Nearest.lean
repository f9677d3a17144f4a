import Mathlib.Algebra.Order.Field.Power
import Mathlib.Data.Int.Log
import Mathlib.Data.Rat.Floor
import Mathlib.Tactic.FieldSimp
import Mathlib.Tactic.Positivity
import Mathlib.Tactic.Ring
import ShardRouting.Proofs.Rounding

/-! The floating-point number nearest to a fraction depends on its quotient alone: the place of the last binary digit is
    read off the quotient, and the quotient by that place is rounded. So a number in its normal form is nearest to its
    own value, and every number that is read is in normal form. -/

namespace ShardRouting
namespace Number
namespace Binary64

/-! ### Quotients -/

theorem roundDiv_mul_right (num den : Nat) {c : Nat} (hc : 0 < c) :
    roundDiv (num * c) (den * c) = roundDiv num den := by
  have hscale : ∀ a b : Nat, 2 * (a * c) < b * c ↔ 2 * a < b := fun a b => by
    rw [← Nat.mul_assoc, Nat.mul_lt_mul_right hc]
  have hscale' : ∀ a b : Nat, b * c < 2 * (a * c) ↔ b < 2 * a := fun a b => by
    rw [← Nat.mul_assoc, Nat.mul_lt_mul_right hc]
  unfold roundDiv
  simp only [Nat.mul_div_mul_right num den hc, Nat.mul_mod_mul_right, hscale, hscale']

/-- Rounding only looks at the quotient. -/
theorem roundDiv_congr {num den num' den' : Nat} (hden : 0 < den) (hden' : 0 < den')
    (h : num * den' = num' * den) : roundDiv num den = roundDiv num' den' := by
  rw [← roundDiv_mul_right num den hden', ← roundDiv_mul_right num' den' hden, h, Nat.mul_comm den den']

theorem roundDiv_mul_self (m : Nat) {den : Nat} (hden : 0 < den) : roundDiv (m * den) den = m := by
  have hquotient : roundDiv (m * den) den = m * den / den := roundDiv_eq_div_iff.mpr (.inl (by simpa using hden))
  rw [hquotient, Nat.mul_div_cancel m hden]

theorem roundDiv_le {num den k : Nat} (h : num < k * den) : roundDiv num den ≤ k := by
  have hquotient : num / den < k := Nat.div_lt_of_lt_mul (Nat.mul_comm k den ▸ h)
  have hround : roundDiv num den ≤ num / den + 1 := by
    unfold roundDiv
    dsimp only
    split_ifs <;> omega
  omega

theorem le_roundDiv {num den k : Nat} (hden : 0 < den) (h : k * den ≤ num) : k ≤ roundDiv num den :=
  ((Nat.le_div_iff_mul_le hden).mpr h).trans (div_le_roundDiv num den)

/-- The integer nearest to a quotient. -/
def halfEven (q : ℚ) : Nat := roundDiv q.num.natAbs q.den

theorem roundDiv_eq (num : Nat) {den : Nat} (hden : 0 < den) : roundDiv num den = halfEven (num / den) := by
  have hne : (den : ℚ) ≠ 0 := Nat.cast_ne_zero.mpr hden.ne'
  have hnonneg : 0 ≤ ((num : ℚ) / den).num := Rat.num_nonneg.mpr (by positivity)
  refine roundDiv_congr hden (Rat.den_pos _) ?_
  have hnum : ((((num : ℚ) / den).num.natAbs : Int) : ℚ) = num / den * ((num : ℚ) / den).den := by
    rw [Int.natAbs_of_nonneg hnonneg, Rat.mul_den_eq_num]
  have hcross : (num : ℚ) * ((num : ℚ) / den).den = ((num : ℚ) / den).num.natAbs * den := by
    rw [← Int.cast_natCast (((num : ℚ) / den).num.natAbs), hnum]
    field_simp
  exact_mod_cast hcross

theorem halfEven_natCast (m : Nat) : halfEven m = m := by
  have hround := roundDiv_eq m Nat.one_pos
  have hself := roundDiv_mul_self m Nat.one_pos
  rw [Nat.cast_one, div_one] at hround
  rw [Nat.mul_one] at hself
  rw [← hround, hself]

theorem natAbs_num_div_den {q : ℚ} (hq : 0 ≤ q) : (q.num.natAbs : ℚ) / q.den = q := by
  rw [← Int.cast_natCast, Int.natAbs_of_nonneg (Rat.num_nonneg.mpr hq), Rat.num_div_den]

theorem halfEven_le {q : ℚ} {k : Nat} (hq : 0 ≤ q) (h : q < k) : halfEven q ≤ k := by
  have hden : (0 : ℚ) < q.den := by exact_mod_cast q.den_pos
  rw [← natAbs_num_div_den hq, div_lt_iff₀ hden] at h
  exact roundDiv_le (by exact_mod_cast h)

theorem le_halfEven {q : ℚ} {k : Nat} (hq : 0 ≤ q) (h : (k : ℚ) ≤ q) : k ≤ halfEven q := by
  have hden : (0 : ℚ) < q.den := by exact_mod_cast q.den_pos
  rw [← natAbs_num_div_den hq, le_div_iff₀ hden] at h
  exact le_roundDiv q.den_pos (by exact_mod_cast h)

/-! ### Places -/

theorem lt_two_zpow_iff {q : ℚ} (hq : 0 < q) {k : Int} : q < 2 ^ k ↔ Int.log 2 q < k := by
  have hiff := Int.lt_zpow_iff_log_lt (b := 2) (x := k) (by decide) hq
  rwa [Nat.cast_ofNat] at hiff

theorem two_zpow_le_iff {q : ℚ} (hq : 0 < q) {k : Int} : 2 ^ k ≤ q ↔ k ≤ Int.log 2 q := by
  have hiff := Int.zpow_le_iff_le_log (b := 2) (x := k) (by decide) hq
  rwa [Nat.cast_ofNat] at hiff

/-- The place of the last binary digit of a number next to `q`: the 53rd of `q`, but not below 2 ^ -1074. -/
def place (q : ℚ) : Int := max (-1074) (Int.log 2 q - 52)

/-- The number next to `q`. -/
def nearest (negative : Bool) (q : ℚ) : Binary64 :=
  let m := halfEven (q / 2 ^ place q)
  let e := place q
  if m = 2 ^ 53 then if 971 < e + 1 then .infinite negative else .finite negative (2 ^ 52) (e + 1)
  else if 971 < e then .infinite negative else .finite negative m e

theorem scale_pos (num : Nat) {den : Nat} (hden : 0 < den) (e : Int) : 0 < (scale num den e).2 := by
  unfold scale
  split
  · rw [Nat.shiftLeft_eq]
    exact Nat.mul_pos hden (Nat.two_pow_pos _)
  · exact hden

theorem scale_quotient (num : Nat) {den : Nat} (hden : 0 < den) (e : Int) :
    ((scale num den e).1 : ℚ) / (scale num den e).2 = num / den / 2 ^ e := by
  have hne : (den : ℚ) ≠ 0 := Nat.cast_ne_zero.mpr hden.ne'
  unfold scale
  split
  · next he =>
    obtain ⟨n, rfl⟩ := Int.eq_ofNat_of_zero_le he
    rw [Nat.shiftLeft_eq]
    push_cast
    rw [Int.toNat_natCast, zpow_natCast, div_div]
  · next he =>
    obtain ⟨n, rfl⟩ : ∃ n : Nat, e = -(n : Int) := ⟨(-e).toNat, by omega⟩
    rw [Nat.shiftLeft_eq]
    push_cast
    rw [neg_neg, Int.toNat_natCast, zpow_neg, zpow_natCast]
    field_simp

/-- The quotient of two numbers lies between powers of two that their binary lengths tell. -/
theorem log_quotient {num den : Nat} (hnum : 0 < num) (hden : 0 < den) :
    (num.log2 : Int) - den.log2 - 1 ≤ Int.log 2 ((num : ℚ) / den) ∧
      Int.log 2 ((num : ℚ) / den) < (num.log2 : Int) - den.log2 + 1 := by
  have hquotient : (0 : ℚ) < num / den := by positivity
  have htwo : (2 : ℚ) ≠ 0 := by norm_num
  have hpos : (0 : ℚ) < den := by exact_mod_cast hden
  have hnumLow : (2 : ℚ) ^ (num.log2 : Int) ≤ num := by exact_mod_cast Nat.log2_self_le hnum.ne'
  have hnumHigh : (num : ℚ) < 2 ^ ((num.log2 : Int) + 1) := by exact_mod_cast (Nat.lt_log2_self (n := num))
  have hdenLow : (2 : ℚ) ^ (den.log2 : Int) ≤ den := by exact_mod_cast Nat.log2_self_le hden.ne'
  have hdenHigh : (den : ℚ) < 2 ^ ((den.log2 : Int) + 1) := by exact_mod_cast (Nat.lt_log2_self (n := den))
  constructor
  · rw [← two_zpow_le_iff hquotient, le_div_iff₀ hpos]
    calc (2 : ℚ) ^ ((num.log2 : Int) - den.log2 - 1) * den
        ≤ 2 ^ ((num.log2 : Int) - den.log2 - 1) * 2 ^ ((den.log2 : Int) + 1) :=
          mul_le_mul_of_nonneg_left hdenHigh.le (by positivity)
      _ = 2 ^ (num.log2 : Int) := by
          rw [← zpow_add₀ htwo]
          congr 1
          ring
      _ ≤ num := hnumLow
  · rw [← lt_two_zpow_iff hquotient, div_lt_iff₀ hpos]
    calc (num : ℚ) < 2 ^ ((num.log2 : Int) + 1) := hnumHigh
      _ = 2 ^ ((num.log2 : Int) - den.log2 + 1) * 2 ^ (den.log2 : Int) := by
          rw [← zpow_add₀ htwo]
          congr 1
          ring
      _ ≤ 2 ^ ((num.log2 : Int) - den.log2 + 1) * den := mul_le_mul_of_nonneg_left hdenLow (by positivity)

/-- A guess from the binary lengths is one too high exactly if it leaves less than 53 digits before the point. -/
theorem div_scale_lt_iff {num den : Nat} (hnum : 0 < num) (hden : 0 < den) (e : Int) :
    (scale num den e).1 / (scale num den e).2 < 2 ^ 52 ↔ Int.log 2 ((num : ℚ) / den) < 52 + e := by
  have hquotient : (0 : ℚ) < num / den := by positivity
  have hscale := scale_pos num hden e
  have hpos : (0 : ℚ) < (scale num den e).2 := by exact_mod_cast hscale
  have hpower : (0 : ℚ) < 2 ^ e := by positivity
  rw [Nat.div_lt_iff_lt_mul hscale, ← lt_two_zpow_iff hquotient, zpow_add₀ (by norm_num), ← div_lt_iff₀ hpower,
    ← scale_quotient num hden, div_lt_iff₀ hpos]
  norm_cast

/-- A quotient of numbers is sent to the number next to it. -/
theorem ofRatio_eq_nearest (negative : Bool) {num den : Nat} (hnum : 0 < num) (hden : 0 < den) :
    ofRatio negative num den = nearest negative (num / den) := by
  obtain ⟨hlow, hhigh⟩ := log_quotient hnum hden
  have hplace : max (-1074) (if (scale num den ((num.log2 : Int) - den.log2 - 52)).1 /
        (scale num den ((num.log2 : Int) - den.log2 - 52)).2 < 2 ^ 52 then
      (num.log2 : Int) - den.log2 - 52 - 1 else (num.log2 : Int) - den.log2 - 52) = place (num / den) := by
    unfold place
    congr 1
    simp only [div_scale_lt_iff hnum hden]
    split <;> omega
  have hround : roundDiv (scale num den (place (num / den))).1 (scale num den (place (num / den))).2 =
      halfEven (num / den / 2 ^ place (num / den)) := by
    rw [roundDiv_eq _ (scale_pos num hden _), scale_quotient num hden]
  unfold ofRatio nearest
  simp only [if_neg hnum.ne', hplace, hround, Nat.one_shiftLeft]
  split <;> rfl

/-- Fractions of one quotient are sent to one number. -/
theorem ofRatio_congr (negative : Bool) {num den num' den' : Nat} (hnum : 0 < num) (hden : 0 < den)
    (hden' : 0 < den') (h : num * den' = num' * den) : ofRatio negative num den = ofRatio negative num' den' := by
  have hnum' : 0 < num' := Nat.pos_of_mul_pos_right (h ▸ Nat.mul_pos hnum hden')
  have hne : (den : ℚ) ≠ 0 := Nat.cast_ne_zero.mpr hden.ne'
  have hne' : (den' : ℚ) ≠ 0 := Nat.cast_ne_zero.mpr hden'.ne'
  have hquotient : (num : ℚ) / den = num' / den' := by
    rw [div_eq_div_iff hne hne']
    exact_mod_cast h
  rw [ofRatio_eq_nearest negative hnum hden, ofRatio_eq_nearest negative hnum' hden', hquotient]

/-! ### Normal forms -/

/-- A finite number has 53 binary digits, or fewer behind the last place of all. -/
def Normal : Binary64 → Prop
  | .finite _ m e => m < 2 ^ 53 ∧ -1074 ≤ e ∧ e ≤ 971 ∧ (2 ^ 52 ≤ m ∨ e = -1074)
  | _ => True

/-- Before rounding there are 53 digits before the point at most, and as many unless the place is the last of all. -/
theorem place_bounds {q : ℚ} (hq : 0 < q) :
    q / 2 ^ place q < 2 ^ 53 ∧ (2 ^ 52 ≤ q / 2 ^ place q ∨ place q = -1074) := by
  have htwo : (2 : ℚ) ≠ 0 := by norm_num
  have hpower : (0 : ℚ) < 2 ^ place q := by positivity
  have hplace : -1074 ≤ place q ∧ Int.log 2 q - 52 ≤ place q ∧ (place q = -1074 ∨ place q = Int.log 2 q - 52) := by
    unfold place
    omega
  obtain ⟨-, hle, hcases⟩ := hplace
  constructor
  · rw [div_lt_iff₀ hpower, ← zpow_natCast, ← zpow_add₀ htwo, lt_two_zpow_iff hq]
    push_cast
    omega
  · rcases hcases with hlast | hlog
    · exact .inr hlast
    · refine .inl ?_
      rw [le_div_iff₀ hpower, ← zpow_natCast, ← zpow_add₀ htwo, two_zpow_le_iff hq]
      push_cast
      omega

theorem normal_nearest (negative : Bool) {q : ℚ} (hq : 0 < q) : (nearest negative q).Normal := by
  obtain ⟨hhigh, hlow⟩ := place_bounds hq
  have hnonneg : 0 ≤ q / 2 ^ place q := by positivity
  have hle : halfEven (q / 2 ^ place q) ≤ 2 ^ 53 := halfEven_le hnonneg (by exact_mod_cast hhigh)
  have hfull : 2 ^ 52 ≤ halfEven (q / 2 ^ place q) ∨ place q = -1074 :=
    hlow.imp_left fun h => le_halfEven hnonneg (by exact_mod_cast h)
  have hplace : -1074 ≤ place q := le_max_left _ _
  unfold nearest
  dsimp only
  split_ifs
  · trivial
  · exact ⟨by decide, by omega, by omega, .inl le_rfl⟩
  · trivial
  · exact ⟨by omega, hplace, by omega, hfull⟩

theorem normal_ofRatio (negative : Bool) (num : Nat) {den : Nat} (hden : 0 < den) :
    (ofRatio negative num den).Normal := by
  by_cases hnum : num = 0
  · subst hnum
    exact ⟨by decide, by decide, by decide, .inr rfl⟩
  · rw [ofRatio_eq_nearest negative (Nat.pos_of_ne_zero hnum) hden]
    exact normal_nearest negative (by positivity)

theorem normal_ofDecimal (negative : Bool) (digits : Nat) (exponent : Int) :
    (ofDecimal negative digits exponent).Normal := by
  unfold ofDecimal
  dsimp only
  split_ifs
  · exact ⟨by decide, by decide, by decide, .inr rfl⟩
  · trivial
  · exact normal_ofRatio negative _ Nat.one_pos
  · exact normal_ofRatio negative _ (Nat.pow_pos (by decide))

/-- A number in normal form is next to its own value. -/
theorem nearest_self {negative : Bool} {m : Nat} {e : Int} (hm : m ≠ 0) (h : (finite negative m e).Normal) :
    nearest negative (m * 2 ^ e) = .finite negative m e := by
  obtain ⟨hhigh, hlow, hsmall, hfull⟩ := h
  have htwo : (2 : ℚ) ≠ 0 := by norm_num
  have hpower : (0 : ℚ) < 2 ^ e := by positivity
  have hpos : (0 : ℚ) < m * 2 ^ e := by positivity
  have hlog : Int.log 2 ((m : ℚ) * 2 ^ e) < 53 + e := by
    rw [← lt_two_zpow_iff hpos, zpow_add₀ htwo, mul_lt_mul_iff_of_pos_right hpower]
    exact_mod_cast hhigh
  have hlog' : 2 ^ 52 ≤ m → 52 + e ≤ Int.log 2 ((m : ℚ) * 2 ^ e) := by
    intro hm52
    rw [← two_zpow_le_iff hpos, zpow_add₀ htwo, mul_le_mul_iff_of_pos_right hpower]
    exact_mod_cast hm52
  have hplace : place ((m : ℚ) * 2 ^ e) = e := by
    unfold place
    rcases hfull with hm52 | rfl
    · have := hlog' hm52
      omega
    · omega
  unfold nearest
  rw [hplace, mul_div_cancel_right₀ _ hpower.ne', halfEven_natCast]
  dsimp only
  rw [if_neg hhigh.ne, if_neg (by omega)]

end Binary64
end Number
end ShardRouting
