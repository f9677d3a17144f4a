import ShardRouting.Number.Shortest
import ShardRouting.Proofs.Digits
import ShardRouting.Proofs.Nearest

/-! Plain texts of floating-point numbers are read back. Digits that are tried are only kept if they read back, and all
    digits of a number do anyhow. Zeros at the end of the digits are worth as much in the exponent, and the text is read
    as its digits and exponent wherever it has its point. -/

namespace ShardRouting
namespace Number

/-! ### Decimals -/

theorem toDigits_mul_pow {n : Nat} (hn : n ≠ 0) (k : Nat) :
    Nat.toDigits 10 (n * 10 ^ k) = Nat.toDigits 10 n ++ List.replicate k '0' := by
  induction k with
  | zero => simp
  | succ k ih =>
    have hpos : 0 < n * 10 ^ k := Nat.mul_pos (Nat.pos_of_ne_zero hn) (Nat.pow_pos (by decide))
    have hlast := Nat.toDigits_append_toDigits (b := 10) (d := 0) (by decide) hpos (by decide)
    have hten : 10 * (n * 10 ^ k) + 0 = n * 10 ^ (k + 1) := by ring
    rw [hten, ih] at hlast
    rw [← hlast, List.append_assoc, List.replicate_succ']
    rfl

namespace Binary64

theorem ofRatio_true (num den : Nat) : ofRatio true num den = (ofRatio false num den).neg := by
  unfold ofRatio
  dsimp only
  split_ifs <;> rfl

theorem ofDecimal_true (digits : Nat) (exponent : Int) :
    ofDecimal true digits exponent = (ofDecimal false digits exponent).neg := by
  unfold ofDecimal
  dsimp only
  rw [ofRatio_true, ofRatio_true]
  split_ifs <;> rfl

/-- What a decimal is next to, within 400 places of the point. -/
theorem ofDecimal_eq (negative : Bool) {digits : Nat} (hdigits : digits ≠ 0) (exponent : Int) :
    ofDecimal negative digits exponent =
      if ((Nat.toDigits 10 digits).length : Int) + exponent < -400 then zero negative
      else if 400 < ((Nat.toDigits 10 digits).length : Int) + exponent then .infinite negative
      else ofRatio negative (digits * 10 ^ exponent.toNat) (10 ^ (-exponent).toNat) := by
  unfold ofDecimal
  simp only [hdigits, false_or, Nat.pow_eq]
  by_cases he : 0 ≤ exponent
  · rw [if_pos he, Int.toNat_of_nonpos (by omega : -exponent ≤ 0), pow_zero]
  · rw [if_neg he, Int.toNat_of_nonpos (by omega : exponent ≤ 0), pow_zero, Nat.mul_one]

/-- Zeros at the end of the digits are worth as much in the exponent. -/
theorem ofDecimal_mul_pow (negative : Bool) {digits : Nat} (hdigits : digits ≠ 0) (k : Nat) (exponent : Int) :
    ofDecimal negative (digits * 10 ^ k) exponent = ofDecimal negative digits (exponent + k) := by
  have hpow : ∀ j : Nat, 0 < 10 ^ j := fun j => Nat.pow_pos (by decide)
  have hdigits' : digits * 10 ^ k ≠ 0 := Nat.mul_ne_zero hdigits (hpow k).ne'
  have hplaces : ((Nat.toDigits 10 (digits * 10 ^ k)).length : Int) + exponent =
      (Nat.toDigits 10 digits).length + (exponent + k) := by
    rw [toDigits_mul_pow hdigits, List.length_append, List.length_replicate]
    omega
  have hratio : ofRatio negative (digits * 10 ^ k * 10 ^ exponent.toNat) (10 ^ (-exponent).toNat) =
      ofRatio negative (digits * 10 ^ (exponent + k).toNat) (10 ^ (-(exponent + k)).toNat) := by
    refine ofRatio_congr negative (Nat.mul_pos (Nat.pos_of_ne_zero hdigits') (hpow _)) (hpow _) (hpow _) ?_
    have hexponents : k + exponent.toNat + (-(exponent + k)).toNat = (exponent + k).toNat + (-exponent).toNat := by
      omega
    calc digits * 10 ^ k * 10 ^ exponent.toNat * 10 ^ (-(exponent + k)).toNat
        = digits * 10 ^ (k + exponent.toNat + (-(exponent + k)).toNat) := by rw [pow_add, pow_add]; ring
      _ = digits * 10 ^ (exponent + k).toNat * 10 ^ (-exponent).toNat := by rw [hexponents, pow_add]; ring
  rw [ofDecimal_eq negative hdigits', ofDecimal_eq negative hdigits, hplaces, hratio]

end Binary64

/-! ### Shortest digits -/

namespace Decimal
open Binary64

variable {m : Nat} {e : Int} {d : Decimal}

/-- A decimal reads back as `m * 2 ^ e`. -/
def Back (m : Nat) (e : Int) (d : Decimal) : Prop := ofDecimal false d.digits d.exponent = .finite false m e

theorem Back.digits_ne_zero (h : Back m e d) (hm : m ≠ 0) : d.digits ≠ 0 := by
  intro hzero
  rw [Back, hzero] at h
  have hfinite : Binary64.zero false = .finite false m e := h
  cases hfinite
  exact hm rfl

theorem back_of_candidate {tie : Tie} {place : Int} (h : candidate tie m e place = some d) : Back m e d := by
  unfold candidate at h
  unfold Back
  dsimp only at h
  split at h
  · next hbelow habove =>
    cases h
    split
    · exact of_decide_eq_true hbelow
    · exact of_decide_eq_true habove
  · next hbelow _ =>
    cases h
    exact of_decide_eq_true hbelow
  · next _ habove =>
    cases h
    exact of_decide_eq_true habove
  · cases h

/-- Zeros at the end are moved into the exponent one by one. -/
theorem Back.normalize (h : Back m e d) (fuel : Nat) : Back m e (d.normalize fuel) := by
  induction fuel generalizing d with
  | zero => exact h
  | succ fuel ih =>
    rw [Decimal.normalize]
    split
    · next hzero =>
      obtain ⟨k, hk⟩ : ∃ k, d.digits = k * 10 ^ 1 := ⟨d.digits / 10, by omega⟩
      have hne : k ≠ 0 := by
        rintro rfl
        exact hzero.1 (by simpa using hk)
      refine ih ?_
      have hquotient : d.digits / 10 = k := by omega
      rw [Back, hk, ofDecimal_mul_pow false hne] at h
      rw [hquotient]
      exact h
    · exact h

theorem exact_cases (m : Nat) (e : Int) :
    (∃ k : Nat, e = k ∧ exact m e = ⟨m * 2 ^ k, 0⟩) ∨ ∃ k : Nat, e = -k ∧ exact m e = ⟨m * 5 ^ k, -k⟩ := by
  by_cases he : 0 ≤ e
  · obtain ⟨k, rfl⟩ := Int.eq_ofNat_of_zero_le he
    exact .inl ⟨k, rfl, by simp [exact, Nat.shiftLeft_eq]⟩
  · obtain ⟨k, rfl⟩ : ∃ k : Nat, e = -(k : Int) := ⟨(-e).toNat, by omega⟩
    exact .inr ⟨k, rfl, by rw [exact, if_neg he, neg_neg, Int.toNat_natCast, Nat.pow_eq]⟩

theorem exact_digits_ne_zero (hm : m ≠ 0) : (exact m e).digits ≠ 0 := by
  rcases exact_cases m e with ⟨k, -, hexact⟩ | ⟨k, -, hexact⟩
  · rw [hexact]
    exact Nat.mul_ne_zero hm (Nat.two_pow_pos k).ne'
  · rw [hexact]
    exact Nat.mul_ne_zero hm (Nat.pow_pos (by decide)).ne'

theorem exact_exponent_nonpos : (exact m e).exponent ≤ 0 := by
  rcases exact_cases m e with ⟨k, -, hexact⟩ | ⟨k, -, hexact⟩
  · rw [hexact]
  · rw [hexact]
    dsimp only
    omega

section Places

-- The last binary place of a number is 2 ^ -1074, and its first one is before 2 ^ 1024.
variable {places : Nat} (hplaces : 2 ^ 1074 ≤ 10 ^ places)
include hplaces

theorem exact_digits_lt (h : (Binary64.finite false m e).Normal) :
    (exact m e).digits < 10 ^ (places + (-(exact m e).exponent).toNat) := by
  obtain ⟨hsignificand, -, hhigh, -⟩ := h
  rcases exact_cases m e with ⟨k, rfl, hexact⟩ | ⟨k, rfl, hexact⟩
  · rw [hexact, neg_zero, Int.toNat_zero, Nat.add_zero]
    calc m * 2 ^ k < 2 ^ 53 * 2 ^ k := Nat.mul_lt_mul_of_pos_right hsignificand (Nat.two_pow_pos k)
      _ = 2 ^ (53 + k) := (pow_add 2 53 k).symm
      _ ≤ 10 ^ places := (Nat.pow_le_pow_right (by decide) (by omega)).trans hplaces
  · have hsignificand' : 2 ^ 53 ≤ 10 ^ places := (Nat.pow_le_pow_right (by decide) (by decide)).trans hplaces
    rw [hexact, neg_neg, Int.toNat_natCast]
    calc m * 5 ^ k < 2 ^ 53 * 5 ^ k := Nat.mul_lt_mul_of_pos_right hsignificand (Nat.pow_pos (by decide))
      _ ≤ 10 ^ places * 10 ^ k := Nat.mul_le_mul hsignificand' (Nat.pow_le_pow_left (by decide) k)
      _ = 10 ^ (places + k) := (pow_add 10 places k).symm

theorem le_exact_digits (hm : m ≠ 0) (h : (Binary64.finite false m e).Normal) :
    10 ^ (-(exact m e).exponent).toNat ≤ (exact m e).digits * 10 ^ places := by
  have hpos : 1 ≤ m := Nat.one_le_iff_ne_zero.mpr hm
  obtain ⟨-, hlow, -, -⟩ := h
  rcases exact_cases m e with ⟨k, rfl, hexact⟩ | ⟨k, rfl, hexact⟩
  · rw [hexact]
    exact Nat.mul_pos (Nat.mul_pos hpos (Nat.two_pow_pos k)) (Nat.pow_pos (by decide))
  · have hbinary : 2 ^ k ≤ 10 ^ places := (Nat.pow_le_pow_right (by decide) (by omega)).trans hplaces
    rw [hexact, neg_neg, Int.toNat_natCast]
    calc 10 ^ k = 1 * 5 ^ k * 2 ^ k := by rw [one_mul]; exact Nat.mul_pow 5 2 k
      _ ≤ m * 5 ^ k * 10 ^ places := Nat.mul_le_mul (Nat.mul_le_mul_right _ hpos) hbinary

/-- The digits of a number are no more than so many places away from the point. -/
theorem exact_places (hm : m ≠ 0) (h : (Binary64.finite false m e).Normal) :
    -(places : Int) ≤ (Nat.toDigits 10 (exact m e).digits).length + (exact m e).exponent ∧
      (Nat.toDigits 10 (exact m e).digits).length + (exact m e).exponent ≤ places := by
  have hpositive : 0 < places := Nat.pos_of_ne_zero (by rintro rfl; exact absurd hplaces (by decide +kernel))
  have hexponent := exact_exponent_nonpos (m := m) (e := e)
  have hhigh := (Nat.length_toDigits_le_iff (by decide) (by omega)).mpr (exact_digits_lt hplaces h)
  have hdigits : (exact m e).digits < 10 ^ (Nat.toDigits 10 (exact m e).digits).length :=
    (Nat.length_toDigits_le_iff (by decide) Nat.length_toDigits_pos).mp le_rfl
  have hpower : 10 ^ (-(exact m e).exponent).toNat < 10 ^ ((Nat.toDigits 10 (exact m e).digits).length + places) := by
    rw [pow_add]
    exact (le_exact_digits hplaces hm h).trans_lt (Nat.mul_lt_mul_of_pos_right hdigits (Nat.pow_pos (by decide)))
  have hlow := (Nat.pow_lt_pow_iff_right (by decide)).mp hpower
  omega

end Places

theorem exact_quotient (m : Nat) (e : Int) :
    (((exact m e).digits * 10 ^ (exact m e).exponent.toNat : Nat) : ℚ) / (10 ^ (-(exact m e).exponent).toNat : Nat) =
      m * 2 ^ e := by
  rcases exact_cases m e with ⟨k, rfl, hexact⟩ | ⟨k, rfl, hexact⟩
  · rw [hexact]
    simp
  · have hten : ((10 : Nat) : ℚ) ^ k = 2 ^ k * 5 ^ k := by
      rw [← mul_pow]
      norm_num
    rw [hexact]
    simp only [neg_neg, Int.toNat_natCast, Int.toNat_neg_natCast, pow_zero, Nat.mul_one, zpow_neg, zpow_natCast]
    push_cast at hten ⊢
    rw [hten]
    field_simp

/-- All digits of a number read back. -/
theorem back_exact (hm : m ≠ 0) (h : (Binary64.finite false m e).Normal) : Back m e (exact m e) := by
  obtain ⟨hlow, hhigh⟩ := exact_places (by decide +kernel : 2 ^ 1074 ≤ 10 ^ 400) hm h
  have hdigits : (exact m e).digits ≠ 0 := exact_digits_ne_zero hm
  have hnum : 0 < (exact m e).digits * 10 ^ (exact m e).exponent.toNat :=
    Nat.mul_pos (Nat.pos_of_ne_zero hdigits) (Nat.pow_pos (by decide))
  rw [Back, ofDecimal_eq false hdigits, if_neg (by omega), if_neg (by omega),
    ofRatio_eq_nearest false hnum (Nat.pow_pos (by decide)), exact_quotient, nearest_self hm h]

/-- So do the digits that are printed, since candidates are only kept if they read back. -/
theorem back_shortest (tie : Tie) (hm : m ≠ 0) (h : (Binary64.finite false m e).Normal) :
    Back m e (shortest tie m e) := by
  have hgetD : ∀ found : Option Decimal, (∀ d, found = some d → Back m e d) → Back m e (found.getD (exact m e)) := by
    rintro (_ | d) hfound
    · exact back_exact hm h
    · exact hfound d rfl
  refine Back.normalize (hgetD _ fun d hd => ?_) 400
  obtain ⟨n, -, hcandidate⟩ := List.exists_of_findSome?_eq_some hd
  exact back_of_candidate hcandidate

end Decimal

/-! ### Layouts -/

section Layouts

open Binary64

variable {n : Nat}

theorem isDigit_of_mem_zeros (k : Nat) : ∀ c ∈ List.replicate k '0', c.isDigit = true := by
  intro c hc
  rw [List.eq_of_mem_replicate hc]
  decide

theorem denotes_zeros (hn : n ≠ 0) (k : Nat) : Denotes (Nat.toDigits 10 n ++ List.replicate k '0') n k := by
  have hdenotes := denotes_whole Nat.toDigits_ne_nil (isDigit_of_mem_toDigits (n * 10 ^ k))
  rw [Nat.ofDigitChars_ten_toDigits, toDigits_mul_pow hn] at hdenotes
  refine ⟨hdenotes.1, fun negative => ?_⟩
  rw [hdenotes.2 negative, ofDecimal_mul_pow negative hn, Int.zero_add]

theorem denotes_among (n : Nat) {k : Nat} (hpos : 0 < k) :
    Denotes ((Nat.toDigits 10 n).take k ++ '.' :: (Nat.toDigits 10 n).drop k) n
      (-((Nat.toDigits 10 n).length - k : Nat)) := by
  have hdigits := isDigit_of_mem_toDigits n
  have hne : (Nat.toDigits 10 n).take k ≠ [] := by
    rw [ne_eq, List.take_eq_nil_iff, not_or]
    exact ⟨hpos.ne', Nat.toDigits_ne_nil⟩
  have hrest : ∀ c ∈ (Nat.toDigits 10 n).drop k, c.isDigit = true := fun c hc => hdigits c (List.mem_of_mem_drop hc)
  have hdenotes := denotes_point hne (fun c hc => hdigits c (List.mem_of_mem_take hc)) hrest
  rwa [List.take_append_drop, Nat.ofDigitChars_ten_toDigits, List.length_drop] at hdenotes

theorem denotes_behind (n k : Nat) :
    Denotes ('0' :: '.' :: List.replicate k '0' ++ Nat.toDigits 10 n) n (-(k + (Nat.toDigits 10 n).length : Nat)) := by
  have hzero : ∀ c ∈ ['0'], c.isDigit = true := List.forall_mem_singleton.mpr (by decide)
  have hdenotes := denotes_point (List.cons_ne_nil '0' []) hzero
    (List.forall_mem_append.mpr ⟨isDigit_of_mem_zeros k, isDigit_of_mem_toDigits n⟩)
  have hvalue : Nat.ofDigitChars 10 (['0'] ++ (List.replicate k '0' ++ Nat.toDigits 10 n)) 0 = n := by
    have hzero : Nat.ofDigitChars 10 ['0'] 0 = 0 := by decide
    rw [Nat.ofDigitChars_append, Nat.ofDigitChars_append, hzero, Nat.ofDigitChars_replicate_zero, Nat.mul_zero,
      Nat.ofDigitChars_ten_toDigits]
  rwa [hvalue, List.length_append, List.length_replicate] at hdenotes

/-- Digits are worth their exponent wherever the point is written. -/
theorem Layout.denotes_positional {layout : Layout} (hwhole : layout.whole = "") (hn : n ≠ 0) (exponent : Int) :
    Denotes (layout.positional (Nat.toDigits 10 n) exponent).toList n exponent := by
  have hlength : 0 < (Nat.toDigits 10 n).length := Nat.length_toDigits_pos
  unfold Layout.positional
  dsimp only
  by_cases hexponent : 0 ≤ exponent
  · have hdenotes := denotes_zeros hn exponent.toNat
    rw [if_pos hexponent, hwhole, String.append_empty, String.toList_ofList]
    rwa [Int.toNat_of_nonneg hexponent] at hdenotes
  · rw [if_neg hexponent]
    by_cases hpoint : 0 < ((Nat.toDigits 10 n).length : Int) + exponent
    · obtain ⟨k, hk⟩ := Int.eq_ofNat_of_zero_le hpoint.le
      have hplaces : -(((Nat.toDigits 10 n).length - k : Nat) : Int) = exponent := by omega
      have hdenotes := denotes_among n (k := k) (by omega)
      rw [hplaces] at hdenotes
      rwa [if_pos hpoint, hk, Int.toNat_natCast, String.toList_ofList]
    · obtain ⟨k, hk⟩ := Int.eq_ofNat_of_zero_le (Int.neg_nonneg_of_nonpos (Int.not_lt.mp hpoint))
      have hplaces : -((k + (Nat.toDigits 10 n).length : Nat) : Int) = exponent := by omega
      have hdenotes := denotes_behind n k
      rw [hplaces] at hdenotes
      rwa [if_neg hpoint, hk, Int.toNat_natCast, String.toList_ofList]

/-- Texts without exponent are written with digits and at most a point. -/
theorem Layout.mem_positional {layout : Layout} (hwhole : layout.whole = "") {exponent : Int} {c : Char}
    (h : c ∈ (layout.positional (Nat.toDigits 10 n) exponent).toList) : c.isDigit = true ∨ c = '.' := by
  have hdigits := isDigit_of_mem_toDigits n
  unfold Layout.positional at h
  dsimp only at h
  split_ifs at h
  · rw [hwhole, String.append_empty, String.toList_ofList, List.mem_append] at h
    exact .inl (h.elim (hdigits c) (isDigit_of_mem_zeros _ c))
  · rw [String.toList_ofList, List.mem_append, List.mem_cons] at h
    rcases h with hc | rfl | hc
    · exact .inl (hdigits c (List.mem_of_mem_take hc))
    · exact .inr rfl
    · exact .inl (hdigits c (List.mem_of_mem_drop hc))
  · rw [String.toList_ofList, List.mem_append, List.mem_cons, List.mem_cons] at h
    rcases h with (rfl | rfl | hc) | hc
    · exact .inl (by decide)
    · exact .inr rfl
    · exact .inl (isDigit_of_mem_zeros _ c hc)
    · exact .inl (hdigits c hc)

end Layouts

namespace Binary64

theorem text_finite (negative : Bool) {m : Nat} (e : Int) (hm : m ≠ 0) :
    (finite negative m e).text = (if negative = true then "-" else "") ++
      plain.positional (Nat.toDigits 10 (Decimal.shortest plain.tie m e).digits)
        (Decimal.shortest plain.tie m e).exponent := by
  have hplain : ∀ d : Decimal, plain.decimal d = plain.positional (Nat.toDigits 10 d.digits) d.exponent := by
    simp [Layout.decimal, plain]
  rw [← hplain]
  exact if_neg hm

/-- The text of a finite number in normal form is read as this number. -/
theorem read_text {x : Binary64} (hfinite : x.isFinite = true) (h : x.Normal) : read x.text.toList = some x := by
  cases x with
  | nan => cases hfinite
  | infinite negative => cases hfinite
  | finite negative m e =>
    by_cases hm : m = 0
    · obtain ⟨-, -, -, hplace⟩ := h
      have he : e = -1074 := by omega
      subst hm he
      cases negative <;> decide
    · have hback := Decimal.back_shortest plain.tie hm h
      have hwhole : plain.whole = "" := rfl
      have hdenotes := Layout.denotes_positional hwhole (hback.digits_ne_zero hm)
        (Decimal.shortest plain.tie m e).exponent
      rw [text_finite negative e hm, String.toList_append]
      cases negative with
      | false => exact hdenotes.read.1.trans (congrArg some hback)
      | true =>
        rw [Decimal.Back] at hback
        refine hdenotes.read.2.1.trans ?_
        rw [ofDecimal_true, hback]
        rfl

theorem mem_text {x : Binary64} (hfinite : x.isFinite = true) {c : Char} (h : c ∈ x.text.toList) :
    c.isDigit = true ∨ c = '.' ∨ c = '-' := by
  cases x with
  | nan => cases hfinite
  | infinite negative => cases hfinite
  | finite negative m e =>
    have hsign : ∀ rest : String, c ∈ ((if negative = true then "-" else "") ++ rest).toList →
        c = '-' ∨ c ∈ rest.toList := by
      intro rest hc
      cases negative with
      | false => simpa using Or.inr hc
      | true => simpa using hc
    by_cases hm : m = 0
    · subst hm
      have hzero : (finite negative 0 e).text = (if negative = true then "-" else "") ++ "0" := by
        simp [text, Layout.finite, plain]
      rw [hzero] at h
      rcases hsign _ h with rfl | hc
      · exact .inr (.inr rfl)
      · obtain rfl := List.mem_singleton.mp hc
        exact .inl (by decide)
    · rw [text_finite negative e hm] at h
      rcases hsign _ h with rfl | hc
      · exact .inr (.inr rfl)
      · exact (Layout.mem_positional rfl hc).imp_right .inl

/-- Whatever is read is in normal form. -/
theorem normal_of_read {cs : List Char} {x : Binary64} (h : read cs = some x) : x.Normal := by
  have hmagnitude : ∀ {negative : Bool} {rest : List Char}, readMagnitude negative rest = some x → x.Normal := by
    intro negative rest hread
    unfold readMagnitude at hread
    dsimp only at hread
    split at hread
    · cases hread
      exact normal_ofDecimal _ _ _
    · cases hread
  unfold read at h
  dsimp only at h
  split_ifs at h
  · cases h
    trivial
  · cases h
    trivial
  · exact hmagnitude h

end Binary64

end Number
end ShardRouting
