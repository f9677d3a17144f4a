import ShardRouting.Text.Case

/-! Two ways to compare names. Texts that are equal but for the case of ASCII letters are equal in small letters:
    an ASCII letter is cased in either form and never passed over, so what stands beside it comes out alike. -/

namespace ShardRouting
namespace Text

/-! ### Letters -/

theorem isUpper_iff {c : Char} : c.isUpper = true ↔ 65 ≤ c.toNat ∧ c.toNat ≤ 90 := by
  unfold Char.isUpper
  simp [UInt32.le_iff_toNat_le, ← Char.toNat_val]

theorem isAlpha_iff {c : Char} :
    c.isAlpha = true ↔ 65 ≤ c.toNat ∧ c.toNat ≤ 90 ∨ 97 ≤ c.toNat ∧ c.toNat ≤ 122 := by
  unfold Char.isAlpha Char.isLower
  simp [isUpper_iff, UInt32.le_iff_toNat_le, ← Char.toNat_val]

theorem toNat_toLower (c : Char) :
    c.toLower.toNat = if 65 ≤ c.toNat ∧ c.toNat ≤ 90 then c.toNat + 32 else c.toNat := by
  unfold Char.toLower
  simp only [ge_iff_le, UInt32.le_iff_toNat_le]
  change Char.toNat (if h : 65 ≤ c.toNat ∧ c.toNat ≤ 90 then _ else c) = _
  split
  · rename_i h
    change (c.val + 32).toNat = c.toNat + 32
    rw [UInt32.toNat_add]
    change (c.toNat + 32) % 4294967296 = c.toNat + 32
    omega
  · rfl

/-- Characters with the same small form are equal, or both are ASCII letters. -/
theorem eq_or_isAlpha {c d : Char} (h : c.toLower = d.toLower) : c = d ∨ c.isAlpha = true ∧ d.isAlpha = true := by
  have hnat : c.toLower.toNat = d.toLower.toNat := congrArg Char.toNat h
  rw [toNat_toLower, toNat_toLower] at hnat
  by_cases heq : c = d
  · exact .inl heq
  · have hne : c.toNat ≠ d.toNat := fun hsame => heq (Char.toNat_inj.mp hsame)
    refine .inr ⟨isAlpha_iff.mpr ?_, isAlpha_iff.mpr ?_⟩ <;> split at hnat <;> split at hnat <;> omega

theorem ignorable_of_isAlpha {c : Char} (h : c.isAlpha = true) : ignorableRanges.holds c = false := by
  have houtside : ∀ r ∈ ignorableRanges, r.2 < 65 ∨ (90 < r.1 ∧ r.2 < 97) ∨ 122 < r.1 := by decide +kernel
  cases hholds : ignorableRanges.holds c with
  | false => rfl
  | true =>
    obtain ⟨r, hr, hfirst, hlast⟩ := Ranges.holds_iff.mp hholds
    have hletter := isAlpha_iff.mp h
    have hrange := houtside r hr
    omega

/-! ### Words -/

theorem meetsCased_congr : ∀ {cs ds : List Char}, cs.map Char.toLower = ds.map Char.toLower →
    meetsCased cs = meetsCased ds
  | [], [], _ => rfl
  | c :: cs, d :: ds, h => by
    obtain ⟨hchar, hrest⟩ := List.cons.inj h
    rcases eq_or_isAlpha hchar with rfl | ⟨hc, hd⟩
    · rw [meetsCased, meetsCased, meetsCased_congr hrest]
    · simp [meetsCased, ignorable_of_isAlpha hc, ignorable_of_isAlpha hd, isCased, hc, hd]

theorem lowerChar_of_isAlpha {c : Char} (h : c.isAlpha = true) : lowerChar c = [c.toLower] := by
  have hletter := isAlpha_iff.mp h
  exact if_pos (by omega)

theorem lowerFrom_congr : ∀ {cs ds before before' : List Char}, before.map Char.toLower = before'.map Char.toLower →
    cs.map Char.toLower = ds.map Char.toLower → lowerFrom before cs = lowerFrom before' ds
  | [], [], _, _, _, _ => rfl
  | c :: cs, d :: ds, before, before', hbefore, h => by
    obtain ⟨hchar, hrest⟩ := List.cons.inj h
    have hbehind : (c :: before).map Char.toLower = (d :: before').map Char.toLower := by
      rw [List.map_cons, List.map_cons, hchar, hbefore]
    rw [lowerFrom, lowerFrom, lowerFrom_congr hbehind hrest, meetsCased_congr hbefore, meetsCased_congr hrest]
    rcases eq_or_isAlpha hchar with rfl | ⟨hc, hd⟩
    · rfl
    · -- a letter of either case is no sigma
      have hsigma : ∀ {e : Char}, e.isAlpha = true → e ≠ 'Σ' := by
        rintro _ he rfl
        exact absurd he (by decide)
      simp only [hsigma hc, hsigma hd, false_and, if_false, lowerChar_of_isAlpha hc, lowerChar_of_isAlpha hd, hchar]

theorem all_ascii_congr : ∀ {cs ds : List Char}, cs.map Char.toLower = ds.map Char.toLower →
    (cs.all fun c => decide (c.toNat < 128)) = ds.all fun c => decide (c.toNat < 128)
  | [], [], _ => rfl
  | c :: cs, d :: ds, h => by
    obtain ⟨hchar, hrest⟩ := List.cons.inj h
    rw [List.all_cons, List.all_cons, all_ascii_congr hrest]
    rcases eq_or_isAlpha hchar with rfl | ⟨hc, hd⟩
    · rfl
    · have hletter := isAlpha_iff.mp hc
      have hletter' := isAlpha_iff.mp hd
      rw [decide_eq_true (by omega : c.toNat < 128), decide_eq_true (by omega : d.toNat < 128)]

/-- Texts that differ in the case of ASCII letters only have the same lower case. -/
theorem lower_of_sameAscii {s t : String} (h : sameAscii s t = true) : lower s = lower t := by
  have hlist := sameAscii_iff.mp h
  rw [lower, lower, all_ascii_congr hlist, hlist, lowerFrom_congr rfl hlist]

end Text
end ShardRouting
