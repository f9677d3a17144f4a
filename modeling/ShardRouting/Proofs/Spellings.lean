import ShardRouting.Proofs.Numerals

/-! Spellings of one integer. An integer stands in a statement as digits or between quotes, and as free text in
    settings and on the command line. What is decided by a value is decided by its residue: its integer view, or the
    checksum of its text. Digits and free text are one value wherever the digits have one. Beyond the words they are a
    floating-point number, whose text is another one than the digits between the quotes. -/

namespace ShardRouting
open Sql Number

/-! ### Residues -/

/-- The checksum of a text. -/
def checksum (s : String) : Nat := (crc32 s.toUTF8.toList).toNat

theorem checksum_lt (s : String) : checksum s < 2 ^ 32 := UInt32.toNat_lt _

namespace ShardValue

/-- What the buckets of a value are residues of: its integer view, else the checksum of its text. -/
def residue (value : ShardValue) : Int :=
  match value.toWord? with
  | some n => n.toInt
  | none => checksum value.display

theorem bucket_eq_residue (value : ShardValue) (shards : Nat) :
    (value.bucket shards : Int) = value.residue % (max 1 shards : Nat) := by
  unfold bucket residue
  cases value.toWord? with
  | some n =>
    have hnonneg := Int.emod_nonneg n.toInt (b := ((max 1 shards : Nat) : Int)) (by omega)
    dsimp only
    omega
  | none => exact Int.natCast_emod _ _

theorem residue_bounds (value : ShardValue) : -2 ^ 63 ≤ value.residue ∧ value.residue < 2 ^ 63 := by
  unfold residue
  cases value.toWord? with
  | some n => exact ⟨n.le_toInt, n.toInt_lt⟩
  | none =>
    have hbound := checksum_lt value.display
    dsimp only
    omega

/-- Two values are in one bucket whatever the number of shards exactly if they have one residue. -/
theorem buckets_alike_iff {v w : ShardValue} :
    (∀ shards < 2 ^ 32, v.bucket shards = w.bucket shards) ↔ v.residue = w.residue := by
  constructor
  · intro halike
    have hdvd : ∀ shards : Nat, 0 < shards → shards < 2 ^ 32 → shards ∣ (v.residue - w.residue).natAbs := by
      intro shards hpos hless
      have hbuckets : (v.bucket shards : Int) = w.bucket shards := by rw [halike shards hless]
      rw [bucket_eq_residue, bucket_eq_residue, Nat.max_eq_right hpos] at hbuckets
      exact Int.natCast_dvd.mp (Int.ModEq.dvd (Eq.symm hbuckets))
    -- the three largest numbers of shards have no common divisors, and their product exceeds all differences
    have htwo := Nat.Coprime.mul_dvd_of_dvd_of_dvd (by decide) (hdvd 4294967295 (by decide) (by decide))
      (hdvd 4294967294 (by decide) (by decide))
    have hthree := Nat.Coprime.mul_dvd_of_dvd_of_dvd (by decide) htwo (hdvd 4294967293 (by decide) (by decide))
    have hv := v.residue_bounds
    have hw := w.residue_bounds
    have hless : (v.residue - w.residue).natAbs < 4294967295 * 4294967294 * 4294967293 := by omega
    have hzero := Nat.eq_zero_of_dvd_of_lt hthree hless
    omega
  · intro hresidue shards _
    have hbuckets : (v.bucket shards : Int) = w.bucket shards := by rw [bucket_eq_residue, bucket_eq_residue, hresidue]
    omega

end ShardValue

/-! ### Numerals -/

namespace Numeral

variable (d : Numeral)

theorem residue_text :
    (ShardValue.text d.text).residue = if d.value < 2 ^ 63 then (d.value : Int) else checksum d.text := by
  have hview : (ShardValue.text d.text).toWord? = word? d.value := by
    rw [ShardValue.toWord?, trimChars_text, readWord_text]
  unfold ShardValue.residue
  rcases d.word?_value with ⟨n, hword, hvalue, hsmall⟩ | ⟨hword, hlarge⟩
  · rw [hview, hword, if_pos hsmall]
    exact hvalue
  · rw [hview, hword, if_neg (Nat.not_lt_of_le hlarge)]
    rfl

theorem residue_ofText :
    (ShardValue.ofText d.text).residue =
      if d.value < 2 ^ 63 then (d.value : Int)
      else if d.nearest.isFinite = false then checksum d.text
      else if d.value ≤ 2 ^ 63 + 1024 then 2 ^ 63 - 1
      else checksum d.nearest.text := by
  have htext := d.residue_text
  rw [ofText_text]
  rcases d.word?_value with ⟨n, hword, hvalue, hsmall⟩ | ⟨hword, hlarge⟩
  · rw [hword, if_pos hsmall]
    exact hvalue
  · have hbeyond := Nat.not_lt_of_le hlarge
    rw [hword, if_neg hbeyond]
    dsimp only
    cases hfinite : d.nearest.isFinite with
    | false =>
      rw [if_neg hbeyond] at htext
      exact htext
    | true =>
      have hview : (ShardValue.float d.nearest).toWord? =
          if d.value ≤ 2 ^ 63 + 1024 then some Int64.maxValue else none := ShardValue.wordOfFloat_whole hlarge
      unfold ShardValue.residue
      rw [if_pos rfl, hview, if_neg (by decide : ¬true = false)]
      by_cases hedge : d.value ≤ 2 ^ 63 + 1024
      · rw [if_pos hedge, if_pos hedge]
        rfl
      · rw [if_neg hedge, if_neg hedge]
        rfl

/-- Digits in a statement are read as the same digits in free text, unless they are too many for a number. -/
theorem readValue_literal (scan : Scan) (params : Params) (long : Bool) :
    readValue scan params (d.literal long) =
      if d.nearest.isFinite = true then .ok (.ofLiteral (.ofText d.text)) else .error (d.literal long) := by
  have hliteral : literalValue? (.number d.text long) =
      if d.nearest.isFinite = true then some (.ofText d.text) else none := by
    rw [literalValue?, numberValue?_text, ofText_text]
    rcases d.word?_value with ⟨n, hword, -, hsmall⟩ | ⟨hword, -⟩
    · have hfinite : d.nearest.isFinite = true := Binary64.isFinite_ofDecimal hsmall
      rw [hword, hfinite]
      rfl
    · rw [hword]
      cases d.nearest.isFinite <;> rfl
  unfold literal
  simp only [readValue, hliteral]
  cases d.nearest.isFinite <;> rfl

end Numeral

/-- Digits and free text are one value wherever the digits are read, and a text in quotes stays what it is. All go to
    one bucket, whatever the number of shards, exactly if the integer is a word, or is too large for a number, or is
    beyond the edge of the words and its number prints a text of the same checksum. -/
theorem spelled_alike_iff (scan : Scan) (params : Params) (d : Numeral) (long : Bool) :
    readValue scan params (d.literal long) =
        (if d.nearest.isFinite = true then .ok (.ofLiteral (.ofText d.text)) else .error (d.literal long)) ∧
      readValue scan params (.literal (.string .single d.text)) = .ok (.ofLiteral (.text d.text)) ∧
      ((∀ shards < 2 ^ 32, (ShardValue.ofText d.text).bucket shards = (ShardValue.text d.text).bucket shards) ↔
        d.value < 2 ^ 63 ∨ d.nearest.isFinite = false ∨
          2 ^ 63 + 1024 < d.value ∧ checksum d.nearest.text = checksum d.text) := by
  refine ⟨d.readValue_literal scan params long, rfl, ?_⟩
  have hchecksum := checksum_lt d.text
  rw [ShardValue.buckets_alike_iff, d.residue_ofText, d.residue_text]
  by_cases hsmall : d.value < 2 ^ 63
  · simp only [if_pos hsmall, true_iff]
    exact .inl hsmall
  · cases d.nearest.isFinite with
    | false => simp only [if_neg hsmall, if_true, true_or, or_true]
    | true =>
      by_cases hedge : d.value ≤ 2 ^ 63 + 1024
      · simp only [if_neg hsmall, Bool.true_eq_false, if_false, if_pos hedge, false_or]
        omega
      · simp only [if_neg hsmall, Bool.true_eq_false, if_false, if_neg hedge, false_or]
        omega

namespace Sample

/-- An integer beyond the words whose number prints the same digits. -/
def plain : Numeral := ⟨"18446744073709552000", List.all_eq_true.mp (by decide), by decide⟩

end Sample

example : 2 ^ 63 + 1024 < Sample.plain.value ∧ Sample.plain.nearest.text = Sample.plain.text := by decide +kernel

namespace Sample

/-- The largest integer of 64 bits without sign. -/
def unsigned : Numeral := ⟨"18446744073709551615", List.all_eq_true.mp (by decide), by decide⟩

end Sample

/-- The largest integer of 64 bits without sign goes to one table of four as digits and to another one in quotes. -/
theorem spellings_part :
    readValue {} .empty (Sample.unsigned.literal false) = .ok (.ofLiteral (.ofText Sample.unsigned.text)) ∧
      readValue {} .empty (.literal (.string .single Sample.unsigned.text)) =
        .ok (.ofLiteral (.text Sample.unsigned.text)) ∧
      (ShardValue.ofText Sample.unsigned.text).bucket 4 = 0 ∧
      (ShardValue.text Sample.unsigned.text).bucket 4 = 2 := by
  refine ⟨?_, rfl, by decide +kernel, by decide +kernel⟩
  rw [Numeral.readValue_literal, if_pos (by decide +kernel)]

end ShardRouting
