import Mathlib.Data.List.TakeWhile
import ShardRouting.Number.Binary64
import ShardRouting.Proofs.Rendering

/-! Texts of decimal digits. Digits alone are read as the integer that they denote, with a sign in front as a word, and
    with a point between them as a floating-point number. Whatever is read as a word is also read as the floating-point
    number nearest to it. -/

namespace ShardRouting

theorem Text.isBlank_of_isDigit {c : Char} (h : c.isDigit = true) : isBlank c = false := by
  have hbounds := Char.isDigit_iff_toNat.mp h
  have hzero : '0'.toNat = 48 := rfl
  have hnine : '9'.toNat = 57 := rfl
  simp only [isBlank, Bool.or_eq_false_iff, Bool.and_eq_false_iff, decide_eq_false_iff_not]
  omega

namespace Number

variable {cs : List Char}

/-! ### Integers -/

theorem digitValue_of_isDigit {c : Char} (h : c.isDigit = true) : digitValue 10 c = some (c.toNat - '0'.toNat) := by
  have hbounds : '0' ≤ c ∧ c ≤ '9' := Char.isDigit_iff_toNat.mp h
  have hless : c.toNat - '0'.toNat < 10 := by
    have hhigh : c.toNat ≤ 57 := hbounds.2
    have hzero : '0'.toNat = 48 := rfl
    omega
  rw [digitValue, if_pos hbounds, if_pos hless]

/-- Letters are worth ten and more. -/
theorem isDigit_of_digitValue {c : Char} {d : Nat} (h : digitValue 10 c = some d) : c.isDigit = true := by
  by_cases hdigit : '0' ≤ c ∧ c ≤ '9'
  · exact Char.isDigit_iff_toNat.mpr hdigit
  · unfold digitValue at h
    simp only [if_neg hdigit] at h
    split_ifs at h <;> omega

theorem readDigitsFrom_digits (h : ∀ c ∈ cs, c.isDigit = true) (acc : Nat) :
    readDigitsFrom 10 acc cs = some (Nat.ofDigitChars 10 cs acc) := by
  induction cs generalizing acc with
  | nil => rfl
  | cons c cs ih =>
    rw [List.forall_mem_cons] at h
    rw [readDigitsFrom, digitValue_of_isDigit h.1, Nat.ofDigitChars_cons, Nat.mul_comm 10 acc]
    exact ih h.2 _

theorem digits_of_readDigitsFrom {acc n : Nat} (h : readDigitsFrom 10 acc cs = some n) :
    ∀ c ∈ cs, c.isDigit = true := by
  induction cs generalizing acc with
  | nil => exact fun c hc => absurd hc List.not_mem_nil
  | cons c cs ih =>
    rw [readDigitsFrom] at h
    cases hvalue : digitValue 10 c with
    | none => simp [hvalue] at h
    | some d =>
      simp only [hvalue] at h
      exact List.forall_mem_cons.mpr ⟨isDigit_of_digitValue hvalue, ih h⟩

/-- Only digits are read, and they are read as the integer that they denote. -/
theorem readDigits_iff {n : Nat} :
    readDigits 10 cs = some n ↔ cs ≠ [] ∧ (∀ c ∈ cs, c.isDigit = true) ∧ Nat.ofDigitChars 10 cs 0 = n := by
  cases cs with
  | nil => simp [readDigits]
  | cons c cs =>
    have hread : readDigits 10 (c :: cs) = readDigitsFrom 10 0 (c :: cs) := rfl
    rw [hread]
    constructor
    · intro h
      have hdigits := digits_of_readDigitsFrom h
      rw [readDigitsFrom_digits hdigits] at h
      exact ⟨List.cons_ne_nil c cs, hdigits, Option.some.inj h⟩
    · rintro ⟨-, hdigits, hvalue⟩
      rw [readDigitsFrom_digits hdigits, hvalue]

theorem readDigits_digits (hne : cs ≠ []) (h : ∀ c ∈ cs, c.isDigit = true) :
    readDigits 10 cs = some (Nat.ofDigitChars 10 cs 0) := readDigits_iff.mpr ⟨hne, h, rfl⟩

/-- What begins with a digit has no sign. -/
theorem readWord_of_isDigit {c : Char} (h : c.isDigit = true) :
    readWord 10 (c :: cs) = (readDigits 10 (c :: cs)).bind fun n => word? n := by
  unfold readWord
  split
  · next heq =>
    rw [(List.cons.inj heq).1] at h
    exact absurd h (by decide)
  · next heq =>
    rw [(List.cons.inj heq).1] at h
    exact absurd h (by decide)
  · rfl

/-! ### Printed integers -/

theorem isDigit_of_mem_toDigits (n : Nat) : ∀ c ∈ Nat.toDigits 10 n, c.isDigit = true :=
  fun _ hc => Nat.isDigit_of_mem_toDigits (by decide) (by decide) hc

theorem exists_head_toDigits (n : Nat) : ∃ c rest, Nat.toDigits 10 n = c :: rest ∧ c.isDigit = true := by
  obtain ⟨c, rest, hdigits⟩ := List.exists_cons_of_ne_nil (Nat.toDigits_ne_nil (n := n) (b := 10))
  exact ⟨c, rest, hdigits, isDigit_of_mem_toDigits n c (hdigits ▸ List.mem_cons_self)⟩

theorem readDigits_toDigits (n : Nat) : readDigits 10 (Nat.toDigits 10 n) = some n :=
  readDigits_iff.mpr ⟨Nat.toDigits_ne_nil, isDigit_of_mem_toDigits n, Nat.ofDigitChars_ten_toDigits⟩

theorem readUnsigned_toDigits {limit n : Nat} (h : n ≤ limit) : readUnsigned limit (Nat.toDigits 10 n) = some n := by
  have hread := readDigits_toDigits n
  unfold readUnsigned
  split
  · next rest hplus =>
    have hdigit := isDigit_of_mem_toDigits n '+' (hplus ▸ List.mem_cons_self)
    exact absurd hdigit (by decide)
  · dsimp only
    rw [hread, Option.bind_some, if_pos h]

/-- Below zero there is a minus sign in front of the digits. -/
theorem toList_toString (i : Int) :
    (toString i).toList = if 0 ≤ i then Nat.toDigits 10 i.toNat else '-' :: Nat.toDigits 10 (-i).toNat := by
  rw [Int.toString_eq_repr, Int.repr_eq_if]
  split
  · exact Nat.toList_repr
  · rw [String.toList_append, Nat.toList_repr]
    rfl

/-- A word is read back from its digits. -/
theorem readWord_toString (w : Int64) : readWord 10 (toString w.toInt).toList = some w := by
  rw [toList_toString]
  split
  · next hnonneg =>
    have hread := readDigits_toDigits w.toInt.toNat
    obtain ⟨c, rest, hdigits, hc⟩ := exists_head_toDigits w.toInt.toNat
    rw [hdigits] at hread ⊢
    rw [readWord_of_isDigit hc, hread, Option.bind_some, word?_eq_some_iff, Int.toNat_of_nonneg hnonneg]
  · next hneg =>
    have hopposite : 0 ≤ -w.toInt := by omega
    rw [readWord, readDigits_toDigits, Option.bind_some, word?_eq_some_iff, Int.toNat_of_nonneg hopposite, Int.neg_neg]

/-! ### Floating-point numbers -/

namespace Binary64

variable {negative : Bool}

theorem readMagnitude_whole (hne : cs ≠ []) (h : ∀ c ∈ cs, c.isDigit = true) :
    readMagnitude negative cs = some (ofDecimal negative (Nat.ofDigitChars 10 cs 0) 0) := by
  have hwhole : cs.takeWhile Char.isDigit = cs := List.takeWhile_eq_self_iff.mpr h
  have hrest : cs.dropWhile Char.isDigit = [] := List.dropWhile_eq_nil_iff.mpr h
  simp [readMagnitude, hwhole, hrest, readDigits_digits hne h, readExponent]

theorem readMagnitude_point {whole fraction : List Char} (hne : whole ≠ []) (hwhole : ∀ c ∈ whole, c.isDigit = true)
    (hfraction : ∀ c ∈ fraction, c.isDigit = true) :
    readMagnitude negative (whole ++ '.' :: fraction) =
      some (ofDecimal negative (Nat.ofDigitChars 10 (whole ++ fraction) 0) (-fraction.length)) := by
  have hbefore : (whole ++ '.' :: fraction).takeWhile Char.isDigit = whole := by
    rw [List.takeWhile_append_of_pos hwhole, List.takeWhile_cons_of_neg (by decide), List.append_nil]
  have hbehind : (whole ++ '.' :: fraction).dropWhile Char.isDigit = '.' :: fraction := by
    rw [List.dropWhile_append_of_pos hwhole, List.dropWhile_cons_of_neg (by decide)]
  have hall : fraction.takeWhile Char.isDigit = fraction := List.takeWhile_eq_self_iff.mpr hfraction
  have hnone : fraction.dropWhile Char.isDigit = [] := List.dropWhile_eq_nil_iff.mpr hfraction
  have hread : readDigits 10 (whole ++ fraction) = some (Nat.ofDigitChars 10 (whole ++ fraction) 0) :=
    readDigits_digits (by simp [hne]) (List.forall_mem_append.mpr ⟨hwhole, hfraction⟩)
  simp [readMagnitude, hbefore, hbehind, hall, hnone, hread, readExponent]

/-- What begins with a digit is none of the words for what is no number. -/
theorem read_of_isDigit {c : Char} (h : c.isDigit = true) :
    read (c :: cs) = readMagnitude false (c :: cs) ∧ read ('-' :: c :: cs) = readMagnitude true (c :: cs) ∧
      read ('+' :: c :: cs) = readMagnitude false (c :: cs) := by
  have hword : ∀ word : List Char, word.head?.any Char.isDigit = false → (c :: cs).map Char.toLower ≠ word := by
    rintro word hword rfl
    rw [List.map_cons, Text.toLower_of_isDigit h] at hword
    simp [h] at hword
  have hnumber : ∀ negative, (if (c :: cs).map Char.toLower = "inf".toList ∨
        (c :: cs).map Char.toLower = "infinity".toList then some (.infinite negative)
      else if (c :: cs).map Char.toLower = "nan".toList then some .nan else readMagnitude negative (c :: cs)) =
      readMagnitude negative (c :: cs) := by
    intro negative
    rw [if_neg (not_or.mpr ⟨hword _ (by decide), hword _ (by decide)⟩), if_neg (hword _ (by decide))]
  refine ⟨?_, hnumber true, hnumber false⟩
  rw [read]
  · exact hnumber false
  · rintro rest heq
    rw [(List.cons.inj heq).1] at h
    exact absurd h (by decide)
  · rintro rest heq
    rw [(List.cons.inj heq).1] at h
    exact absurd h (by decide)

/-- A text that begins with a digit and is worth `digits * 10 ^ exponent`. -/
def Denotes (cs : List Char) (digits : Nat) (exponent : Int) : Prop :=
  (∃ c rest, cs = c :: rest ∧ c.isDigit = true) ∧
    ∀ negative, readMagnitude negative cs = some (ofDecimal negative digits exponent)

theorem Denotes.read {digits : Nat} {exponent : Int} (h : Denotes cs digits exponent) :
    read cs = some (ofDecimal false digits exponent) ∧ read ('-' :: cs) = some (ofDecimal true digits exponent) ∧
      read ('+' :: cs) = some (ofDecimal false digits exponent) := by
  obtain ⟨⟨c, rest, rfl, hc⟩, hmagnitude⟩ := h
  obtain ⟨hplain, hminus, hplus⟩ := read_of_isDigit hc
  exact ⟨hplain.trans (hmagnitude false), hminus.trans (hmagnitude true), hplus.trans (hmagnitude false)⟩

theorem exists_digit {cs : List Char} (hne : cs ≠ []) (h : ∀ c ∈ cs, c.isDigit = true) (more : List Char) :
    ∃ c rest, cs ++ more = c :: rest ∧ c.isDigit = true := by
  obtain ⟨c, rest, rfl⟩ := List.exists_cons_of_ne_nil hne
  exact ⟨c, rest ++ more, rfl, h c List.mem_cons_self⟩

theorem denotes_whole (hne : cs ≠ []) (h : ∀ c ∈ cs, c.isDigit = true) : Denotes cs (Nat.ofDigitChars 10 cs 0) 0 := by
  have hhead := exists_digit hne h []
  rw [List.append_nil] at hhead
  exact ⟨hhead, fun _ => readMagnitude_whole hne h⟩

theorem denotes_point {whole fraction : List Char} (hne : whole ≠ []) (hwhole : ∀ c ∈ whole, c.isDigit = true)
    (hfraction : ∀ c ∈ fraction, c.isDigit = true) :
    Denotes (whole ++ '.' :: fraction) (Nat.ofDigitChars 10 (whole ++ fraction) 0) (-fraction.length) :=
  ⟨exists_digit hne hwhole _, fun _ => readMagnitude_point hne hwhole hfraction⟩

theorem denotes_of_readDigits {n : Nat} (h : readDigits 10 cs = some n) : Denotes cs n 0 := by
  obtain ⟨hne, hdigits, rfl⟩ := readDigits_iff.mp h
  exact denotes_whole hne hdigits

/-- A word is also the floating-point number nearest to it. -/
theorem read_of_readWord {n : Int64} (h : readWord 10 cs = some n) :
    ∃ (negative : Bool) (m : Nat), read cs = some (ofDecimal negative m 0) ∧
      n.toInt = if negative then -(m : Int) else m := by
  unfold readWord at h
  split at h
  · next rest =>
    obtain ⟨m, hread, hword⟩ := Option.bind_eq_some_iff.mp h
    exact ⟨true, m, (denotes_of_readDigits hread).read.2.1, word?_eq_some_iff.mp hword⟩
  · next rest =>
    obtain ⟨m, hread, hword⟩ := Option.bind_eq_some_iff.mp h
    exact ⟨false, m, (denotes_of_readDigits hread).read.2.2, word?_eq_some_iff.mp hword⟩
  · obtain ⟨m, hread, hword⟩ := Option.bind_eq_some_iff.mp h
    exact ⟨false, m, (denotes_of_readDigits hread).read.1, word?_eq_some_iff.mp hword⟩

end Binary64

end Number
end ShardRouting
