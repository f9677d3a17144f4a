import ShardRouting.Command.Binding
import ShardRouting.Proofs.Printing
import ShardRouting.Proofs.Spellings
import ShardRouting.Proofs.Trimming

/-! Bindings that are printed and read again. Different keys have different texts, and each key is read back from its
    text. So is each value, as an integer if its text spells one. That is another integer than the one that the value
    stands for only if the value is a number of more binary digits than are kept, whose text ends in zeros. -/

namespace ShardRouting
open Number

/-! ### Keys -/

namespace ParamKey

variable {key : ParamKey}

theorem toList_display_index (n : Nat) : (index n).display.toList = Nat.toDigits 10 n := by simp [display]

theorem toList_display_name (s : String) : (name s).display.toList = ':' :: s.toList := by simp [display]

/-- Positions begin with a digit and names with a colon. -/
theorem display_injective : Function.Injective display := by
  have hapart : ∀ n s, (index n).display ≠ (name s).display := by
    intro n s h
    have hlist := congrArg String.toList h
    rw [toList_display_index, toList_display_name] at hlist
    have hcolon := isDigit_of_mem_toDigits n ':' (hlist ▸ List.mem_cons_self)
    exact absurd hcolon (by decide)
  rintro (n | s) (n' | s') h
  · have hlist := congrArg String.toList h
    rw [toList_display_index, toList_display_index] at hlist
    rw [← Nat.ofDigitChars_ten_toDigits (n := n), hlist, Nat.ofDigitChars_ten_toDigits]
  · exact absurd h (hapart n s')
  · exact absurd h.symm (hapart n' s)
  · have hlist := congrArg String.toList h
    rw [toList_display_name, toList_display_name] at hlist
    rw [String.toList_inj.mp (List.cons.inj hlist).2]

/-- What a key is like that has been read: a name begins with none of the signs and does not end in a blank. -/
inductive Plain : ParamKey → Prop
  | index {n : Nat} (h : n ≤ maxIndex) : Plain (.index n)
  | name {s : String} (hhead : ∀ c ∈ s.toList.head?, isSigil c = false)
    (hlast : ∀ c ∈ s.toList.getLast?, Text.isBlank c = false) : Plain (.name s)

theorem ofText_cases (raw : String) :
    (∃ n ≤ maxIndex, ofText raw = .index n) ∨
      ofText raw = .name (String.ofList ((Text.trimChars raw.toList).dropWhile isSigil)) := by
  have hle : ∀ {cs : List Char} {n : Nat}, readUnsigned maxIndex cs = some n → n ≤ maxIndex := by
    intro cs n h
    obtain ⟨k, -, hk⟩ := Option.bind_eq_some_iff.mp h
    split at hk
    · cases hk
      assumption
    · cases hk
  unfold ofText
  dsimp only
  split
  · next n hread => exact .inl ⟨n, hle hread, rfl⟩
  · split
    · next n hread =>
      split
      · exact .inl ⟨n, hle hread, rfl⟩
      · exact .inr rfl
    · exact .inr rfl

theorem plain_ofText (raw : String) : (ofText raw).Plain := by
  rcases ofText_cases raw with ⟨n, hn, hkey⟩ | hkey
  · rw [hkey]
    exact .index hn
  · have htrimmed := (Text.strip_eq_self_iff.mp (Text.strip_strip Text.isBlank raw.toList)).2
    obtain ⟨front, hfront⟩ := List.dropWhile_suffix (l := Text.trimChars raw.toList) isSigil
    rw [hkey]
    refine .name (String.toList_ofList ▸ Text.head?_dropWhile _ _) fun c hc => htrimmed c ?_
    rw [Option.mem_def, String.toList_ofList] at hc
    have hlast : (Text.trimChars raw.toList).getLast? = some c := by
      rw [← hfront, List.getLast?_append, hc, Option.some_or]
    exact hlast

/-- Marks in a key are marks in the text that it was read from. -/
theorem mem_of_ofText {raw : String} {c : Char} (h : c ∈ (ofText raw).display.toList) (hdigit : c.isDigit = false)
    (hcolon : c ≠ ':') : c ∈ raw.toList := by
  rcases ofText_cases raw with ⟨n, -, hkey⟩ | hkey
  · rw [hkey, toList_display_index] at h
    rw [isDigit_of_mem_toDigits n c h] at hdigit
    cases hdigit
  · rw [hkey, toList_display_name, String.toList_ofList, List.mem_cons, or_iff_right hcolon] at h
    exact Text.mem_of_mem_strip ((List.dropWhile_suffix isSigil).subset h)

theorem Plain.trimChars_display (h : key.Plain) : Text.trimChars key.display.toList = key.display.toList := by
  cases h with
  | @index n _ =>
    rw [toList_display_index]
    exact Text.strip_of_forall_not fun c hc => Text.isBlank_of_isDigit (isDigit_of_mem_toDigits n c hc)
  | @name s _ hend =>
    have hcolon : ∀ c ∈ some ':', Text.isBlank c = false := by
      rintro c hc
      cases hc
      decide
    rw [toList_display_name]
    refine Text.strip_eq_self_iff.mpr ⟨hcolon, fun c hc => ?_⟩
    cases hlast : s.toList.getLast? with
    | none =>
      rw [Option.mem_def, List.getLast?_cons, hlast] at hc
      exact hcolon c hc
    | some last =>
      rw [Option.mem_def, List.getLast?_cons, hlast] at hc
      cases hc
      exact hend _ hlast

/-- A key is read back from its text. -/
theorem Plain.ofText_display (h : key.Plain) : ofText key.display = key := by
  have htrim := h.trimChars_display
  unfold ofText
  dsimp only
  rw [htrim]
  cases h with
  | index h => rw [toList_display_index, readUnsigned_toDigits h]
  | @name s hhead _ =>
    have hnumber : readUnsigned maxIndex (':' :: s.toList) = none := rfl
    have hname : (':' :: s.toList).dropWhile isSigil = s.toList := by
      rw [List.dropWhile_cons_of_pos (by decide), Text.dropWhile_eq_self_iff.mpr hhead]
    rw [toList_display_name, hnumber, hname, String.ofList_toList]
    dsimp only
    split
    · rfl
    · rfl

theorem isBlankText_display (key : ParamKey) : Text.isBlankText key.display = false := by
  unfold Text.isBlankText
  cases key with
  | index n =>
    obtain ⟨c, rest, hdigits, hc⟩ := exists_head_toDigits n
    rw [toList_display_index, hdigits, List.all_cons, Text.isBlank_of_isDigit hc, Bool.false_and]
  | name s =>
    rw [toList_display_name]
    rfl

end ParamKey

/-! ### Numbers that are read as words -/

namespace Number.Binary64

variable {n : Nat}

/-- Up to 53 binary digits are kept. -/
theorem ofDecimal_exact (negative : Bool) (hn : n ≠ 0) (h : n < 2 ^ 53) :
    ∃ k : Nat, ofDecimal negative n 0 = .finite negative (n * 2 ^ k) (-k) := by
  have hlog : n.log2 < 53 := (Nat.log2_lt hn).mpr h
  obtain ⟨k, hk⟩ : ∃ k, n.log2 + k = 52 := ⟨52 - n.log2, by omega⟩
  have hlow : 2 ^ 52 ≤ n * 2 ^ k := by
    calc 2 ^ 52 = 2 ^ n.log2 * 2 ^ k := by rw [← pow_add, hk]
      _ ≤ n * 2 ^ k := Nat.mul_le_mul_right _ (Nat.log2_self_le hn)
  have hhigh : n * 2 ^ k < 2 ^ 53 := by
    calc n * 2 ^ k < 2 ^ (n.log2 + 1) * 2 ^ k := Nat.mul_lt_mul_of_pos_right Nat.lt_log2_self (Nat.two_pow_pos k)
      _ = 2 ^ 53 := by rw [← pow_add, Nat.add_right_comm, hk]
  have hnormal : (finite negative (n * 2 ^ k) (-k)).Normal := ⟨hhigh, by omega, by omega, .inl hlow⟩
  have hquotient : ((n : ℚ) / (1 : Nat)) = (n * 2 ^ k : Nat) * 2 ^ (-k : Int) := by
    push_cast
    rw [zpow_neg, zpow_natCast]
    field_simp
  have hlength : (Nat.toDigits 10 n).length ≤ 16 :=
    (Nat.length_toDigits_le_iff (by decide) (by decide)).mpr (by omega)
  refine ⟨k, ?_⟩
  rw [ofDecimal_eq negative hn, if_neg (by omega), if_neg (by omega), Int.toNat_zero, neg_zero, Int.toNat_zero,
    pow_zero, Nat.mul_one, ofRatio_eq_nearest negative (Nat.pos_of_ne_zero hn) Nat.one_pos, hquotient,
    nearest_self (Nat.mul_ne_zero hn (Nat.two_pow_pos k).ne') hnormal]

theorem toInt?_of_pow (n k : Nat) : (finite false (n * 2 ^ k) (-k)).toInt? = some (n : Int) := by
  have hpos : 0 < 2 ^ k := Nat.two_pow_pos k
  rcases Nat.eq_zero_or_pos k with rfl | hk
  · simpa using toInt?_finite false n 0
  · have hratio : ratio (n * 2 ^ k) (-k) = (n * 2 ^ k, 2 ^ k) := by
      rw [ratio, if_neg (by omega), neg_neg, Int.toNat_natCast, Nat.one_shiftLeft]
    rw [toInt?, hratio]
    simp [Nat.mul_mod_left, Nat.mul_div_cancel n hpos]

/-- Rounding leaves a number up to the powers of two that it is below. -/
theorem rounded_le {k : Nat} (hn : 2 ^ 52 ≤ n) (h : n < 2 ^ k) : rounded n ≤ 2 ^ k := by
  have hne : n ≠ 0 := by omega
  have hlog : 52 ≤ n.log2 := (Nat.le_log2 hne).mpr hn
  have hk : n.log2 + 1 ≤ k := (Nat.log2_lt hne).mpr h
  have hpower : 2 ^ 53 * 2 ^ (n.log2 - 52) = 2 ^ (n.log2 + 1) := by
    rw [← pow_add]
    congr 1
    omega
  have hround : roundDiv n (2 ^ (n.log2 - 52)) ≤ 2 ^ 53 := roundDiv_le (hpower ▸ Nat.lt_log2_self)
  calc rounded n ≤ 2 ^ 53 * 2 ^ (n.log2 - 52) := Nat.mul_le_mul_right _ hround
    _ = 2 ^ (n.log2 + 1) := hpower
    _ ≤ 2 ^ k := Nat.pow_le_pow_right (by decide) hk

/-- An integer of the size of a word is rounded to one of that size, and stays the same if it has up to 53 digits. -/
theorem toInt?_ofDecimal (h : n ≤ 2 ^ 63) :
    ∃ r : Nat, (ofDecimal false n 0).toInt? = some (r : Int) ∧ r ≤ 2 ^ 63 ∧ (r = n ∨ 2 ^ 53 ≤ r) := by
  by_cases hzero : n = 0
  · subst hzero
    exact ⟨0, by decide, by decide, .inl rfl⟩
  · by_cases hsmall : n < 2 ^ 53
    · obtain ⟨k, hexact⟩ := ofDecimal_exact false hzero hsmall
      rw [hexact, toInt?_of_pow]
      exact ⟨n, rfl, h, .inl rfl⟩
    · rcases ofDecimal_whole (n := n) (by omega) with ⟨hlarge, -⟩ | ⟨m, e, hfinite, hvalue⟩
      · have hlog : n.log2 < 64 := (Nat.log2_lt hzero).mpr (by omega)
        omega
      · have hlow : 2 ^ 53 ≤ rounded n := le_rounded (by omega) (by omega)
        have hhigh : rounded n ≤ 2 ^ 63 := by
          rcases h.lt_or_eq with hless | heq
          · exact rounded_le (by omega) hless
          · exact ((rounded_eq_iff heq.ge).mpr (by omega)).le
        rw [hfinite, toInt?_finite, hvalue]
        exact ⟨rounded n, rfl, hhigh, .inr hlow⟩

/-- A number whose text is read as a word has an integer view: this word, or a number of more than 53 binary digits. -/
theorem toInt?_of_readWord {x : Binary64} (hfinite : x.isFinite = true) (hnormal : x.Normal) {w : Int64}
    (h : readWord 10 x.text.toList = some w) :
    ∃ i, x.toInt? = some i ∧ i.natAbs ≤ 2 ^ 63 ∧ (i = w.toInt ∨ 2 ^ 53 ≤ i.natAbs) := by
  obtain ⟨negative, m, hread, hword⟩ := read_of_readWord h
  rw [read_text hfinite hnormal] at hread
  have hx : x = ofDecimal negative m 0 := Option.some.inj hread
  have hlow := w.le_toInt
  have hhigh := w.toInt_lt
  cases negative with
  | false =>
    rw [if_neg Bool.false_ne_true] at hword
    obtain ⟨r, hr, hle, hcases⟩ := toInt?_ofDecimal (n := m) (by omega)
    exact ⟨r, by rw [hx, hr], by omega, by omega⟩
  | true =>
    rw [if_pos rfl] at hword
    obtain ⟨r, hr, hle, hcases⟩ := toInt?_ofDecimal (n := m) (by omega)
    exact ⟨-r, by rw [hx, ofDecimal_true, toInt?_neg, hr, Option.map_some], by omega, by omega⟩

end Number.Binary64

/-! ### Values -/

namespace ShardValue

variable {raw : String}

/-- If the text of a value spells an integer, the value stands for it. -/
def Legible (value : ShardValue) : Prop := ∀ w, readWord 10 value.display.toList = some w → value.toWord? = some w

/-- A number without fraction, of more binary digits than are kept and up to the size of the words. -/
def Coarse (value : ShardValue) : Prop :=
  ∃ x i, value = .float x ∧ x.toInt? = some i ∧ 2 ^ 53 ≤ i.natAbs ∧ i.natAbs ≤ 2 ^ 63

theorem ofText_cases (raw : String) :
    (∃ w, ofText raw = .int w) ∨ (∃ x, ofText raw = .float x ∧ x.isFinite = true ∧ x.Normal) ∨
      ofText raw = .text raw ∧ readWord 10 (Text.trimChars raw.toList) = none := by
  unfold ofText
  dsimp only
  split
  · next w _ => exact .inl ⟨w, rfl⟩
  · next hword =>
    split
    · next x hread =>
      split
      · next hfinite => exact .inr (.inl ⟨x, rfl, hfinite, Binary64.normal_of_read hread⟩)
      · exact .inr (.inr ⟨rfl, hword⟩)
    · exact .inr (.inr ⟨rfl, hword⟩)

/-- Printed numbers have no blanks. -/
theorem trimChars_display (htrim : Text.trimChars raw.toList = raw.toList) :
    Text.trimChars (ofText raw).display.toList = (ofText raw).display.toList := by
  rcases ofText_cases raw with ⟨w, hvalue⟩ | ⟨x, hvalue, hfinite, -⟩ | ⟨hvalue, -⟩
  · rw [hvalue]
    refine Text.strip_of_forall_not fun c hc => ?_
    rw [display, toList_toString] at hc
    split at hc
    · exact Text.isBlank_of_isDigit (isDigit_of_mem_toDigits _ c hc)
    · rcases List.mem_cons.mp hc with rfl | hc
      · decide
      · exact Text.isBlank_of_isDigit (isDigit_of_mem_toDigits _ c hc)
  · rw [hvalue]
    refine Text.strip_of_forall_not fun c hc => ?_
    rcases Binary64.mem_text hfinite hc with hdigit | rfl | rfl
    · exact Text.isBlank_of_isDigit hdigit
    · decide
    · decide
  · rw [hvalue]
    exact htrim

/-- A value is read back from its text, as an integer if the text spells one. -/
theorem ofText_display (htrim : Text.trimChars raw.toList = raw.toList) :
    ofText (ofText raw).display =
      match readWord 10 (ofText raw).display.toList with
      | some w => .int w
      | none => ofText raw := by
  have htext := trimChars_display htrim
  rcases ofText_cases raw with ⟨w, hvalue⟩ | ⟨x, hvalue, hfinite, hnormal⟩ | ⟨hvalue, hword⟩
  · have hread : readWord 10 (display (.int w)).toList = some w := readWord_toString w
    rw [hvalue] at htext ⊢
    simp only [ofText, htext, hread]
  · have hread : Binary64.read (display (.float x)).toList = some x := Binary64.read_text hfinite hnormal
    rw [hvalue] at htext ⊢
    cases hword : readWord 10 (display (.float x)).toList with
    | none => simp only [ofText, htext, hword, hread, if_pos hfinite]
    | some w => simp only [ofText, htext, hword]
  · rw [htrim] at hword
    have hnone : readWord 10 (display (.text raw)).toList = none := hword
    rw [hvalue, hnone]
    exact hvalue

/-- If the text spells an integer, the value stands for an integer too, and only coarse ones for another. -/
theorem toWord?_of_readWord (htrim : Text.trimChars raw.toList = raw.toList) {w : Int64}
    (h : readWord 10 (ofText raw).display.toList = some w) :
    ∃ w', (ofText raw).toWord? = some w' ∧ (w' = w ∨ (ofText raw).Coarse) := by
  rcases ofText_cases raw with ⟨w', hvalue⟩ | ⟨x, hvalue, hfinite, hnormal⟩ | ⟨hvalue, hword⟩
  · rw [hvalue] at h ⊢
    have hread : readWord 10 (display (.int w')).toList = some w' := readWord_toString w'
    rw [hread] at h
    exact ⟨w', rfl, .inl (Option.some.inj h)⟩
  · rw [hvalue] at h ⊢
    obtain ⟨i, hi, hle, hcases⟩ := Binary64.toInt?_of_readWord hfinite hnormal h
    have hmax : Int64.maxValue.toInt = 2 ^ 63 - 1 := Int64.toInt_maxValue
    have hview : toWord? (.float x) = if i = Int64.maxValue.toInt + 1 then some Int64.maxValue else word? i := by
      rw [toWord?, wordOfFloat, hi, Option.bind_some]
    rcases hcases with rfl | hlarge
    · have hless := w.toInt_lt
      refine ⟨w, ?_, .inl rfl⟩
      rw [hview, if_neg (by omega), word?_eq_some_iff]
    · obtain ⟨w', hw'⟩ : ∃ w', toWord? (.float x) = some w' := by
        rw [hview]
        split
        · exact ⟨_, rfl⟩
        · rw [← Option.ne_none_iff_exists', ne_eq, word?_eq_none_iff]
          omega
      exact ⟨w', hw', .inr ⟨x, i, rfl, hi, hlarge, hle⟩⟩
  · rw [htrim] at hword
    rw [hvalue] at h
    exact absurd (h.symm.trans hword) (by simp)

/-- What is read back has the residue of the value exactly if the value is legible. -/
theorem residue_again_iff (htrim : Text.trimChars raw.toList = raw.toList) :
    (ofText (ofText raw).display).residue = (ofText raw).residue ↔ (ofText raw).Legible := by
  rw [ofText_display htrim]
  cases hword : readWord 10 (ofText raw).display.toList with
  | none => simp [Legible, hword]
  | some w =>
    obtain ⟨w', hview, -⟩ := toWord?_of_readWord htrim hword
    have hresidue : (ofText raw).residue = w'.toInt := by rw [residue, hview]
    have hint : (ShardValue.int w).residue = w.toInt := rfl
    rw [hresidue, hint, Legible]
    simp only [hword, hview, Option.some.injEq, forall_eq']
    exact ⟨fun h => (Int64.toInt_inj.mp h).symm, fun h => by rw [h]⟩

theorem legible_of_not_coarse (htrim : Text.trimChars raw.toList = raw.toList) (h : ¬(ofText raw).Coarse) :
    (ofText raw).Legible := by
  intro w hword
  obtain ⟨w', hview, hcases⟩ := toWord?_of_readWord htrim hword
  rw [hview, hcases.resolve_right h]

end ShardValue

/-! ### Bindings -/

variable {raw : String} {key : ParamKey} {value : ShardValue}

theorem parseBinding_ok (h : parseBinding raw = .ok (key, value)) :
    ∃ front behind, Text.cutAt '=' raw = some (front, behind) ∧ ParamKey.ofText (Text.trim front) = key ∧
      ShardValue.ofText (Text.trim behind) = value := by
  unfold parseBinding at h
  split at h
  · cases h
  · next front behind hcut =>
    split at h
    · cases h
    · obtain ⟨hkey, hvalue⟩ := Prod.mk.inj (Except.ok.inj h)
      exact ⟨front, behind, hcut, hkey, hvalue⟩

theorem parseBinding_display (key : ParamKey) (hmark : '=' ∉ key.display.toList) (s : String) :
    parseBinding (key.display ++ "=" ++ s) = .ok (.ofText (Text.trim key.display), .ofText (Text.trim s)) := by
  have hcut : Text.cutAt '=' (key.display ++ "=" ++ s) = some (key.display, s) := Text.cutAt_append hmark
  unfold parseBinding
  rw [hcut]
  dsimp only
  rw [key.isBlankText_display]
  rfl

/-- Different keys have different texts. A binding that was read is read again from its text, with the same key. The
    value goes to the same bucket, whatever the number of shards, exactly if its text spells no other integer than the
    one that it stands for. Only a number without fraction that has more binary digits than are kept can have a text
    like that. -/
theorem bindings_read_again (h : parseBinding raw = .ok (key, value)) :
    Function.Injective ParamKey.display ∧
      ∃ again, parseBinding (key.display ++ "=" ++ value.display) = .ok (key, again) ∧
        ((∀ shards < 2 ^ 32, again.bucket shards = value.bucket shards) ↔ value.Legible) ∧
        (¬value.Coarse → value.Legible) := by
  refine ⟨ParamKey.display_injective, ?_⟩
  obtain ⟨front, behind, hcut, rfl, rfl⟩ := parseBinding_ok h
  have hplain := ParamKey.plain_ofText (Text.trim front)
  have hmark : '=' ∉ (ParamKey.ofText (Text.trim front)).display.toList := by
    intro hmem
    have htrimmed := ParamKey.mem_of_ofText hmem (by decide) (by decide)
    rw [Text.trim, String.toList_ofList] at htrimmed
    exact Text.mem_of_cutAt hcut (Text.mem_of_mem_strip htrimmed)
  have htrim := Text.trimChars_trim behind
  refine ⟨.ofText (ShardValue.ofText (Text.trim behind)).display, ?_, ?_, ShardValue.legible_of_not_coarse htrim⟩
  · rw [parseBinding_display _ hmark, Text.trim_eq_self hplain.trimChars_display, hplain.ofText_display,
      Text.trim_eq_self (ShardValue.trimChars_display htrim)]
  · rw [ShardValue.buckets_alike_iff]
    exact ShardValue.residue_again_iff htrim

namespace Sample

/-- The number 2.5. -/
def fraction : Binary64 := .finite false (5 * 2 ^ 50) (-51)

/-- The number 100000000000000032. -/
def coarse : Binary64 := .finite false 6250000000000002 4

end Sample

/-- A fraction is read back as it was. -/
theorem bindings_read_again_fraction :
    parseBinding "$2 = 2.50" = .ok (.index 2, .float Sample.fraction) ∧
      ∃ again, parseBinding "2=2.5" = .ok (.index 2, again) ∧
        ∀ shards < 2 ^ 32, again.bucket shards = (ShardValue.float Sample.fraction).bucket shards := by
  have hread : parseBinding "$2 = 2.50" = .ok (.index 2, .float Sample.fraction) := by decide +kernel
  have htext : (ParamKey.index 2).display ++ "=" ++ (ShardValue.float Sample.fraction).display = "2=2.5" := by
    decide +kernel
  obtain ⟨-, again, hagain, halike, hlegible⟩ := bindings_read_again hread
  have hfine : ¬(ShardValue.float Sample.fraction).Coarse := by
    rintro ⟨x, i, hx, hi, -, -⟩
    cases hx
    have hnone : Sample.fraction.toInt? = none := by decide +kernel
    rw [hnone] at hi
    cases hi
  rw [htext] at hagain
  exact ⟨hread, again, hagain, halike.mpr (hlegible hfine)⟩

/-- A number of 57 binary digits is printed with a zero at its end, and read back as the integer that ends so: the
    number goes to one table of four and this integer to another one. -/
theorem number_read_apart :
    parseBinding "1=100000000000000032.0" = .ok (.index 1, .float Sample.coarse) ∧
      (ParamKey.index 1).display ++ "=" ++ (ShardValue.float Sample.coarse).display = "1=100000000000000030" ∧
      parseBinding "1=100000000000000030" = .ok (.index 1, .int 100000000000000030) ∧
      (ShardValue.float Sample.coarse).bucket 4 = 0 ∧ (ShardValue.int 100000000000000030).bucket 4 = 2 ∧
      ¬∀ (raw : String) (key : ParamKey) (value : ShardValue), parseBinding raw = .ok (key, value) →
        ∃ again, parseBinding (key.display ++ "=" ++ value.display) = .ok (key, again) ∧
          ∀ shards < 2 ^ 32, again.bucket shards = value.bucket shards := by
  have hread : parseBinding "1=100000000000000032.0" = .ok (.index 1, .float Sample.coarse) := by decide +kernel
  have htext : (ParamKey.index 1).display ++ "=" ++ (ShardValue.float Sample.coarse).display =
      "1=100000000000000030" := by
    decide +kernel
  have hagain : parseBinding "1=100000000000000030" = .ok (.index 1, .int 100000000000000030) := by decide +kernel
  have hnumber : (ShardValue.float Sample.coarse).bucket 4 = 0 := by decide +kernel
  have hinteger : (ShardValue.int 100000000000000030).bucket 4 = 2 := by decide +kernel
  refine ⟨hread, htext, hagain, hnumber, hinteger, fun hall => ?_⟩
  obtain ⟨again, hprinted, halike⟩ := hall _ _ _ hread
  rw [htext, hagain] at hprinted
  obtain ⟨-, rfl⟩ := Prod.mk.inj (Except.ok.inj hprinted)
  have hbuckets := halike 4 (by decide)
  rw [hnumber, hinteger] at hbuckets
  exact absurd hbuckets (by decide)

end ShardRouting
