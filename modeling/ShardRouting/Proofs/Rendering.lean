import Mathlib.Data.Int.ModEq
import ShardRouting.Proofs.Casing
import ShardRouting.Shard.Rule

/-! Physical names. A template is filled in three passes, and the index comes last, when the names are in their
    places. Whatever the names hold, they leave each mark of the index as it stands, for a mark begins with a brace and
    has no other brace to begin with inside. So the index is written at least once into a template that asks for it,
    and two names that are filled with different indexes differ in their length or in the digits of the first one. -/

namespace ShardRouting
namespace Text

variable {word new other cs rest : List Char}

/-! ### Replacing -/

theorem replaceFrom_drop (word new : List Char) (skip : Nat) (cs : List Char) :
    replaceFrom word new skip cs = replaceChars word new (cs.drop skip) := by
  induction cs generalizing skip with
  | nil => simp [replaceFrom, replaceChars]
  | cons c cs ih =>
    cases skip with
    | zero => rfl
    | succ skip => simp [replaceFrom, ih]

theorem replaceChars_append (hword : word ≠ []) (rest : List Char) :
    replaceChars word new (word ++ rest) = new ++ replaceChars word new rest := by
  obtain ⟨c, body, rfl⟩ := List.exists_cons_of_ne_nil hword
  have hfound : (c :: body).isPrefixOf (c :: (body ++ rest)) = true :=
    List.isPrefixOf_iff_prefix.mpr (List.prefix_append (c :: body) rest)
  rw [List.cons_append, replaceChars, replaceFrom, if_pos ⟨hword, hfound⟩, replaceFrom_drop]
  simp

theorem replaceChars_cons {c : Char} (h : ¬word <+: c :: cs) :
    replaceChars word new (c :: cs) = c :: replaceChars word new cs := by
  have hnot : ¬(word ≠ [] ∧ word.isPrefixOf (c :: cs) = true) :=
    fun hfound => h (List.isPrefixOf_iff_prefix.mp hfound.2)
  rw [replaceChars, replaceFrom, if_neg hnot]
  rfl

/-- The first occurrence is cut out, whatever it is replaced by. -/
theorem replaceChars_first (hword : word ≠ []) (h : word <:+: cs) :
    ∃ before behind, ∀ new, replaceChars word new cs = before ++ (new ++ replaceChars word new behind) := by
  induction cs with
  | nil => exact absurd (List.infix_nil.mp h) hword
  | cons c cs ih =>
    by_cases hhere : word <+: c :: cs
    · obtain ⟨behind, hsplit⟩ := hhere
      refine ⟨[], behind, fun new => ?_⟩
      rw [← hsplit, replaceChars_append hword, List.nil_append]
    · have hlater : word <:+: cs := (List.infix_cons_iff.mp h).resolve_left hhere
      obtain ⟨before, behind, hcut⟩ := ih hlater
      refine ⟨c :: before, behind, fun new => ?_⟩
      rw [replaceChars_cons hhere, hcut, List.cons_append]

/-- What is replaced and how often does not depend on what it is replaced by. -/
theorem length_replaceChars (hword : word ≠ []) (cs : List Char) :
    ∃ kept count, ∀ new, (replaceChars word new cs).length = kept + count * new.length := by
  induction hn : cs.length using Nat.strongRecOn generalizing cs with
  | ind n ih =>
    cases cs with
    | nil => exact ⟨0, 0, fun new => by simp [replaceChars, replaceFrom]⟩
    | cons c cs =>
      by_cases hhere : word <+: c :: cs
      · obtain ⟨behind, hsplit⟩ := hhere
        have hshorter : behind.length < n := by
          have hlength := congrArg List.length hsplit
          have hpos := List.length_pos_iff.mpr hword
          rw [List.length_append] at hlength
          omega
        obtain ⟨kept, count, hlength⟩ := ih behind.length hshorter behind rfl
        refine ⟨kept, count + 1, fun new => ?_⟩
        rw [← hsplit, replaceChars_append hword, List.length_append, hlength, Nat.succ_mul]
        omega
      · have hshorter : cs.length < n := by
          rw [← hn]
          exact Nat.lt_succ_self _
        obtain ⟨kept, count, hlength⟩ := ih cs.length hshorter cs rfl
        refine ⟨kept + 1, count, fun new => ?_⟩
        rw [replaceChars_cons hhere, List.length_cons, hlength]
        omega

/-- A text that holds the word tells what the word was replaced by, as far as characters are told apart. -/
theorem map_eq_of_replaceChars {β : Type} {f : Char → β} {a b : List Char} (hword : word ≠ []) (h : word <:+: cs)
    (heq : (replaceChars word a cs).map f = (replaceChars word b cs).map f) : a.map f = b.map f := by
  obtain ⟨before, behind, hcut⟩ := replaceChars_first hword h
  obtain ⟨kept, count, hlength⟩ := length_replaceChars hword behind
  have hab : a.length = b.length := by
    have hwhole := congrArg List.length heq
    simp only [List.length_map, hcut, List.length_append, hlength] at hwhole
    by_contra hne
    rcases Nat.lt_or_gt_of_ne hne with hlt | hgt
    · have hmul := Nat.mul_le_mul_left count (Nat.le_of_lt hlt)
      omega
    · have hmul := Nat.mul_le_mul_left count (Nat.le_of_lt hgt)
      omega
  rw [hcut, hcut] at heq
  simp only [List.map_append] at heq
  have hbehind := List.append_cancel_left heq
  exact (List.append_inj hbehind (by rw [List.length_map, List.length_map, hab])).1

/-! ### Marks -/

/-- A word that begins with a brace and has no such brace behind it. -/
def IsMark (word : List Char) : Prop := ∃ body, word = '\x7b' :: body ∧ '\x7b' ∉ body

theorem IsMark.ne_nil (h : IsMark word) : word ≠ [] := by
  obtain ⟨body, rfl, -⟩ := h
  exact List.cons_ne_nil _ _

/-- Where no brace begins nothing is replaced. -/
theorem IsMark.replaceChars_plain (h : IsMark word) {plain : List Char} (hplain : '\x7b' ∉ plain)
    (rest : List Char) : replaceChars word new (plain ++ rest) = plain ++ replaceChars word new rest := by
  obtain ⟨body, rfl, -⟩ := h
  induction plain with
  | nil => rfl
  | cons c plain ih =>
    have hne : '\x7b' ≠ c := fun heq => hplain (heq ▸ List.mem_cons_self)
    have hrest : '\x7b' ∉ plain := fun hmem => hplain (List.mem_cons_of_mem c hmem)
    have hnot : ¬ '\x7b' :: body <+: c :: (plain ++ rest) := fun hhere => hne (List.cons_prefix_cons.mp hhere).1
    rw [List.cons_append, replaceChars_cons hnot, ih hrest, List.cons_append]

/-- Two marks that begin at different places do not overlap. -/
theorem IsMark.apart (hword : IsMark word) (hother : IsMark other) {before behind : List Char} (hbefore : before ≠ [])
    (h : word <+: before ++ (other ++ behind)) : word <+: before := by
  rcases List.prefix_or_prefix_of_prefix h (List.prefix_append before _) with hshort | ⟨inside, rfl⟩
  · exact hshort
  · have hinside : inside <+: other ++ behind := (List.prefix_append_right_inj before).mp h
    cases inside with
    | nil => simp
    | cons d inside =>
      exfalso
      -- the second brace of the word would be that of the other
      obtain ⟨body, hbody, hplain⟩ := hword
      obtain ⟨_, rfl, -⟩ := hother
      obtain ⟨rfl, -⟩ := List.cons_prefix_cons.mp hinside
      obtain ⟨c, before, rfl⟩ := List.exists_cons_of_ne_nil hbefore
      obtain ⟨-, rfl⟩ := List.cons.inj hbody
      exact hplain (List.mem_append_right before List.mem_cons_self)

/-- A mark is still there after another mark was replaced. -/
theorem IsMark.survives (hword : IsMark word) (hother : IsMark other) (hne : ¬word <+: other) (hne' : ¬other <+: word)
    (new : List Char) (h : other <:+: cs) : other <:+: replaceChars word new cs := by
  obtain ⟨before, behind, rfl⟩ := h
  rw [List.append_assoc]
  induction hn : before.length using Nat.strongRecOn generalizing before with
  | ind n ih =>
    cases before with
    | nil =>
      obtain ⟨body, rfl, hbody⟩ := hother
      have hnot : ¬word <+: '\x7b' :: (body ++ behind) := fun hhere =>
        (List.prefix_or_prefix_of_prefix hhere (List.prefix_append ('\x7b' :: body) behind)).elim hne hne'
      rw [List.nil_append, List.cons_append, replaceChars_cons hnot, hword.replaceChars_plain hbody]
      exact (List.prefix_append ('\x7b' :: body) _).isInfix
    | cons c before =>
      by_cases hhere : word <+: c :: before ++ (other ++ behind)
      · obtain ⟨between, hbetween⟩ := hword.apart hother (List.cons_ne_nil c before) hhere
        have hshorter : between.length < n := by
          have hpos := List.length_pos_iff.mpr hword.ne_nil
          have hlength := congrArg List.length hbetween
          rw [List.length_append] at hlength
          omega
        rw [← hbetween, List.append_assoc, replaceChars_append hword.ne_nil]
        exact (ih _ hshorter between rfl).trans (List.suffix_append new _).isInfix
      · have hshorter : before.length < n := hn ▸ Nat.lt_succ_self _
        rw [List.cons_append] at hhere ⊢
        rw [replaceChars_cons hhere]
        exact List.infix_cons (ih _ hshorter before rfl)

/-! ### Digits -/

theorem toLower_of_isDigit {c : Char} (h : c.isDigit = true) : c.toLower = c := by
  have hdigit : 48 ≤ c.toNat ∧ c.toNat ≤ 57 := by
    unfold Char.isDigit at h
    simpa [UInt32.le_iff_toNat_le, ← Char.toNat_val] using h
  apply Char.toNat_inj.mp
  rw [toNat_toLower, if_neg (by omega)]

end Text

open Text

/-- Zeros in front do not change the number. -/
theorem Number.ofDigitChars_padded (width n : Nat) : Nat.ofDigitChars 10 (padded width n).toList 0 = n := by
  simp [padded, Nat.ofDigitChars_append]

theorem Number.isDigit_of_mem_padded {width n : Nat} {c : Char} (h : c ∈ (padded width n).toList) :
    c.isDigit = true := by
  unfold padded at h
  rw [String.toList_ofList] at h
  rcases List.mem_append.mp h with hzero | hdigit
  · rw [List.eq_of_mem_replicate hzero]
    rfl
  · exact Nat.isDigit_of_mem_toDigits (by decide) (by decide) hdigit

theorem Number.toLower_padded (width n : Nat) : (padded width n).toList.map Char.toLower = (padded width n).toList := by
  rw [List.map_congr_left fun c hc => toLower_of_isDigit (isDigit_of_mem_padded hc), List.map_id']

theorem Number.padded_inj {width m n : Nat}
    (h : (padded width m).toList.map Char.toLower = (padded width n).toList.map Char.toLower) : m = n := by
  rw [toLower_padded, toLower_padded] at h
  calc m = Nat.ofDigitChars 10 (padded width m).toList 0 := (ofDigitChars_padded width m).symm
    _ = Nat.ofDigitChars 10 (padded width n).toList 0 := by rw [h]
    _ = n := ofDigitChars_padded width n

/-! ### Templates -/

namespace ShardRule

def schemaMark : List Char := "\x7bschema\x7d".toList
def tableMark : List Char := "\x7btable\x7d".toList
def indexMark : List Char := "\x7bindex\x7d".toList

theorem isMark_schemaMark : IsMark schemaMark := ⟨"schema\x7d".toList, rfl, by decide⟩
theorem isMark_tableMark : IsMark tableMark := ⟨"table\x7d".toList, rfl, by decide⟩
theorem isMark_indexMark : IsMark indexMark := ⟨"index\x7d".toList, rfl, by decide⟩

/-- The template asks for the index. -/
def Indexed (format : String) : Prop := indexMark <:+: format.toList

variable (rule : ShardRule)

/-- The names are in their places before the index is written. -/
theorem render_eq (format schema table : String) (index : Nat) :
    (rule.render format schema table index).toList =
      replaceChars indexMark (Number.padded rule.indexWidth index).toList
        (replaceChars tableMark table.toList (replaceChars schemaMark schema.toList format.toList)) := by
  simp only [render, Text.replace, String.toList_ofList]
  rfl

/-- Filled with different indexes a template gives different names, even when the case of letters does not count. -/
theorem render_inj {format : String} (h : Indexed format) {schema table : String} {i j : Nat}
    (hsame : sameAscii (rule.render format schema table i) (rule.render format schema table j) = true) : i = j := by
  have hschema : indexMark <:+: replaceChars schemaMark schema.toList format.toList :=
    isMark_schemaMark.survives isMark_indexMark (by decide) (by decide) _ h
  have htable : indexMark <:+: replaceChars tableMark table.toList
      (replaceChars schemaMark schema.toList format.toList) :=
    isMark_tableMark.survives isMark_indexMark (by decide) (by decide) _ hschema
  have hfilled := sameAscii_iff.mp hsame
  rw [render_eq, render_eq] at hfilled
  exact Number.padded_inj (map_eq_of_replaceChars isMark_indexMark.ne_nil htable hfilled)

/-! ### Destinations -/

/-- Where the shard with an index of a table lies. -/
def place (schema table : String) (index : Nat) : Destination where
  schema :=
    if rule.schemaShards = 1 then schema
    else rule.render rule.schemaFormat schema table (index % rule.schemaShards)
  table := if rule.tableShards = 1 then table else rule.render rule.tableFormat schema table index

/-- The shard of a table that a value decides on. No value counts as index zero. -/
def shardOf (value : Option ShardValue) : Nat :=
  match value with
  | some value => value.bucket rule.tableShards
  | none => 0

variable {rule}

theorem resolve_eq {schema : Option String} {own : String} (h : schema.or rule.schema = some own) (table : String)
    (value : Option ShardValue) :
    rule.resolve schema table value = .ok (rule.place own table (rule.shardOf value)) := by
  unfold resolve
  rw [h]
  rfl

theorem bucket_eq_iff {v w : ShardValue} {m n : Int64} (hv : v.toWord? = some m) (hw : w.toWord? = some n) :
    v.bucket rule.tableShards = w.bucket rule.tableShards ↔ m.toInt ≡ n.toInt [ZMOD rule.tableShards] := by
  have hpos := rule.tableShards_pos
  have hmax : max 1 rule.tableShards = rule.tableShards := by omega
  have hm := Int.emod_nonneg m.toInt (b := (rule.tableShards : Int)) (by omega)
  have hn := Int.emod_nonneg n.toInt (b := (rule.tableShards : Int)) (by omega)
  simp only [ShardValue.bucket, hv, hw, hmax, Int.ModEq]
  omega

/-- Two shards of a table lie in one place only if they are one shard. -/
theorem place_same_iff (h : Indexed rule.tableFormat) (schema table : String) {i j : Nat}
    (hi : i < rule.tableShards) (hj : j < rule.tableShards) :
    (rule.place schema table i).same (rule.place schema table j) = true ↔ i = j := by
  constructor
  · intro hsame
    have htable := (Destination.same_iff.mp hsame).2
    by_cases hone : rule.tableShards = 1
    · omega
    · simp only [place, if_neg hone] at htable
      exact rule.render_inj h htable
  · rintro rfl
    exact Destination.same_refl _

/-- The values of a table with a template that asks for the index share a destination exactly when they share a shard.
    There is always a shard, and integers share it exactly when they are congruent modulo the number of shards. -/
theorem shards_apart (rule : ShardRule) (hindexed : Indexed rule.tableFormat) :
    rule.tableShards ≠ 0 ∧ (∀ v : ShardValue, v.bucket rule.tableShards < rule.tableShards) ∧
      (∀ (v w : ShardValue) (m n : Int64), v.toWord? = some m → w.toWord? = some n →
        (v.bucket rule.tableShards = w.bucket rule.tableShards ↔ m.toInt ≡ n.toInt [ZMOD rule.tableShards])) ∧
      ∀ (schema : Option String) (own table : String) (v w : ShardValue), schema.or rule.schema = some own →
        ∃ d e, rule.resolve schema table (some v) = .ok d ∧ rule.resolve schema table (some w) = .ok e ∧
          (d.same e = true ↔ v.bucket rule.tableShards = w.bucket rule.tableShards) := by
  have hpos := rule.tableShards_pos
  have hbound : ∀ v : ShardValue, v.bucket rule.tableShards < rule.tableShards := fun v => v.bucket_lt hpos
  refine ⟨Nat.ne_of_gt hpos, hbound, fun _ _ _ _ => bucket_eq_iff, fun schema own table v w hschema => ?_⟩
  exact ⟨_, _, resolve_eq hschema table (some v), resolve_eq hschema table (some w),
    place_same_iff hindexed own table (hbound v) (hbound w)⟩

namespace Sample

/-- A table whose template repeats the index, in twelve shards. -/
def repeated : ShardRule :=
  (make (some "app") "events" (some "tenant") 12).withFormats "\x7btable\x7d_\x7bindex\x7d_\x7bindex\x7d"
    "\x7bschema\x7d"

end Sample

/-- A table is named like a mark of the index: its shards 1 and 11 lie apart, the values -1 and 11 together. -/
theorem shards_apart_marked :
    Indexed Sample.repeated.tableFormat ∧ Sample.repeated.schema = some "app" ∧
      Sample.repeated.resolve none "\x7bindex\x7d" (some (.int 11)) = .ok ⟨"app", "11_11_11"⟩ ∧
      Sample.repeated.resolve none "\x7bindex\x7d" (some (.int 1)) = .ok ⟨"app", "1_1_1"⟩ ∧
      (⟨"app", "11_11_11"⟩ : Destination).same ⟨"app", "1_1_1"⟩ = false ∧
      (ShardValue.int (-1)).bucket 12 = (ShardValue.int 11).bucket 12 := by
  have hindexed : Indexed Sample.repeated.tableFormat := ⟨"\x7btable\x7d_".toList, "_\x7bindex\x7d".toList, by decide⟩
  obtain ⟨-, -, hcongruent, hapart⟩ := shards_apart Sample.repeated hindexed
  have hschema : (none : Option String).or Sample.repeated.schema = some "app" := by decide
  have heleven : Sample.repeated.resolve none "\x7bindex\x7d" (some (.int 11)) = .ok ⟨"app", "11_11_11"⟩ := by decide
  have hone : Sample.repeated.resolve none "\x7bindex\x7d" (some (.int 1)) = .ok ⟨"app", "1_1_1"⟩ := by decide
  refine ⟨hindexed, by decide, heleven, hone, ?_, ?_⟩
  · obtain ⟨d, e, hd, he, hsame⟩ := hapart none "app" "\x7bindex\x7d" (.int 11) (.int 1) hschema
    cases heleven.symm.trans hd
    cases hone.symm.trans he
    have hbuckets : (ShardValue.int 11).bucket Sample.repeated.tableShards ≠
        (ShardValue.int 1).bucket Sample.repeated.tableShards := by decide
    exact Bool.eq_false_iff.mpr fun h => hbuckets (hsame.mp h)
  · exact (hcongruent (.int (-1)) (.int 11) (-1) 11 rfl rfl).mpr (by decide)

end ShardRule
end ShardRouting
