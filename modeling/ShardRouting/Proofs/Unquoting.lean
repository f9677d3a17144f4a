import ShardRouting.Proofs.Trimming
import ShardRouting.Routing.Value

/-! Dates and times between quotes. A literal behind the name of its type is printed, and the single quotes at the ends
    of the print are taken away. What is left is the content of the literal only if it stood in single quotes, is printed
    as it is, and has no such quotes at its own ends. -/

namespace ShardRouting

/-! ### Stripping quotes -/

namespace Text

variable {quote : Char} {cs : List Char}

/-- Only texts without quotes at their ends are left as they are. -/
theorem strip_quotes_eq_self_iff :
    strip (· = quote) cs = cs ↔ cs.head? ≠ some quote ∧ cs.getLast? ≠ some quote := by
  have hend : ∀ last : Option Char, (∀ c ∈ last, decide (c = quote) = false) ↔ last ≠ some quote := by
    rintro (_ | c) <;> simp
  rw [strip_eq_self_iff, hend, hend]

/-- A quote more at each end makes no difference. -/
theorem strip_enclosed (quote : Char) (cs : List Char) :
    strip (· = quote) (quote :: (cs ++ [quote])) = strip (· = quote) cs := by
  have hquote : decide (quote = quote) = true := decide_eq_true rfl
  have hfirst (rest : List Char) : (quote :: rest).dropWhile (· = quote) = rest.dropWhile (· = quote) :=
    List.dropWhile_cons_of_pos hquote
  unfold strip
  rw [hfirst, List.dropWhile_append, hfirst, List.dropWhile_nil]
  split
  · next hempty => rw [List.isEmpty_iff.mp hempty]
  · exact List.rdropWhile_concat_pos _ _ _ hquote

end Text

/-! ### Doubling quotes -/

namespace Sql
open Text

variable {quote before : Char} {cs : List Char}

/-- Every quote of a text stands behind a backslash or is one of a pair; `before` is what stands in front of the text. -/
inductive Kept (quote : Char) : Char → List Char → Prop
  | nil {before : Char} : Kept quote before []
  | other {before c : Char} {cs : List Char} (hc : c ≠ quote) (h : Kept quote c cs) : Kept quote before (c :: cs)
  | escaped {cs : List Char} (h : Kept quote '\\' cs) : Kept quote '\\' (quote :: cs)
  | pair {before : Char} {cs : List Char} (hbefore : before ≠ '\\') (h : Kept quote quote cs) :
    Kept quote before (quote :: quote :: cs)

/-- A text is printed as it is exactly if none of its quotes has to be doubled. -/
theorem doubleQuotes_eq_self_iff : doubleQuotes quote before cs = cs ↔ Kept quote before cs := by
  constructor
  · intro h
    fun_induction doubleQuotes quote before cs with
    | case1 => exact .nil
    | case2 before c cs hc ih => exact .other hc (ih (List.cons.inj h).2)
    | case3 c cs hc ih =>
      obtain rfl := not_not.mp hc
      exact .escaped (ih (List.cons.inj h).2)
    | case4 before c => simp at h
    | case5 before c hc hbefore cs ih =>
      obtain rfl := not_not.mp hc
      exact .pair hbefore (ih (List.cons.inj (List.cons.inj h).2).2)
    | case6 before c hc _ next cs hnext =>
      obtain rfl := not_not.mp hc
      exact absurd (List.cons.inj (List.cons.inj h).2).1.symm hnext
  · intro h
    induction h with
    | nil => rfl
    | other hc _ ih =>
      rw [doubleQuotes.eq_def]
      dsimp only
      rw [if_pos hc, ih]
    | escaped _ ih =>
      rw [doubleQuotes.eq_def]
      dsimp only
      rw [if_neg (not_not.mpr rfl), if_pos rfl, ih]
    | pair hbefore _ ih =>
      rw [doubleQuotes.eq_def]
      dsimp only
      rw [if_neg (not_not.mpr rfl), if_neg hbefore, if_pos rfl, ih]

/-- Doubling changes no end of a text. -/
theorem head?_doubleQuotes (quote before : Char) (cs : List Char) : (doubleQuotes quote before cs).head? = cs.head? := by
  fun_cases doubleQuotes quote before cs <;> rfl

theorem getLast?_doubleQuotes (quote before : Char) (cs : List Char) :
    (doubleQuotes quote before cs).getLast? = cs.getLast? := by
  fun_induction doubleQuotes quote before cs with
  | case1 => rfl
  | case2 before c cs _ ih => rw [List.getLast?_cons, List.getLast?_cons, ih]
  | case3 c cs _ ih => rw [List.getLast?_cons, List.getLast?_cons, ih]
  | case4 before c => rfl
  | case5 before c _ _ cs ih => simp only [List.getLast?_cons, ih]
  | case6 before c _ _ next cs _ ih => simp only [List.getLast?_cons, ih, Option.getD_some]

theorem length_le_doubleQuotes (quote before : Char) (cs : List Char) :
    cs.length ≤ (doubleQuotes quote before cs).length := by
  fun_induction doubleQuotes quote before cs with
  | case1 => exact Nat.le_refl _
  | case2 before c cs _ ih => exact Nat.succ_le_succ ih
  | case3 c cs _ ih => exact Nat.succ_le_succ ih
  | case4 before c => simp
  | case5 before c _ _ cs ih => exact Nat.succ_le_succ (Nat.succ_le_succ ih)
  | case6 before c _ _ next cs _ ih => exact Nat.succ_le_succ (Nat.le_succ_of_le ih)

theorem quoted_toList (quote : Char) (content : String) :
    (quoted quote content).toList = quote :: (doubleQuotes quote '\x00' content.toList ++ [quote]) := by
  rw [quoted, String.toList_ofList, List.cons_append]

end Sql
open Sql

/-! ### Dates and times -/

/-- What is left of a text between single quotes is the text itself exactly if it is printed as it is and has no quote at
    its ends. -/
theorem temporalText_single_iff {content : String} :
    temporalText (.string .single content) = content ↔
      Kept '\'' '\x00' content.toList ∧ content.toList.head? ≠ some '\'' ∧ content.toList.getLast? ≠ some '\'' := by
  have hstrip : (temporalText (.string .single content)).toList =
      Text.strip (· = '\'') (doubleQuotes '\'' '\x00' content.toList) := by
    rw [← Text.strip_enclosed, ← quoted_toList]
    exact String.toList_ofList
  rw [← String.toList_inj, hstrip, ← doubleQuotes_eq_self_iff]
  constructor
  · intro h
    have hstripped : Text.strip (· = '\'') content.toList = content.toList := by
      rw [← h]
      exact Text.strip_strip _ _
    obtain ⟨hhead, hlast⟩ := Text.strip_quotes_eq_self_iff.mp hstripped
    rw [Text.strip_quotes_eq_self_iff.mpr ⟨by rwa [head?_doubleQuotes], by rwa [getLast?_doubleQuotes]⟩] at h
    exact ⟨h, hhead, hlast⟩
  · rintro ⟨hkept, hends⟩
    rw [hkept, Text.strip_quotes_eq_self_iff.mpr hends]

/-- Double quotes are not taken away. -/
theorem temporalText_double_ne (content : String) : temporalText (.string .double content) ≠ content := by
  intro h
  have hquoted : (Literal.text (.string .double content)).toList =
      '"' :: (doubleQuotes '"' '\x00' content.toList ++ ['"']) := quoted_toList '"' content
  have hhead : (Literal.text (.string .double content)).toList.head? ≠ some '\'' := by
    rw [hquoted]
    simp
  have hlast : (Literal.text (.string .double content)).toList.getLast? ≠ some '\'' := by
    rw [hquoted]
    simp [List.getLast?_cons]
  have hprint : (temporalText (.string .double content)).toList = (Literal.text (.string .double content)).toList :=
    String.toList_ofList.trans (Text.strip_quotes_eq_self_iff.mpr ⟨hhead, hlast⟩)
  have hlength := length_le_doubleQuotes '"' '\x00' content.toList
  rw [h, hquoted] at hprint
  have hlonger := congrArg List.length hprint
  simp only [List.length_cons, List.length_append, List.length_nil] at hlonger
  omega

/-- Behind the name of a date or time anything is read as its text without single quotes. -/
theorem readValue_moment (scan : Scan) (params : Params) {type : DataType} (htemporal : type.temporal = true)
    (value : Literal) :
    readValue scan params (.typed type value) = .ok (.ofLiteral (.temporal (temporalText value))) := by
  rw [readValue, if_pos htemporal]

/-- A quoted date or time is always read as one. It is read as its content exactly if it stands in single quotes, each of
    its own quotes stands behind a backslash or is one of a pair, and none stands at its ends. -/
theorem moment_read_iff (scan : Scan) (params : Params) {type : DataType} (htemporal : type.temporal = true)
    {style : QuoteStyle} (hstyle : style = .single ∨ style = .double) (content : String) :
    (∃ read, readValue scan params (.typed type (.string style content)) = .ok (.ofLiteral (.temporal read))) ∧
      (readValue scan params (.typed type (.string style content)) = .ok (.ofLiteral (.temporal content)) ↔
        style = .single ∧ Kept '\'' '\x00' content.toList ∧ content.toList.head? ≠ some '\'' ∧
          content.toList.getLast? ≠ some '\'') := by
  have hread := readValue_moment scan params htemporal (.string style content)
  have hsame : readValue scan params (.typed type (.string style content)) = .ok (.ofLiteral (.temporal content)) ↔
      temporalText (.string style content) = content := by
    rw [hread]
    simp [Reading.ofLiteral]
  refine ⟨⟨_, hread⟩, hsame.trans ?_⟩
  rcases hstyle with rfl | rfl
  · rw [temporalText_single_iff]
    simp
  · simp [temporalText_double_ne]

/-- The literal of a day in single quotes is read as that day. -/
theorem moment_read_iff_dated :
    (⟨"DATE", true⟩ : DataType).temporal = true ∧ (QuoteStyle.single = .single ∨ QuoteStyle.single = .double) ∧
      readValue {} .empty (.typed ⟨"DATE", true⟩ (.string .single "2024-01-31")) =
        .ok (.ofLiteral (.temporal "2024-01-31")) := by
  have hdate : (⟨"DATE", true⟩ : DataType).temporal = true := rfl
  have hstyle : QuoteStyle.single = .single ∨ QuoteStyle.single = .double := .inl rfl
  have hkept : Kept '\'' '\x00' "2024-01-31".toList := doubleQuotes_eq_self_iff.mp (by decide +kernel)
  have hread := moment_read_iff {} .empty hdate hstyle "2024-01-31"
  exact ⟨hdate, hstyle, hread.2.mpr ⟨rfl, hkept, by decide +kernel, by decide +kernel⟩⟩

/-- The same day in double quotes is read with them, and goes to another one of four tables than the day. In single
    quotes a single quote of the content is read twice. -/
theorem quotes_stay :
    readValue {} .empty (.typed ⟨"DATE", true⟩ (.string .double "2024-01-31")) =
        .ok (.ofLiteral (.temporal "\"2024-01-31\"")) ∧
      (ShardValue.temporal "\"2024-01-31\"").bucket 4 = 1 ∧ (ShardValue.temporal "2024-01-31").bucket 4 = 3 ∧
      readValue {} .empty (.typed ⟨"TIME", true⟩ (.string .single "9 o'clock")) =
        .ok (.ofLiteral (.temporal "9 o''clock")) := by
  have hdate : temporalText (.string .double "2024-01-31") = "\"2024-01-31\"" := by decide +kernel
  have htime : temporalText (.string .single "9 o'clock") = "9 o''clock" := by decide +kernel
  rw [readValue_moment _ _ rfl, readValue_moment _ _ rfl, hdate, htime]
  exact ⟨rfl, by decide +kernel, by decide +kernel, rfl⟩

end ShardRouting
