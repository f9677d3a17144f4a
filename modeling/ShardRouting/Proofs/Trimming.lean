import Mathlib.Data.List.DropRight
import ShardRouting.Text.Blank
import ShardRouting.Text.Substitute

/-! Trimming and cutting texts. What is stripped of a class of characters has none of them at its ends, and a text
    without them there is left as it is. A text is cut at its first mark, so what is put in front of a mark is cut off
    again unless it has marks of its own. -/

namespace ShardRouting
namespace Text

/-! ### Ends -/

variable {p : Char → Bool} {cs : List Char}

theorem dropWhile_eq_self_iff : cs.dropWhile p = cs ↔ ∀ c ∈ cs.head?, p c = false := by
  cases cs with
  | nil => simp
  | cons c cs => simp [List.dropWhile_eq_self_iff]

theorem dropRightWhile_eq_self_iff : dropRightWhile p cs = cs ↔ ∀ c ∈ cs.getLast?, p c = false := by
  rw [dropRightWhile, List.reverse_eq_iff, dropWhile_eq_self_iff, List.head?_reverse]

theorem head?_dropWhile (p : Char → Bool) (cs : List Char) : ∀ c ∈ (cs.dropWhile p).head?, p c = false :=
  dropWhile_eq_self_iff.mp (List.dropWhile_idempotent _ _)

theorem strip_starts (p : Char → Bool) (cs : List Char) : strip p cs <+: cs.dropWhile p := List.rdropWhile_prefix _ _

/-- Only texts without characters of the class at their ends are left as they are. -/
theorem strip_eq_self_iff :
    strip p cs = cs ↔ (∀ c ∈ cs.head?, p c = false) ∧ ∀ c ∈ cs.getLast?, p c = false := by
  constructor
  · intro h
    have hlast : dropRightWhile p (strip p cs) = strip p cs := List.rdropWhile_idempotent _ _
    have hlength : cs.length ≤ (cs.dropWhile p).length := by
      have hle := (strip_starts p cs).length_le
      rwa [h] at hle
    have hfirst : cs.dropWhile p = cs := (List.dropWhile_suffix p).eq_of_length_le hlength
    rw [h] at hlast
    exact ⟨dropWhile_eq_self_iff.mp hfirst, dropRightWhile_eq_self_iff.mp hlast⟩
  · rintro ⟨hhead, hlast⟩
    rw [strip, dropWhile_eq_self_iff.mpr hhead, dropRightWhile_eq_self_iff.mpr hlast]

theorem strip_strip (p : Char → Bool) (cs : List Char) : strip p (strip p cs) = strip p cs := by
  refine strip_eq_self_iff.mpr ⟨fun c hc => ?_, dropRightWhile_eq_self_iff.mp (List.rdropWhile_idempotent _ _)⟩
  obtain ⟨rest, hrest⟩ := strip_starts p cs
  refine head?_dropWhile p cs c ?_
  rw [Option.mem_def] at hc
  rw [← hrest, List.head?_append, hc, Option.some_or, Option.mem_def]

theorem mem_of_mem_strip {c : Char} (h : c ∈ strip p cs) : c ∈ cs :=
  (List.dropWhile_suffix p).subset ((strip_starts p cs).subset h)

theorem trimChars_trim (s : String) : trimChars (trim s).toList = (trim s).toList := by
  rw [trim, String.toList_ofList]
  exact strip_strip _ _

theorem trim_eq_self {s : String} (h : trimChars s.toList = s.toList) : trim s = s := by
  rw [trim, h, String.ofList_toList]

/-! ### Marks -/

variable {mark : Char} {s before behind : String}

theorem cutAt_append (h : mark ∉ before.toList) :
    cutAt mark (before ++ String.singleton mark ++ behind) = some (before, behind) := by
  have hfront : ∀ c ∈ before.toList, decide (c ≠ mark) = true := by
    rintro c hc
    exact decide_eq_true (ne_of_mem_of_not_mem hc h)
  have hlist : (before ++ String.singleton mark ++ behind).toList = before.toList ++ mark :: behind.toList := by simp
  unfold cutAt
  dsimp only
  rw [hlist, if_pos (by simp), List.takeWhile_append_of_pos hfront, List.dropWhile_append_of_pos hfront,
    List.takeWhile_cons_of_neg (by simp), List.dropWhile_cons_of_neg (by simp)]
  simp

theorem mem_of_cutAt (h : cutAt mark s = some (before, behind)) : mark ∉ before.toList := by
  unfold cutAt at h
  dsimp only at h
  split at h
  · cases h
    intro hmem
    rw [String.toList_ofList] at hmem
    simpa using List.mem_takeWhile_imp hmem
  · cases h

end Text
end ShardRouting
