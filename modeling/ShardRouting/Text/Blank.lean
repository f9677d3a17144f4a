/-! Blank characters and trimming. Blank means the Unicode property White_Space. -/

namespace ShardRouting
namespace Text

def isBlank (c : Char) : Bool :=
  let n := c.toNat
  (9 ≤ n && n ≤ 13) || n = 0x20 || n = 0x85 || n = 0xA0 || n = 0x1680 || (0x2000 ≤ n && n ≤ 0x200A)
    || n = 0x2028 || n = 0x2029 || n = 0x202F || n = 0x205F || n = 0x3000

theorem isBlank_of_isWhitespace {c : Char} (h : c.isWhitespace = true) : isBlank c = true := by
  simp only [Char.isWhitespace, Bool.or_eq_true, decide_eq_true_eq] at h
  rcases h with ((h | h) | h) | h <;> subst h <;> decide

/-- Leaves out the characters of class `p` at the end. -/
def dropRightWhile (p : Char → Bool) (cs : List Char) : List Char := (cs.reverse.dropWhile p).reverse

/-- Leaves out the characters of class `p` at both ends. -/
def strip (p : Char → Bool) (cs : List Char) : List Char := dropRightWhile p (cs.dropWhile p)

def trimChars (cs : List Char) : List Char := strip isBlank cs

/-- The text without blanks at its ends. -/
def trim (s : String) : String := String.ofList (trimChars s.toList)

/-- No character of the text is visible. -/
def isBlankText (s : String) : Bool := s.toList.all isBlank

theorem strip_of_forall_not {p : Char → Bool} {cs : List Char} (h : ∀ c ∈ cs, p c = false) : strip p cs = cs := by
  have drop : ∀ {l : List Char}, (∀ c ∈ l, p c = false) → l.dropWhile p = l := by
    intro l hl
    cases l with
    | nil => rfl
    | cons c l => simp [hl c (by simp)]
  unfold strip dropRightWhile
  rw [drop h, drop (fun c hc => h c (List.mem_reverse.mp hc)), List.reverse_reverse]

end Text
end ShardRouting
