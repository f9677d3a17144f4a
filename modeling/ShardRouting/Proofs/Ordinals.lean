import Mathlib.Order.Basic
import ShardRouting.Sql.Token.Read
import ShardRouting.Routing.Value

/-! Bare placeholders have no name, so they are told apart by their places. No two tokens of a text begin at one place,
    so the number of a placeholder is that of the bare placeholders up to it: each of them stands for a parameter of its
    own, and together they stand for the first parameters. -/

namespace ShardRouting
open Sql

namespace Sql

/-! ### Places in a text -/

/-- A place comes before another one in the text. -/
def Position.Before (p q : Position) : Prop := p.line < q.line ∨ p.line = q.line ∧ p.column < q.column

theorem Position.Before.trans {p q r : Position} (hpq : p.Before q) (hqr : q.Before r) : p.Before r := by
  unfold Before at *
  omega

theorem Position.Before.ne {p q : Position} (h : p.Before q) : p ≠ q := by
  rintro rfl
  unfold Before at h
  omega

theorem Position.before_after (p : Position) (c : Char) : p.Before (p.after c) := by
  unfold Before after
  split
  · exact .inl (Nat.lt_succ_self p.line)
  · exact .inr ⟨rfl, Nat.lt_succ_self p.column⟩

theorem Position.before_behind (p : Position) (c : Char) (cs : List Char) :
    p.Before ((c :: cs).foldl Position.after p) := by
  induction cs generalizing p c with
  | nil => exact p.before_after c
  | cons next cs ih => exact (p.before_after c).trans (ih (p.after c) next)

/-- The tokens of a text stand one behind the other, none of them before its beginning. -/
theorem readTokens_before {dialect : Dialect} {start : Position} {cs : List Char} {lexemes : List Lexeme}
    (h : readTokens dialect start cs = some lexemes) :
    (∀ lexeme ∈ lexemes, lexeme.position = start ∨ start.Before lexeme.position) ∧
      (lexemes.map Lexeme.position).Pairwise Position.Before := by
  have hbehind : ∀ (start : Position) (c : Char) (cs rest : List Char), rest.length ≤ cs.length →
      start.Before (((c :: cs).take (cs.length + 1 - rest.length)).foldl Position.after start) := by
    intro start c cs rest hrest
    obtain ⟨n, hn⟩ : ∃ n, cs.length + 1 - rest.length = n + 1 := ⟨cs.length - rest.length, by omega⟩
    rw [hn, List.take_succ_cons]
    exact start.before_behind c _
  fun_induction readTokens dialect start cs generalizing lexemes with
  | case1 start =>
    cases h
    exact ⟨fun _ hmem => absurd hmem List.not_mem_nil, List.Pairwise.nil⟩
  | case2 => cases h
  | case3 start c cs rest hrest behind found token hfound _ =>
    rename_i ih
    cases h
    obtain ⟨hstart, hpairwise⟩ := ih hfound
    have hfirst : ∀ lexeme ∈ found, start.Before lexeme.position := by
      intro lexeme hmem
      have hbefore := hbehind start c cs rest hrest
      rcases hstart lexeme hmem with heq | hafter
      · exact heq ▸ hbefore
      · exact hbefore.trans hafter
    constructor
    · rintro lexeme (_ | ⟨_, hmem⟩)
      · exact .inl rfl
      · exact .inr (hfirst lexeme hmem)
    · exact List.Pairwise.cons (List.forall_mem_map.mpr hfirst) hpairwise
  | case4 start c cs token rest _ hrest behind _ =>
    rename_i ih
    obtain ⟨hstart, hpairwise⟩ := ih h
    refine ⟨fun lexeme hmem => .inr ?_, hpairwise⟩
    have hbefore := hbehind start c cs rest hrest
    rcases hstart lexeme hmem with heq | hafter
    · exact heq ▸ hbefore
    · exact hbefore.trans hafter
  | case5 => cases h

/-- No two tokens of a text begin at one place. -/
theorem tokens?_apart {dialect : Dialect} {text : String} {lexemes : List Lexeme}
    (h : tokens? dialect text = some lexemes) : (lexemes.map Lexeme.position).Nodup :=
  (readTokens_before h).2.imp Position.Before.ne

/-- A placeholder without name or number. -/
def Lexeme.bare (lexeme : Lexeme) : Bool := lexeme.token = .placeholder "?"

namespace Scan

/-! ### Listed places -/

theorem ofLexemes_placeholders (lexemes : List Lexeme) :
    (ofLexemes lexemes).placeholders = (lexemes.filter Lexeme.bare).map (·.position) := rfl

theorem placeholders_nodup {lexemes : List Lexeme} (h : (lexemes.map Lexeme.position).Nodup) :
    (ofLexemes lexemes).placeholders.Nodup :=
  h.sublist (List.filter_sublist.map _)

/-- A place has the number under which it is listed. -/
theorem index?_iff {scan : Scan} (h : scan.placeholders.Nodup) {position : Position} {n : Nat} :
    scan.index? position = some n ↔ ∃ i, scan.placeholders[i]? = some position ∧ i + 1 = n := by
  have hlisted : ∀ i, scan.placeholders.findIdx? (· = position) = some i ↔
      scan.placeholders[i]? = some position := by
    intro i
    rw [List.findIdx?_eq_some_iff_getElem, List.getElem?_eq_some_iff]
    constructor
    · rintro ⟨hi, hposition, -⟩
      exact ⟨hi, of_decide_eq_true hposition⟩
    · rintro ⟨hi, rfl⟩
      refine ⟨hi, decide_eq_true rfl, fun j hj hsame => ?_⟩
      have heq := (List.getElem_inj h).mp (of_decide_eq_true hsame)
      omega
  unfold index?
  rw [Option.map_eq_some_iff]
  exact exists_congr fun i => and_congr_left' (hlisted i)

/-- Among the bare placeholders each stands behind those that stand before it. -/
theorem getElem?_filter_bare {lexemes : List Lexeme} {i : Nat} {lexeme : Lexeme} (h : lexemes[i]? = some lexeme)
    (hbare : lexeme.bare = true) :
    (lexemes.filter Lexeme.bare)[(lexemes.take i).countP Lexeme.bare]? = some lexeme := by
  induction lexemes generalizing i with
  | nil => cases h
  | cons first rest ih =>
    cases i with
    | zero =>
      obtain rfl : first = lexeme := Option.some.inj h
      rw [List.filter_cons_of_pos hbare]
      rfl
    | succ i =>
      have hrest := ih h
      rw [List.take_succ_cons]
      by_cases hfirst : first.bare = true
      · rwa [List.filter_cons_of_pos hfirst, List.countP_cons_of_pos hfirst]
      · rwa [List.filter_cons_of_neg hfirst, List.countP_cons_of_neg hfirst]

end Scan
end Sql

/-! ### Numbers -/

section Numbers
variable {lexemes : List Lexeme} (hplaces : (lexemes.map Lexeme.position).Nodup)
include hplaces

/-- A bare placeholder has the number of the bare placeholders up to it. -/
theorem Sql.Scan.index?_bare {i : Nat} {lexeme : Lexeme} (h : lexemes[i]? = some lexeme) (hbare : lexeme.bare = true) :
    (Scan.ofLexemes lexemes).index? lexeme.position = some ((lexemes.take i).countP Lexeme.bare + 1) := by
  refine (Scan.index?_iff (Scan.placeholders_nodup hplaces)).mpr ⟨_, ?_, rfl⟩
  rw [Scan.ofLexemes_placeholders, List.getElem?_map, Scan.getElem?_filter_bare h hbare, Option.map_some]

/-- Only the places of bare placeholders have a number. -/
theorem Sql.Scan.index?_eq_none {position : Position}
    (h : ∀ lexeme ∈ lexemes, lexeme.bare = true → lexeme.position ≠ position) :
    (Scan.ofLexemes lexemes).index? position = none := by
  rw [Option.eq_none_iff_forall_ne_some]
  intro n hn
  obtain ⟨i, hi, -⟩ := (Scan.index?_iff (Scan.placeholders_nodup hplaces)).mp hn
  obtain ⟨lexeme, hmem, hposition⟩ := List.mem_map.mp (List.mem_of_getElem? hi)
  obtain ⟨hlexeme, hbare⟩ := List.mem_filter.mp hmem
  exact h lexeme hlexeme hbare hposition

end Numbers

/-- A bare placeholder has the number of the bare placeholders up to it, and stands for the parameter of that number; no
    other place has a number. So the numbers run from one to the number of bare placeholders, each at one place. -/
theorem placeholders_numbered (lexemes : List Lexeme) (hplaces : (lexemes.map Lexeme.position).Nodup)
    (params : Params) :
    (Scan.ofLexemes lexemes).placeholderCount = lexemes.countP Lexeme.bare ∧
      (∀ i lexeme, lexemes[i]? = some lexeme → lexeme.bare = true →
        (Scan.ofLexemes lexemes).index? lexeme.position = some ((lexemes.take i).countP Lexeme.bare + 1) ∧
          readValue (Scan.ofLexemes lexemes) params (.literal (.placeholder "?" lexeme.position)) =
            .ok (.ofParam params (.index ((lexemes.take i).countP Lexeme.bare + 1)))) ∧
      (∀ position, (∀ lexeme ∈ lexemes, lexeme.bare = true → lexeme.position ≠ position) →
        (Scan.ofLexemes lexemes).index? position = none) ∧
      (∀ p q n, (Scan.ofLexemes lexemes).index? p = some n → (Scan.ofLexemes lexemes).index? q = some n → p = q) ∧
      ∀ n, (∃ position, (Scan.ofLexemes lexemes).index? position = some n) ↔
        1 ≤ n ∧ n ≤ (Scan.ofLexemes lexemes).placeholderCount := by
  have hnodup := Scan.placeholders_nodup hplaces
  refine ⟨?_, fun i lexeme h hbare => ?_, fun position => Scan.index?_eq_none hplaces, fun p q n hp hq => ?_,
    fun n => ⟨?_, ?_⟩⟩
  · rw [Scan.placeholderCount, Scan.ofLexemes_placeholders, List.length_map, List.countP_eq_length_filter]
  · have hindex := Scan.index?_bare hplaces h hbare
    exact ⟨hindex, by simp [readValue, hindex]⟩
  · obtain ⟨i, hi, rfl⟩ := (Scan.index?_iff hnodup).mp hp
    obtain ⟨j, hj, hsame⟩ := (Scan.index?_iff hnodup).mp hq
    obtain rfl := Nat.succ.inj hsame
    exact Option.some.inj (hi.symm.trans hj)
  · rintro ⟨position, hposition⟩
    obtain ⟨i, hi, rfl⟩ := (Scan.index?_iff hnodup).mp hposition
    obtain ⟨hless, -⟩ := List.getElem?_eq_some_iff.mp hi
    exact ⟨Nat.succ_pos i, hless⟩
  · rintro ⟨hpos, hle⟩
    obtain ⟨i, rfl⟩ : ∃ i, n = i + 1 := ⟨n - 1, by omega⟩
    exact ⟨_, (Scan.index?_iff hnodup).mpr ⟨i, List.getElem?_eq_getElem hle, rfl⟩⟩

namespace Sample

/-- The tokens of `uid IN (?, ?7, :uid, ?) AND total = ?`, with a second line from the second bare placeholder on. -/
def placed : List Lexeme :=
  (tokens? .sqlite "uid IN (?, ?7, :uid,\n?) AND total = ?").getD []

end Sample

/-- The second of three bare placeholders stands for the second parameter, and the one with a number has none of
    theirs. -/
theorem placeholders_numbered_placed :
    (Sample.placed.map Lexeme.position).Nodup ∧ (Scan.ofLexemes Sample.placed).placeholderCount = 3 ∧
      readValue (Scan.ofLexemes Sample.placed) .empty (.literal (.placeholder "?" ⟨2, 1⟩)) =
        .ok (.ofParam .empty (.index 2)) ∧
      (Scan.ofLexemes Sample.placed).index? ⟨1, 12⟩ = none := by
  have hplaces : (Sample.placed.map Lexeme.position).Nodup := by decide +kernel
  obtain ⟨hcount, hbare, hothers, -, -⟩ := placeholders_numbered Sample.placed hplaces .empty
  have hsecond : Sample.placed[10]? = some ((Token.placeholder "?").at ⟨2, 1⟩) := by decide +kernel
  refine ⟨hplaces, hcount.trans (by decide +kernel), ?_, hothers _ (by decide +kernel)⟩
  have hread := (hbare 10 _ hsecond rfl).2
  have hnumber : (Sample.placed.take 10).countP Lexeme.bare + 1 = 2 := by decide +kernel
  rwa [hnumber] at hread

end ShardRouting
