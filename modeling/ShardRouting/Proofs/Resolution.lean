import ShardRouting.Proofs.Scopes

/-! What a reference stands for. The claims of a scope are made table by table, and a key becomes ambiguous with
    the second table that claims it. In the end they only say how many tables answer to a key: none, one, which is
    the one that the key stands for, or more. The order of the tables has no part in it. -/

namespace ShardRouting
open Sql Walk

/-- How many tables answer to a key. -/
def claimants (bindings : List Binding) (key : String) : Nat :=
  bindings.countP fun binding => key ∈ binding.lookupKeys

namespace Scope

variable {scope : Scope} {key : String}

/-! ### Claims -/

theorem claim?_addClaim (scope : Scope) (index : Nat) (key other : String) :
    (scope.addClaim index key).1.claim? other =
      if other = key then some (contest index (scope.claim? key)) else scope.claim? other := by
  unfold addClaim
  by_cases h : other = key
  · simp [claim?, h]
  · have hothers : (fun claim : String × Claim =>
          decide (decide (claim.1 ≠ key) = true ∧ decide (claim.1 = other) = true)) =
        fun claim => decide (claim.1 = other) := by
      funext claim
      by_cases hother : claim.1 = other <;> simp [hother, h]
    simp only [claim?, List.find?_cons, Ne.symm h, decide_false, List.find?_filter, hothers, if_neg h]

/-- A table contests a key once, however often it claims it. -/
theorem contest_contest (index : Nat) (claim : Option Claim) :
    contest index (some (contest index claim)) = contest index claim := by
  cases claim with
  | none => simp [contest]
  | some claim =>
    cases claim with
    | many => rfl
    | one other =>
      by_cases h : other = index
      · simp [contest, h]
      · simp [contest, h]

theorem claim?_addClaims (scope : Scope) (index : Nat) (keys : List String) (key : String) :
    (scope.addClaims index keys).1.claim? key =
      if key ∈ keys then some (contest index (scope.claim? key)) else scope.claim? key := by
  induction keys generalizing scope with
  | nil => rfl
  | cons first rest ih =>
    refine (ih (scope.addClaim index first).1).trans ?_
    rw [claim?_addClaim]
    by_cases hfirst : key = first
    · by_cases hrest : key ∈ rest
      · rw [if_pos hrest, if_pos hfirst, if_pos (List.mem_cons_of_mem _ hrest), contest_contest, hfirst]
      · rw [if_neg hrest, if_pos hfirst, if_pos (List.mem_cons.mpr (.inl hfirst)), hfirst]
    · by_cases hrest : key ∈ rest
      · rw [if_pos hrest, if_neg hfirst, if_pos (List.mem_cons_of_mem _ hrest)]
      · rw [if_neg hrest, if_neg hfirst, if_neg (by simp [hfirst, hrest])]

theorem enter_eq_foldl (bound : Site → Option Binding) (scope : Scope) (sites : List Site) :
    scope.enter bound sites =
      (sites.filterMap bound).foldl (fun scope binding => (scope.register binding).1) scope := by
  induction sites generalizing scope with
  | nil => rfl
  | cons site sites ih =>
    rw [enter, ih]
    cases hbound : bound site with
    | none => rw [List.filterMap_cons_none hbound, hold]
    | some binding => rw [List.filterMap_cons_some hbound, List.foldl_cons, hold]

/-! ### Counting -/

/-- The claims to a key count the tables that answer to it, and a single claim is that of such a table. -/
def Counts (scope : Scope) (key : String) : Prop :=
  match scope.claim? key with
  | none => claimants scope.bindings key = 0
  | some (.one index) => claimants scope.bindings key = 1 ∧
    ∃ binding, scope.bindings[index]? = some binding ∧ key ∈ binding.lookupKeys
  | some .many => 2 ≤ claimants scope.bindings key

theorem Counts.register (h : scope.Counts key) (binding : Binding) : (scope.register binding).1.Counts key := by
  have hbindings : (scope.register binding).1.bindings = scope.bindings ++ [binding] := addClaims_bindings _ _ _
  have hcount : claimants (scope.bindings ++ [binding]) key =
      claimants scope.bindings key + if key ∈ binding.lookupKeys then 1 else 0 := by
    simp [claimants, List.countP_append, List.countP_cons]
  have hlast : (scope.bindings ++ [binding])[scope.bindings.length]? = some binding := by simp
  have hclaim : (scope.register binding).1.claim? key = if key ∈ binding.lookupKeys then
      some (contest scope.bindings.length (scope.claim? key)) else scope.claim? key := claim?_addClaims ..
  unfold Counts at h ⊢
  rw [hbindings, hclaim, hcount]
  by_cases hkey : key ∈ binding.lookupKeys
  · simp only [if_pos hkey]
    cases hbefore : scope.claim? key with
    | none =>
      simp only [hbefore] at h
      simp only [contest, h]
      exact ⟨trivial, binding, hlast, hkey⟩
    | some claim =>
      cases claim with
      | many =>
        simp only [hbefore] at h
        simp only [contest]
        omega
      | one index =>
        simp only [hbefore] at h
        obtain ⟨hone, found, hfound, -⟩ := h
        obtain ⟨hindex, -⟩ := List.getElem?_eq_some_iff.mp hfound
        simp only [contest, if_neg (Nat.ne_of_lt hindex)]
        omega
  · simp only [if_neg hkey, Nat.add_zero]
    cases hbefore : scope.claim? key with
    | none => simpa only [hbefore] using h
    | some claim =>
      cases claim with
      | many => simpa only [hbefore] using h
      | one index =>
        simp only [hbefore] at h
        obtain ⟨hone, found, hfound, hmem⟩ := h
        obtain ⟨hindex, -⟩ := List.getElem?_eq_some_iff.mp hfound
        exact ⟨hone, found, (List.getElem?_append_left hindex).trans hfound, hmem⟩

/-- Only the keys of the tables are counted. -/
theorem Counts.congr {other : Scope} (h : scope.Counts key) (hclaims : other.claims = scope.claims)
    (hkeys : other.bindings.map Binding.lookupKeys = scope.bindings.map Binding.lookupKeys) : other.Counts key := by
  have hcount : claimants other.bindings key = claimants scope.bindings key := by
    have hmap : ∀ bindings, claimants bindings key =
        (bindings.map Binding.lookupKeys).countP fun keys => key ∈ keys := by
      simp [claimants, List.countP_map, Function.comp_def]
    rw [hmap, hmap, hkeys]
  have hsame : other.claim? key = scope.claim? key := by rw [claim?, claim?, hclaims]
  unfold Counts at h ⊢
  rw [hsame, hcount]
  cases hclaim : scope.claim? key with
  | none => simpa only [hclaim] using h
  | some claim =>
    cases claim with
    | many => simpa only [hclaim] using h
    | one index =>
      simp only [hclaim] at h
      obtain ⟨hone, binding, hbinding, hkey⟩ := h
      have hat := congrArg (·[index]?) hkeys
      simp only [List.getElem?_map, hbinding, Option.map_some] at hat
      obtain ⟨found, hfound, hlookup⟩ := Option.map_eq_some_iff.mp hat
      exact ⟨hone, found, hfound, hlookup ▸ hkey⟩

theorem Counts.registers (h : scope.Counts key) (bindings : List Binding) :
    (bindings.foldl (fun scope binding => (scope.register binding).1) scope).Counts key := by
  induction bindings generalizing scope with
  | nil => exact h
  | cons binding bindings ih => exact ih (h.register binding)

/-- A scope that has only been entered counts the claimants of every key. -/
theorem counts_enter (bound : Site → Option Binding) (sites : List Site) (key : String) :
    (Scope.enter bound {} sites).Counts key := by
  have hfresh : ({} : Scope).Counts key := rfl
  rw [enter_eq_foldl]
  exact hfresh.registers _

/-- A key stands for a table if that alone answers to it. -/
theorem Counts.resolve (h : scope.Counts key) :
    claimants scope.bindings key = 0 ∧ scope.resolve key = .unknown ∨
      2 ≤ claimants scope.bindings key ∧ scope.resolve key = .ambiguous ∨
      claimants scope.bindings key = 1 ∧ ∃ index binding, scope.bindings[index]? = some binding ∧
        key ∈ binding.lookupKeys ∧ scope.resolve key = .bound index binding := by
  unfold Counts at h
  unfold Scope.resolve
  cases hclaim : scope.claim? key with
  | none =>
    simp only [hclaim] at h
    exact .inl ⟨h, rfl⟩
  | some claim =>
    cases claim with
    | many =>
      simp only [hclaim] at h
      exact .inr (.inl ⟨h, rfl⟩)
    | one index =>
      simp only [hclaim] at h
      obtain ⟨hone, binding, hbinding, hkey⟩ := h
      exact .inr (.inr ⟨hone, index, binding, hbinding, hkey, by simp only [hbinding]⟩)

/-- The only table that answers to a key is found at one place. -/
theorem eq_of_claimants_one {bindings : List Binding} (h : claimants bindings key = 1) {i j : Nat} {a b : Binding}
    (hi : bindings[i]? = some a) (ha : key ∈ a.lookupKeys) (hj : bindings[j]? = some b) (hb : key ∈ b.lookupKeys) :
    i = j := by
  induction bindings generalizing i j with
  | nil => cases hi
  | cons first rest ih =>
    have hcount : claimants (first :: rest) key =
        claimants rest key + if key ∈ first.lookupKeys then 1 else 0 := by simp [claimants, List.countP_cons]
    have hnone : key ∈ first.lookupKeys → ∀ (k : Nat) (c : Binding), rest[k]? = some c → key ∉ c.lookupKeys := by
      intro hfirst k c hk hc
      rw [hcount, if_pos hfirst] at h
      have hpos : 0 < claimants rest key :=
        List.countP_pos_iff.mpr ⟨c, List.mem_of_getElem? hk, decide_eq_true hc⟩
      omega
    cases i with
    | zero =>
      cases hi
      cases j with
      | zero => rfl
      | succ j => exact absurd hb (hnone ha j b hj)
    | succ i =>
      cases j with
      | zero =>
        cases hj
        exact absurd ha (hnone hb i a hi)
      | succ j =>
        by_cases hfirst : key ∈ first.lookupKeys
        · exact absurd ha (hnone hfirst i a hi)
        · rw [hcount, if_neg hfirst, Nat.add_zero] at h
          exact congrArg (· + 1) (ih h hi hj)

end Scope
end ShardRouting
