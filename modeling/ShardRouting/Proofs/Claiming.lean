import Mathlib.Data.List.FinRange
import ShardRouting.Proofs.Resolution

/-! What a scope knows after any number of tables. A key stands for nothing, for the one table that answers to it, or
    for no table in particular, and only the number of tables that answer to it decides which. Another order of the same
    tables gives them other numbers and changes nothing else. -/

namespace ShardRouting
namespace Scope

/-- A scope in which tables have been bound one after the other. -/
def ofBindings (bindings : List Binding) : Scope :=
  bindings.foldl (fun scope binding => (scope.register binding).1) {}

/-- The tables in another order: first the one with the number `order 0`, and so on. -/
def reordered (bindings : List Binding) (order : Equiv.Perm (Fin bindings.length)) : List Binding :=
  List.ofFn fun i => bindings[order i]

variable {bindings : List Binding} {key : String}

/-! ### Registration -/

theorem registers_bindings (scope : Scope) (bindings : List Binding) :
    (bindings.foldl (fun scope binding => (scope.register binding).1) scope).bindings = scope.bindings ++ bindings := by
  induction bindings generalizing scope with
  | nil => exact (List.append_nil _).symm
  | cons binding bindings ih =>
    have hone : (scope.register binding).1.bindings = scope.bindings ++ [binding] := addClaims_bindings _ _ _
    rw [List.foldl_cons, ih, hone, List.append_assoc, List.singleton_append]

theorem ofBindings_bindings (bindings : List Binding) : (ofBindings bindings).bindings = bindings :=
  registers_bindings {} bindings

theorem counts_ofBindings (bindings : List Binding) (key : String) : (ofBindings bindings).Counts key := by
  have hfresh : ({} : Scope).Counts key := rfl
  exact hfresh.registers bindings

/-- A key that a single table has claimed has the number of a table. -/
theorem lt_of_claim {index : Nat} (h : (ofBindings bindings).claim? key = some (.one index)) :
    index < bindings.length := by
  have hcounts := counts_ofBindings bindings key
  unfold Counts at hcounts
  simp only [h, ofBindings_bindings] at hcounts
  obtain ⟨-, binding, hbinding, -⟩ := hcounts
  exact (List.getElem?_eq_some_iff.mp hbinding).1

/-! ### Resolution -/

/-- What a key stands for, by the number of tables that answer to it. -/
theorem resolve_ofBindings (bindings : List Binding) (key : String) :
    ((ofBindings bindings).resolve key = .unknown ↔ claimants bindings key = 0) ∧
      ((ofBindings bindings).resolve key = .ambiguous ↔ 2 ≤ claimants bindings key) ∧
      ∀ index binding, (ofBindings bindings).resolve key = .bound index binding ↔
        claimants bindings key = 1 ∧ bindings[index]? = some binding ∧ key ∈ binding.lookupKeys := by
  have hresolve := (counts_ofBindings bindings key).resolve
  rw [ofBindings_bindings] at hresolve
  rcases hresolve with ⟨hnone, hunknown⟩ | ⟨hmany, hambiguous⟩ | ⟨hone, found, table, htable, hkey, hbound⟩
  · rw [hunknown, hnone]
    simp
  · rw [hambiguous]
    refine ⟨iff_of_false (by simp) (by omega), iff_of_true rfl hmany, fun index binding => ?_⟩
    exact iff_of_false (by simp) fun hone => by omega
  · rw [hbound]
    refine ⟨iff_of_false (by simp) (by omega), iff_of_false (by simp) (by omega), fun index binding => ?_⟩
    constructor
    · intro hsame
      cases hsame
      exact ⟨hone, htable, hkey⟩
    · rintro ⟨-, hbinding, hmem⟩
      obtain rfl := eq_of_claimants_one hone htable hkey hbinding hmem
      rw [Option.some.inj (htable.symm.trans hbinding)]

/-! ### Order -/

section Reordered
variable (order : Equiv.Perm (Fin bindings.length))

theorem claimants_reordered (key : String) : claimants (reordered bindings order) key = claimants bindings key := by
  have hperm : (reordered bindings order).Perm bindings := by
    have hcomp := order.ofFn_comp_perm bindings.get
    rwa [List.ofFn_get] at hcomp
  exact hperm.countP_eq _

theorem getElem?_reordered (i : Fin bindings.length) :
    (reordered bindings order)[i.val]? = bindings[(order i).val]? := by
  simp [reordered]

end Reordered

/-- A key stands for nothing if no table answers to it, for the table that answers to it if there is only one, and for
    no table in particular if there are more. In another order of the tables it stands for the same table, which has
    another number then. -/
theorem resolution_counts_claims (bindings : List Binding) (key : String) :
    (ofBindings bindings).bindings = bindings ∧
      ((ofBindings bindings).resolve key = .unknown ↔ claimants bindings key = 0) ∧
      (∀ index binding, (ofBindings bindings).resolve key = .bound index binding ↔
        claimants bindings key = 1 ∧ bindings[index]? = some binding ∧ key ∈ binding.lookupKeys) ∧
      ((ofBindings bindings).resolve key = .ambiguous ↔ 2 ≤ claimants bindings key) ∧
      (∀ index, (ofBindings bindings).claim? key = some (.one index) → index < bindings.length) ∧
      ∀ order : Equiv.Perm (Fin bindings.length),
        ((ofBindings (reordered bindings order)).resolve key = .unknown ↔
            (ofBindings bindings).resolve key = .unknown) ∧
          ((ofBindings (reordered bindings order)).resolve key = .ambiguous ↔
            (ofBindings bindings).resolve key = .ambiguous) ∧
          ∀ (i : Fin bindings.length) (binding : Binding),
            (ofBindings (reordered bindings order)).resolve key = .bound i binding ↔
              (ofBindings bindings).resolve key = .bound (order i) binding := by
  obtain ⟨hunknown, hambiguous, hbound⟩ := resolve_ofBindings bindings key
  refine ⟨ofBindings_bindings bindings, hunknown, hbound, hambiguous, fun _ => lt_of_claim, fun order => ?_⟩
  obtain ⟨hunknown', hambiguous', hbound'⟩ := resolve_ofBindings (reordered bindings order) key
  rw [claimants_reordered] at hunknown' hambiguous'
  refine ⟨hunknown'.trans hunknown.symm, hambiguous'.trans hambiguous.symm, fun i binding => ?_⟩
  rw [hbound', hbound, claimants_reordered, getElem?_reordered]

end Scope
end ShardRouting
