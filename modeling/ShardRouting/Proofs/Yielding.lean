import ShardRouting.Proofs.Coverage

/-! What a walk yields. Every step of a walk keeps the tables that are bound in the open scope and adds to the
    tables that are settled, so what is to be said of a walk is said of its result and of the tables that it
    settles. The rules here take a walk apart; the last one closes a scope. -/

namespace ShardRouting
open Sql
namespace Walk

variable {α β : Type} {setting : Setting} {depth : Nat}

/-- A step that goes through keeps the bindings of the open scope, whatever it learns of them, and settles some
    tables; `post` holds of its result and of these tables. -/
def Yields (x : Walk α) (post : α → List RoutedTable → Prop) : Prop :=
  ∀ p a q, x p = .ok a q → q.scope.bindings.map Binding.identity = p.scope.bindings.map Binding.identity ∧
    ∃ tables, q.routed = p.routed ++ tables ∧ post a tables

namespace Yields

variable {inner : α → List RoutedTable → Prop} {post : β → List RoutedTable → Prop}

theorem pure {b : β} (h : post b []) : Yields (Pure.pure b) post := by
  intro p a q hrun
  obtain ⟨rfl, rfl⟩ := pure_iff.mp hrun
  exact ⟨rfl, [], (List.append_nil _).symm, h⟩

theorem bind {x : Walk α} {f : α → Walk β} (hx : Yields x inner)
    (hf : ∀ a tables, inner a tables → Yields (f a) fun b more => post b (tables ++ more)) :
    Yields (x >>= f) post := by
  intro p b q hrun
  obtain ⟨a, p', hfirst, hsecond⟩ := bind_iff.mp hrun
  obtain ⟨hbindings, tables, hrouted, hinner⟩ := hx p a p' hfirst
  obtain ⟨hbindings', more, hrouted', hpost⟩ := hf a tables hinner p' b q hsecond
  refine ⟨hbindings'.trans hbindings, tables ++ more, ?_, hpost⟩
  rw [hrouted', hrouted, List.append_assoc]

theorem given {a : α} {f : α → Walk β} (h : Yields (f a) post) : Yields (Pure.pure a >>= f) post := h

/-- A result may be put into a tree at the end. -/
theorem map {x : Walk α} {f : α → β} (hx : Yields x inner) (h : ∀ a tables, inner a tables → post (f a) tables) :
    Yields (x >>= fun a => Pure.pure (f a)) post :=
  hx.bind fun a tables hinner => pure (by simpa using h a tables hinner)

/-- A predicate settles nothing. -/
theorem first (depth : Nat) {x : Walk Unit} {f : Unit → Walk β} {steps : List Step}
    (hx : Runs setting depth x steps) (hflat : ∀ step ∈ steps, Flat step) (hf : ∀ u, Yields (f u) post) :
    Yields (x >>= f) post := by
  intro p b q hrun
  obtain ⟨u, p', hfirst, hsecond⟩ := bind_iff.mp hrun
  obtain ⟨hbindings, hrouted⟩ := hx.keeps hflat hfirst
  obtain ⟨hbindings', tables, hrouted', hpost⟩ := hf u p' b q hsecond
  exact ⟨hbindings'.trans hbindings, tables, hrouted ▸ hrouted', hpost⟩

/-- When a scope closes, its own tables are settled behind all that is inside it. -/
theorem scope {x : Walk Unit} {y : Walk α} {g : α × Scope → Walk β} {f : α → List Relocation → β}
    {aliases : Bool} (inner : α → List RoutedTable → Prop) (sites : List Site)
    (hx : x = bindSites setting depth sites) (hy : Yields y inner)
    (hg : ∀ a scope, g (a, scope) = closeScope setting aliases scope.bindings >>= fun relocations =>
      Pure.pure (f a relocations))
    (hpost : ∀ a tables bindings closed, inner a tables →
      bindings.map Binding.identity = (sites.filterMap (Site.binding? setting)).map Binding.identity →
      List.Forall₂ (Settles setting) bindings closed →
      post (f a (List.zipWith (relocationFor setting aliases) bindings closed)) (tables ++ closed)) :
    Yields (inScope (x >>= fun _ => y) >>= g) post := by
  intro p b q hrun
  obtain ⟨⟨a, scope⟩, _, hscope, hclose⟩ := bind_iff.mp hrun
  obtain ⟨p', hinner, hleft, rfl⟩ := inScope_iff.mp hscope
  obtain rfl : scope = p'.scope := hleft
  obtain ⟨_, p₀, hbind, hrest⟩ := bind_iff.mp hinner
  obtain ⟨_, hbind', hentered, hkept⟩ := bindSites_run setting depth sites { p with scope := {} }
  cases (hx ▸ hbind).symm.trans hbind'
  obtain ⟨hbindings, tables, hrouted, hyields⟩ := hy p₀ a p' hrest
  rw [hentered, Scope.enter_bindings] at hbindings
  rw [hg] at hclose
  obtain ⟨relocations, hclosed, rfl⟩ := map_iff.mp hclose
  obtain ⟨closed, hout, hrouted', hsettles, rfl⟩ := closeScope_inv hclosed
  refine ⟨by rw [hout], tables ++ closed, ?_, hpost a tables _ closed hyields hbindings hsettles⟩
  rw [hrouted', hrouted, hkept, List.append_assoc]

end Yields

end Walk
end ShardRouting
