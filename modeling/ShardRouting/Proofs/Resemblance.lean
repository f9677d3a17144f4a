import ShardRouting.Proofs.Digest
import Mathlib.Data.List.Perm.Basic

/-! Scripts that resemble each other. Their steps match one by one: predicates speak of the same columns with
    matching evidence, and scopes bind the same tables. Where steps and tables may turn, they match in some order
    only. What one script closes the other closes as well, and a table that hears the same values is sent to the
    same place, whichever of them it hears first. -/

namespace ShardRouting
open Sql Walk

/-! ### Matching lists -/

section
variable {α β γ : Type} {turning : Prop} {R : α → β → Prop}

/-- Two lists match item by item, up to their order where they may turn. -/
def Matched (turning : Prop) (R : α → β → Prop) (l : List α) (l' : List β) : Prop :=
  ∃ m, List.Forall₂ R l m ∧ m.Perm l' ∧ (¬turning → m = l')

namespace Matched

variable {l k : List α} {l' k' : List β}

theorem of_forall₂ (h : List.Forall₂ R l l') : Matched turning R l l' := ⟨l', h, .refl l', fun _ => rfl⟩

theorem forall₂ (h : Matched turning R l l') (hstill : ¬turning) : List.Forall₂ R l l' := by
  obtain ⟨m, hpairs, -, hsame⟩ := h
  rwa [← hsame hstill]

theorem append (h : Matched turning R l l') (h' : Matched turning R k k') :
    Matched turning R (l ++ k) (l' ++ k') := by
  obtain ⟨m, hpairs, hperm, hsame⟩ := h
  obtain ⟨n, hpairs', hperm', hsame'⟩ := h'
  refine ⟨m ++ n, List.rel_append hpairs hpairs', hperm.append hperm', fun hstill => ?_⟩
  rw [hsame hstill, hsame' hstill]

theorem perm (hturning : turning) (hl : k.Perm l) (h : Matched turning R l l') (hl' : l'.Perm k') :
    Matched turning R k k' := by
  obtain ⟨m, hpairs, hperm, -⟩ := h
  obtain ⟨n, hpairs', hperm'⟩ := List.perm_comp_forall₂ hl hpairs
  exact ⟨n, hpairs', (hperm'.trans hperm).trans hl', fun hstill => absurd hturning hstill⟩

theorem imp {S : α → β → Prop} (h : Matched turning R l l') (hRS : ∀ a b, R a b → S a b) :
    Matched turning S l l' := by
  obtain ⟨m, hpairs, hperm, hsame⟩ := h
  exact ⟨m, hpairs.imp fun a b => hRS a b, hperm, hsame⟩

/-- Items of two lists in another order, each of which is made into something that matches. -/
theorem map {bs bs' : List γ} {f : γ → α} {g : γ → β} (hperm : bs.Perm bs') (hsame : ¬turning → bs = bs')
    (h : ∀ b ∈ bs, R (f b) (g b)) : Matched turning R (bs.map f) (bs'.map g) := by
  refine ⟨bs.map g, ?_, hperm.map g, fun hstill => by rw [hsame hstill]⟩
  rw [List.forall₂_map_left_iff, List.forall₂_map_right_iff]
  exact List.forall₂_same.mpr h

theorem left_mem (h : Matched turning R l l') {a : α} (ha : a ∈ l) : ∃ b ∈ l', R a b := by
  obtain ⟨m, hpairs, hperm, -⟩ := h
  obtain ⟨b, hb, hab⟩ := exists_right_of_mem hpairs ha
  exact ⟨b, hperm.subset hb, hab⟩

theorem right_mem (h : Matched turning R l l') {b : β} (hb : b ∈ l') : ∃ a ∈ l, R a b := by
  obtain ⟨m, hpairs, hperm, -⟩ := h
  exact exists_left_of_mem hpairs (hperm.symm.subset hb)

/-- What goes along with one of two matching lists goes along with the other. -/
theorem carry {δ : Type} {S : α → γ → Prop} {S' : β → δ → Prop} {T : γ → δ → Prop} {n : List γ}
    (h : Matched turning R l l') (hn : List.Forall₂ S l n)
    (hstep : ∀ a b c, R a b → S a c → ∃ d, S' b d ∧ T c d) (hunique : ∀ b d d', S' b d → S' b d' → d = d') :
    ∃ n', List.Forall₂ S' l' n' ∧ Matched turning T n n' := by
  obtain ⟨m, hpairs, hperm, hsame⟩ := h
  obtain ⟨o, ho, hno⟩ : ∃ o, List.Forall₂ S' m o ∧ List.Forall₂ T n o := by
    clear hperm hsame
    induction hpairs generalizing n with
    | nil =>
      cases hn
      exact ⟨[], .nil, .nil⟩
    | cons hab _ ih =>
      cases hn with
      | cons hac hn =>
        obtain ⟨d, hbd, hcd⟩ := hstep _ _ _ hab hac
        obtain ⟨o, ho, hno⟩ := ih hn
        exact ⟨d :: o, .cons hbd ho, .cons hcd hno⟩
  obtain ⟨n', hn', hperm'⟩ := List.perm_comp_forall₂ hperm.symm ho
  refine ⟨n', hn', o, hno, hperm'.symm, fun hstill => ?_⟩
  rw [← hsame hstill] at hn'
  exact List.right_unique_forall₂' (fun b d d' h h' => hunique b d d' h h') ho hn'

end Matched

end

/-! ### Matching scripts -/

section
variable (setting : Setting) (turning : Prop) (E : Evidence → Evidence → Prop)

inductive Resembles : List Step → List Step → Prop
  | nil : Resembles [] []
  | key {predicate predicate' : KeyPredicate} (hcolumn : predicate'.column = predicate.column)
    (hrefusal : predicate.refusal = none ↔ predicate'.refusal = none)
    (hevidence : List.Forall₂ E predicate.evidence predicate'.evidence) :
    Resembles [.key predicate] [.key predicate']
  | other {left left' : Expr} (hcolumn : ColumnRef.ofExpr? left' = ColumnRef.ofExpr? left)
    (operator text operator' text' : String) :
    Resembles [.other left operator text] [.other left' operator' text']
  | scope {sites sites' : List Site} {steps steps' : List Step} (aliases : Bool)
    (hsites : (setting.bindingsOf sites).Perm (setting.bindingsOf sites'))
    (hsame : ¬turning → setting.bindingsOf sites = setting.bindingsOf sites') (hsteps : Resembles steps steps') :
    Resembles [.scope aliases sites steps] [.scope aliases sites' steps']
  | append {first rest first' rest' : List Step} (hfirst : Resembles first first') (hrest : Resembles rest rest') :
    Resembles (first ++ rest) (first' ++ rest')
  | perm {steps left right steps' : List Step} (hturning : turning) (hleft : steps.Perm left)
    (hsteps : Resembles left right) (hright : right.Perm steps') : Resembles steps steps'

end

variable {setting : Setting} {turning : Prop} {E E' : Evidence → Evidence → Prop}
  {S : RouteSource → RouteSource → Prop} {steps steps' : List Step} {bindings bindings' : List Binding}

namespace Resembles

theorem mono (h : Resembles setting turning E steps steps') (hE : ∀ piece piece', E piece piece' → E' piece piece') :
    Resembles setting turning E' steps steps' := by
  induction h with
  | nil => exact .nil
  | key hcolumn hrefusal hevidence => exact .key hcolumn hrefusal (hevidence.imp hE)
  | other hcolumn operator text operator' text' => exact .other hcolumn operator text operator' text'
  | scope aliases hsites hsame _ ih => exact .scope aliases hsites hsame ih
  | append _ _ ihfirst ihrest => exact .append ihfirst ihrest
  | perm hturning hleft _ hright ih => exact .perm hturning hleft ih hright

theorem symm (h : Resembles setting turning E steps steps') (hE : ∀ piece piece', E piece piece' → E' piece' piece) :
    Resembles setting turning E' steps' steps := by
  induction h with
  | nil => exact .nil
  | key hcolumn hrefusal hevidence => exact .key hcolumn.symm hrefusal.symm (hevidence.imp hE).flip
  | other hcolumn operator text operator' text' => exact .other hcolumn.symm operator' text' operator text
  | scope aliases hsites hsame _ ih => exact .scope aliases hsites.symm (fun hstill => (hsame hstill).symm) ih
  | append _ _ ihfirst ihrest => exact .append ihfirst ihrest
  | perm hturning hleft _ hright ih => exact .perm hturning hright.symm ih hleft.symm

/-! ### What matching scripts do -/

theorem claimants_perm (h : bindings.Perm bindings') (key : String) :
    claimants bindings key = claimants bindings' key :=
  h.countP_eq _

theorem permitted (h : Resembles setting turning E steps steps')
    (hE : ∀ piece piece' source, E piece piece' → piece.source? setting.scan = some source →
      ∃ source', piece'.source? setting.scan = some source' ∧ S source source')
    (hbindings : ∀ key, claimants bindings key = claimants bindings' key)
    (hpermitted : Step.allPermitted setting bindings steps) : Step.allPermitted setting bindings' steps' := by
  induction h generalizing bindings bindings' with
  | nil => trivial
  | @key predicate predicate' hcolumn hrefusal hevidence =>
    refine ⟨?_, trivial⟩
    obtain ⟨hkey, -⟩ := hpermitted
    rw [Step.permitted, hbindings] at hkey
    rw [Step.permitted, hcolumn]
    refine hkey.imp_right ?_
    rintro ⟨hone, hnone, hsources⟩
    refine ⟨hone, hrefusal.mp hnone, fun piece' hpiece' => ?_⟩
    obtain ⟨piece, hpiece, hmatch⟩ := exists_left_of_mem hevidence hpiece'
    obtain ⟨source, hsource⟩ := hsources piece hpiece
    obtain ⟨source', hsource', -⟩ := hE piece piece' source hmatch hsource
    exact ⟨source', hsource'⟩
  | other hcolumn operator text operator' text' =>
    refine ⟨?_, trivial⟩
    obtain ⟨hother, -⟩ := hpermitted
    rw [Step.permitted] at hother ⊢
    intro column hfound
    rw [← hbindings]
    exact hother column (hcolumn ▸ hfound)
  | scope aliases hsites hsame _ ih =>
    refine ⟨?_, trivial⟩
    obtain ⟨hscope, -⟩ := hpermitted
    rw [Step.permitted] at hscope ⊢
    exact ih (claimants_perm hsites) hscope
  | append _ _ ihfirst ihrest =>
    obtain ⟨hfirst, hrest⟩ := Step.allPermitted_append.mp hpermitted
    exact Step.allPermitted_append.mpr ⟨ihfirst hbindings hfirst, ihrest hbindings hrest⟩
  | perm hturning hleft _ hright ih =>
    rw [Step.allPermitted_iff] at hpermitted ⊢
    have hmid := ih hbindings (Step.allPermitted_iff.mpr fun step hstep => hpermitted step (hleft.symm.subset hstep))
    rw [Step.allPermitted_iff] at hmid
    exact fun step hstep => hmid step (hright.symm.subset hstep)

theorem forall₂_sources
    (hE : ∀ piece piece' source, E piece piece' → piece.source? setting.scan = some source →
      ∃ source', piece'.source? setting.scan = some source' ∧ S source source')
    {evidence evidence' : List Evidence} (h : List.Forall₂ E evidence evidence')
    (hsources : ∀ piece ∈ evidence, ∃ source, piece.source? setting.scan = some source) :
    List.Forall₂ S (evidence.filterMap (Evidence.source? setting.scan))
      (evidence'.filterMap (Evidence.source? setting.scan)) := by
  induction h with
  | nil => exact .nil
  | @cons piece piece' rest rest' hmatch _ ih =>
    obtain ⟨⟨source, hsource⟩, hothers⟩ := List.forall_mem_cons.mp hsources
    obtain ⟨source', hsource', hS⟩ := hE piece piece' source hmatch hsource
    rw [List.filterMap_cons_some hsource, List.filterMap_cons_some hsource']
    exact .cons hS (ih hothers)

/-- A table hears matching sources. -/
theorem told (h : Resembles setting turning E steps steps')
    (hE : ∀ piece piece' source, E piece piece' → piece.source? setting.scan = some source →
      ∃ source', piece'.source? setting.scan = some source' ∧ S source source')
    {binding : Binding} (hbinding : binding ∈ bindings) (hpermitted : Step.allPermitted setting bindings steps) :
    Matched turning S (steps.flatMap (Step.told setting.scan binding.lookupKeys))
      (steps'.flatMap (Step.told setting.scan binding.lookupKeys)) := by
  induction h generalizing binding bindings with
  | nil => exact .of_forall₂ .nil
  | @key predicate predicate' hcolumn hrefusal hevidence =>
    rw [List.flatMap_singleton, List.flatMap_singleton, Step.told, Step.told, hcolumn]
    by_cases hkey : predicate.column.key ∈ binding.lookupKeys
    · rw [if_pos hkey, if_pos hkey]
      obtain ⟨hpredicate, -⟩ := hpermitted
      have hpos : 0 < claimants bindings predicate.column.key :=
        List.countP_pos_iff.mpr ⟨binding, hbinding, decide_eq_true hkey⟩
      rw [Step.permitted] at hpredicate
      obtain ⟨-, -, hsources⟩ := hpredicate.resolve_left (Nat.ne_of_gt hpos)
      exact .of_forall₂ (forall₂_sources hE hevidence hsources)
    · rw [if_neg hkey, if_neg hkey]
      exact .of_forall₂ .nil
  | other hcolumn operator text operator' text' => exact .of_forall₂ .nil
  | scope aliases hsites hsame _ _ => exact .of_forall₂ .nil
  | append _ _ ihfirst ihrest =>
    obtain ⟨hfirst, hrest⟩ := Step.allPermitted_append.mp hpermitted
    rw [List.flatMap_append, List.flatMap_append]
    exact (ihfirst hbinding hfirst).append (ihrest hbinding hrest)
  | perm hturning hleft _ hright ih =>
    have hmid := ih hbinding (Step.allPermitted_iff.mpr fun step hstep =>
      Step.allPermitted_iff.mp hpermitted step (hleft.symm.subset hstep))
    exact hmid.perm hturning (hleft.flatMap_right _) (hright.flatMap_right _)

end Resembles

/-! ### What matching scripts close -/

/-- Closed tables that have heard matching sources. -/
structure Alike (turning : Prop) (S : RouteSource → RouteSource → Prop) (plain plain' : Binding) : Prop where
  schema : plain'.schema = plain.schema
  table : plain'.table = plain.table
  sources : Matched turning S plain.sources plain'.sources

theorem Setting.bindingsOf_fresh {sites : List Site} {binding : Binding} (h : binding ∈ setting.bindingsOf sites) :
    binding.sources = [] := by
  obtain ⟨site, -, hsite⟩ := List.mem_filterMap.mp h
  exact (Site.binding?_fresh hsite).2

namespace Resembles

variable (hE : ∀ piece piece' source, E piece piece' → piece.source? setting.scan = some source →
  ∃ source', piece'.source? setting.scan = some source' ∧ S source source')
include hE

theorem heard (h : Resembles setting turning E steps steps') {sites : List Site} {binding : Binding}
    (hbinding : binding ∈ setting.bindingsOf sites)
    (hpermitted : Step.allPermitted setting (setting.bindingsOf sites) steps) :
    Alike turning S (binding.hear setting.scan steps) (binding.hear setting.scan steps') := by
  refine ⟨rfl, rfl, ?_⟩
  rw [Binding.hear, Binding.hear, Setting.bindingsOf_fresh hbinding]
  exact h.told hE hbinding hpermitted

theorem closed (h : Resembles setting turning E steps steps')
    (hpermitted : Step.allPermitted setting bindings steps) :
    Matched turning (Alike turning S) (Step.allClosed setting steps) (Step.allClosed setting steps') := by
  induction h generalizing bindings with
  | nil => exact .of_forall₂ .nil
  | key hcolumn hrefusal hevidence => exact .of_forall₂ .nil
  | other hcolumn operator text operator' text' => exact .of_forall₂ .nil
  | @scope sites sites' steps steps' aliases hsites hsame hsteps ih =>
    obtain ⟨hscope, -⟩ := hpermitted
    rw [Step.permitted] at hscope
    simp only [Step.allClosed, Step.closed, List.append_nil]
    refine (ih hscope).append (.map hsites hsame fun binding hbinding => ?_)
    exact hsteps.heard hE hbinding hscope
  | append _ _ ihfirst ihrest =>
    obtain ⟨hfirst, hrest⟩ := Step.allPermitted_append.mp hpermitted
    rw [Step.allClosed_append, Step.allClosed_append]
    exact (ihfirst hfirst).append (ihrest hrest)
  | perm hturning hleft _ hright ih =>
    have hmid := ih (Step.allPermitted_iff.mpr fun step hstep =>
      Step.allPermitted_iff.mp hpermitted step (hleft.symm.subset hstep))
    rw [Step.allClosed_eq, Step.allClosed_eq] at hmid ⊢
    exact hmid.perm hturning (hleft.flatMap_right _) (hright.flatMap_right _)

end Resembles

/-! ### Where matching tables are sent -/

/-- A table that is routed again by matching sources, and to the same place. -/
structure Rerouted (turning : Prop) (S : RouteSource → RouteSource → Prop) (first again : RoutedTable) : Prop where
  schema : again.schema = first.schema
  table : again.table = first.table
  route : first.route.same again.route = true
  still : ¬turning → again.route = first.route
  sources : Matched turning S first.sources again.sources

section
variable {plain plain' : Binding} {table : RoutedTable}
  (hS : ∀ source source', S source source' → source'.values setting.params = source.values setting.params ∧
    (source.Fits setting.options.maxBetweenSpan setting.params →
      source'.Fits setting.options.maxBetweenSpan setting.params))
include hS

theorem flatMap_values {sources sources' : List RouteSource} (h : List.Forall₂ S sources sources') :
    sources.flatMap (·.values setting.params) = sources'.flatMap (·.values setting.params) := by
  induction h with
  | nil => rfl
  | @cons source source' _ _ hmatch _ ih =>
    rw [List.flatMap_cons, List.flatMap_cons, ih, (hS source source' hmatch).1]

theorem Alike.values (h : Alike turning S plain plain') :
    Matched turning Eq (plain.values setting) (plain'.values setting) := by
  cases hoff : setting.overrides.sqlRoutingDisabled with
  | true =>
    rw [Binding.values_disabled hoff, Binding.values_disabled hoff]
    exact .of_forall₂ .nil
  | false =>
    rw [Binding.values_enabled hoff, Binding.values_enabled hoff]
    obtain ⟨sources, hpairs, hperm, hsame⟩ := h.sources
    refine ⟨_, ?_, hperm.flatMap_right _, fun hstill => by rw [hsame hstill]⟩
    rw [List.forall₂_eq_eq_eq]
    exact flatMap_values hS hpairs

/-- A table that hears the same values is sent to the same place. -/
theorem Alike.closed (h : Alike turning S plain plain') (hclosed : Closed setting plain table) :
    ∃ again, Closed setting plain' again ∧ Rerouted turning S table again := by
  have hfits : ∀ source' ∈ plain'.sources, source'.Fits setting.options.maxBetweenSpan setting.params := by
    intro source' hsource'
    obtain ⟨source, hsource, hmatch⟩ := h.sources.right_mem hsource'
    exact (hS source source' hmatch).2 (hclosed.fits source hsource)
  have hvalues := h.values hS
  have hleads : ∀ value ∈ plain'.values setting,
      Sends setting plain'.schema plain'.table.value value table.route := by
    intro value hvalue
    obtain ⟨_, hbefore, rfl⟩ := hvalues.right_mem hvalue
    rw [h.schema, h.table]
    exact hclosed.leads _ hbefore
  obtain ⟨hschema, htable, ⟨hnone, hfallback, hsources⟩ | ⟨hne, hfirst, hsources⟩⟩ :=
    Binding.settled?_inv hclosed.settled
  · have hnone' : plain'.values setting = [] := by
      rw [List.eq_nil_iff_forall_not_mem]
      intro value hvalue
      obtain ⟨other, hother, -⟩ := hvalues.right_mem hvalue
      simp [hnone] at hother
    refine ⟨table, ⟨?_, hfits, hleads⟩, rfl, rfl, Destination.same_refl _, fun _ => rfl, ?_⟩
    · rw [Binding.settled?_nil hnone', h.schema, h.table, hfallback, Option.map_some, ← hschema, ← htable, ← hsources]
    · rw [hsources]
      exact .of_forall₂ .nil
  · obtain ⟨value, hvalue⟩ := List.exists_mem_of_ne_nil _ hne
    obtain ⟨_, hvalue', rfl⟩ := hvalues.left_mem hvalue
    have hne' : plain'.values setting ≠ [] := List.ne_nil_of_mem hvalue'
    obtain ⟨again, hagain⟩ := Coherent.closed ⟨hfits, table.route, hleads⟩ hne'
    obtain ⟨hschema', htable', ⟨hnone', -⟩ | ⟨-, hfirst', hsources'⟩⟩ := Binding.settled?_inv hagain.settled
    · exact absurd hnone' hne'
    · refine ⟨again, hagain, ?_, ?_, (hleads value hvalue').same (hagain.leads value hvalue'), fun hstill => ?_, ?_⟩
      · rw [hschema', hschema, h.schema]
      · rw [htable', htable, h.table]
      · -- the values come in the same order, and so does the first of them
        have hsame : plain.values setting = plain'.values setting := by
          have hpairs := hvalues.forall₂ hstill
          rwa [List.forall₂_eq_eq_eq] at hpairs
        rw [Binding.first?, h.schema, h.table, ← hsame] at hfirst'
        exact Option.some.inj (hfirst'.symm.trans hfirst)
      · rw [hsources, hsources']
        exact h.sources

end

/-- When one of two statements with matching scripts is routed, so is the other, and its tables match. -/
theorem Resembles.routed {statement statement' : Statement} {routed : Routed}
    (h : Resembles setting turning E statement.steps statement'.steps)
    (hE : ∀ piece piece' source, E piece piece' → piece.source? setting.scan = some source →
      ∃ source', piece'.source? setting.scan = some source' ∧ S source source')
    (hS : ∀ source source', S source source' → source'.values setting.params = source.values setting.params ∧
      (source.Fits setting.options.maxBetweenSpan setting.params →
        source'.Fits setting.options.maxBetweenSpan setting.params))
    (hrouted : (Router.routeStatement setting statement).result = .ok routed) :
    ∃ again, (Router.routeStatement setting statement').result = .ok again ∧
      Matched turning (Rerouted turning S) routed.tables again.tables := by
  obtain ⟨hpermitted, hclosed, -, -⟩ := routeStatement_iff.mp hrouted
  obtain ⟨tables, hclosed', htables⟩ := (h.closed hE hpermitted).carry hclosed
    (fun _ _ _ halike hplain => halike.closed hS hplain) fun _ _ _ hfirst hsecond => hfirst.unique hsecond
  refine ⟨⟨statement'.written setting.naming tables, schemasOf tables, tables⟩, ?_, htables⟩
  exact routeStatement_iff.mpr ⟨h.permitted hE (fun _ => rfl) hpermitted, hclosed', rfl, rfl⟩

/-! ### Evidence in pairs -/

mutual

/-- The evidence in a step, from the first predicate to the last. -/
def Step.evidence : Step → List Evidence
  | .key predicate => predicate.evidence
  | .other _ _ _ => []
  | .scope _ _ steps => Step.allEvidence steps

def Step.allEvidence : List Step → List Evidence
  | [] => []
  | step :: steps => step.evidence ++ Step.allEvidence steps

end

theorem Step.allEvidence_append (steps rest : List Step) :
    Step.allEvidence (steps ++ rest) = Step.allEvidence steps ++ Step.allEvidence rest := by
  induction steps with
  | nil => rfl
  | cons step steps ih => simp [allEvidence, ih]

theorem forall₂_zip {α β : Type} {R : α → β → Prop} {l : List α} {l' : List β} (h : List.Forall₂ R l l') :
    List.Forall₂ (fun a b => R a b ∧ (a, b) ∈ l.zip l') l l' := by
  induction h with
  | nil => exact .nil
  | cons hab _ ih =>
    exact .cons ⟨hab, List.mem_cons_self⟩ (ih.imp fun _ _ h => ⟨h.1, List.mem_cons_of_mem _ h.2⟩)

/-- In scripts that do not turn, evidence that matches stands in the same place. -/
theorem Resembles.paired (h : Resembles setting turning E steps steps') (hstill : ¬turning) :
    (Step.allEvidence steps).length = (Step.allEvidence steps').length ∧
      Resembles setting turning (fun piece piece' => E piece piece' ∧
        (piece, piece') ∈ (Step.allEvidence steps).zip (Step.allEvidence steps')) steps steps' := by
  induction h with
  | nil => exact ⟨rfl, .nil⟩
  | key hcolumn hrefusal hevidence =>
    simp only [Step.allEvidence, Step.evidence, List.append_nil]
    exact ⟨hevidence.length_eq, .key hcolumn hrefusal (forall₂_zip hevidence)⟩
  | other hcolumn operator text operator' text' => exact ⟨rfl, .other hcolumn operator text operator' text'⟩
  | scope aliases hsites hsame _ ih =>
    simp only [Step.allEvidence, Step.evidence, List.append_nil]
    exact ⟨ih.1, .scope aliases hsites hsame ih.2⟩
  | append _ _ ihfirst ihrest =>
    obtain ⟨hlength, hfirst⟩ := ihfirst
    obtain ⟨hlength', hrest⟩ := ihrest
    simp only [Step.allEvidence_append, List.length_append, hlength, hlength', List.zip_append hlength, true_and]
    exact .append (hfirst.mono fun _ _ h => ⟨h.1, List.mem_append_left _ h.2⟩)
      (hrest.mono fun _ _ h => ⟨h.1, List.mem_append_right _ h.2⟩)
  | perm hturning => exact absurd hturning hstill

end ShardRouting
