import ShardRouting.Proofs.Resolution
import ShardRouting.Proofs.Rewriting
import ShardRouting.Proofs.Settlement

/-! Digests. A digest says of a script, without running it, whether a sketch goes through it and which tables it
    closes: a predicate is permitted by the number of tables that answer to its column, and a table hears all
    predicates of its scope that name its key. A statement is routed exactly when its digest is permitted and its
    closed tables settle. -/

namespace ShardRouting
open Sql Walk

/-! ### Tables by their names -/

/-- A bound table wherever it stands, and whatever predicates have been seen. -/
def Binding.plain (binding : Binding) : Binding := { binding with slot := .target, seenKey := none }

/-- The table that a name is bound as. -/
def Setting.bindingOf? (setting : Setting) (name : ObjectName) (alias_ : Option String) : Option Binding :=
  Site.binding? setting ⟨.target, name, alias_⟩

def Setting.bindingsOf (setting : Setting) (sites : List Site) : List Binding :=
  sites.filterMap fun site => setting.bindingOf? site.name site.alias_

theorem Setting.bindingOf?_eq (setting : Setting) (site : Site) :
    setting.bindingOf? site.name site.alias_ = (site.binding? setting).map Binding.plain := by
  unfold bindingOf? Site.binding?
  cases site.name.split? with
  | none => rfl
  | some parts =>
    simp only [Option.map_map]
    rfl

theorem Setting.bindingsOf_eq (setting : Setting) (sites : List Site) :
    setting.bindingsOf sites = (sites.filterMap (Site.binding? setting)).map Binding.plain := by
  rw [List.map_filterMap]
  exact List.filterMap_congr fun site _ => setting.bindingOf?_eq site

/-- The table that a numbered table is bound as. -/
def Setting.bindingAt? (setting : Setting) (factor : Factor) : Option Binding :=
  setting.bindingOf? factor.name (factor.alias_.map fun alias_ => alias_.name.value)

theorem Setting.bindingsOf_sites (setting : Setting) (index : Nat) (fs : List Factor) :
    setting.bindingsOf (Factor.sites index fs) = fs.filterMap setting.bindingAt? := by
  induction fs generalizing index with
  | nil => rfl
  | cons factor fs ih =>
    have hrest := ih (index + 1)
    unfold bindingsOf at hrest ⊢
    rw [Factor.sites, List.filterMap_cons, List.filterMap_cons, hrest]
    rfl

theorem Walk.closed_plain {setting : Setting} {binding : Binding} {table : RoutedTable} :
    Closed setting binding.plain table ↔ Closed setting binding table :=
  ⟨fun ⟨hsettled, hfits, hleads⟩ => ⟨hsettled, hfits, hleads⟩,
    fun ⟨hsettled, hfits, hleads⟩ => ⟨hsettled, hfits, hleads⟩⟩

/-! ### What tables hear -/

/-- What a step tells a table that answers to some keys. -/
def Step.told (scan : Scan) (keys : List String) : Step → List RouteSource
  | .key predicate =>
    if predicate.column.key ∈ keys then predicate.evidence.filterMap (Evidence.source? scan) else []
  | .other .. => []
  | .scope .. => []

def Binding.hear (scan : Scan) (steps : List Step) (binding : Binding) : Binding :=
  { binding with sources := binding.sources ++ steps.flatMap (Step.told scan binding.lookupKeys) }

@[simp] theorem Binding.lookupKeys_hear (scan : Scan) (steps : List Step) (binding : Binding) :
    (binding.hear scan steps).lookupKeys = binding.lookupKeys := rfl

@[simp] theorem Binding.lookupKeys_plain (binding : Binding) : binding.plain.lookupKeys = binding.lookupKeys := rfl

theorem Binding.hear_nil (scan : Scan) (binding : Binding) : binding.hear scan [] = binding := by
  simp [hear]

theorem Binding.hear_cons (scan : Scan) (step : Step) (steps : List Step) (binding : Binding) :
    binding.hear scan (step :: steps) = (binding.hear scan [step]).hear scan steps := by
  simp [hear, Binding.lookupKeys, Binding.qualifier]

/-- Only predicates are heard. -/
theorem Binding.map_hear_quiet {scan : Scan} {step : Step} (h : ∀ keys, step.told scan keys = [])
    (bindings : List Binding) : bindings.map (Binding.hear scan [step]) = bindings := by
  have hquiet : ∀ binding : Binding, binding.hear scan [step] = binding := by
    intro binding
    simp only [hear, List.flatMap_singleton, h, List.append_nil]
  rw [List.map_congr_left fun binding _ => hquiet binding, List.map_id']

theorem claimants_map {f : Binding → Binding} (hf : ∀ binding, (f binding).lookupKeys = binding.lookupKeys)
    (bindings : List Binding) (key : String) : claimants (bindings.map f) key = claimants bindings key := by
  simp [claimants, List.countP_map, Function.comp_def, hf]

/-! ### Digests of steps -/

section
variable (setting : Setting)

mutual

/-- A sketch goes through a step in a scope with these tables. -/
def Step.permitted (bindings : List Binding) : Step → Prop
  | .key predicate => claimants bindings predicate.column.key = 0 ∨
    claimants bindings predicate.column.key = 1 ∧ predicate.refusal = none ∧
      ∀ evidence ∈ predicate.evidence, ∃ source, evidence.source? setting.scan = some source
  | .other left _ _ => ∀ column, ColumnRef.ofExpr? left = some column → claimants bindings column.key = 0
  | .scope _ sites steps => Step.allPermitted (setting.bindingsOf sites) steps

def Step.allPermitted (bindings : List Binding) : List Step → Prop
  | [] => True
  | step :: steps => step.permitted bindings ∧ Step.allPermitted bindings steps

end

mutual

/-- The tables that a step closes, with all they have heard. -/
def Step.closed : Step → List Binding
  | .key _ => []
  | .other _ _ _ => []
  | .scope _ sites steps =>
    Step.allClosed steps ++ (setting.bindingsOf sites).map (Binding.hear setting.scan steps)

def Step.allClosed : List Step → List Binding
  | [] => []
  | step :: steps => step.closed ++ Step.allClosed steps

end

end

variable {setting : Setting} {steps rest : List Step} {bindings others : List Binding}

theorem Step.allPermitted_append :
    Step.allPermitted setting bindings (steps ++ rest) ↔
      Step.allPermitted setting bindings steps ∧ Step.allPermitted setting bindings rest := by
  induction steps with
  | nil => simp [allPermitted]
  | cons step steps ih => simp [allPermitted, ih, and_assoc]

theorem Step.allClosed_append (steps rest : List Step) :
    Step.allClosed setting (steps ++ rest) = Step.allClosed setting steps ++ Step.allClosed setting rest := by
  induction steps with
  | nil => rfl
  | cons step steps ih => simp [allClosed, ih]

theorem Step.allPermitted_iff :
    Step.allPermitted setting bindings steps ↔ ∀ step ∈ steps, step.permitted setting bindings := by
  induction steps with
  | nil => simp [allPermitted]
  | cons step steps ih => simp [allPermitted, ih]

theorem Step.allClosed_eq (steps : List Step) :
    Step.allClosed setting steps = steps.flatMap (Step.closed setting) := by
  induction steps with
  | nil => rfl
  | cons step steps ih => rw [allClosed, ih, List.flatMap_cons]

/-- Only the numbers of claimants have a part in what is permitted. -/
theorem Step.permitted_congr (h : ∀ key, claimants bindings key = claimants others key) (step : Step) :
    step.permitted setting bindings ↔ step.permitted setting others := by
  cases step with
  | key predicate => simp only [permitted, h]
  | other left operator text => simp only [permitted, h]
  | scope aliases sites steps => simp only [permitted]

theorem Step.allPermitted_congr (h : ∀ key, claimants bindings key = claimants others key) :
    Step.allPermitted setting bindings steps ↔ Step.allPermitted setting others steps := by
  simp only [allPermitted_iff, permitted_congr h]

/-! ### The scope of a statement -/

/-- What stands inside the only scope of a script. -/
def Step.inside : List Step → List Step
  | [.scope _ _ steps] => steps
  | _ => []

theorem Sql.Select.steps_eq (select : Select) (tail : List Step) :
    select.steps tail = [.scope true (Factor.sites 0 (factors select.from_)) (Step.inside (select.steps tail))] := by
  cases select
  rfl

theorem Sql.Insert.steps_eq (insert : Insert) :
    insert.steps = [.scope false [⟨.target, insert.target, none⟩] (Step.inside insert.steps)] := by
  cases insert
  rfl

theorem Sql.Update.steps_eq (update : Update) :
    update.steps = [.scope true (Factor.sites 0 (tableFactors update.table)) (Step.inside update.steps)] := by
  cases update
  rfl

theorem Sql.Delete.steps_eq (delete : Delete) :
    delete.steps = [.scope false (Factor.sites 0 (factors delete.from_ ++ factors (delete.using_.getD [])))
      (Step.inside delete.steps)] := by
  cases delete
  rfl

/-! ### Sketches and digests -/

theorem Binding.gather_iff {scan : Scan} {binding after : Binding} {evidence : List Evidence} :
    binding.gather scan evidence = some after ↔
      (∀ piece ∈ evidence, ∃ source, piece.source? scan = some source) ∧
        after = { binding with sources := binding.sources ++ evidence.filterMap (Evidence.source? scan) } := by
  induction evidence generalizing binding with
  | nil => simp [gather, eq_comm]
  | cons first rest ih =>
    unfold gather
    cases hsource : first.source? scan with
    | none => simp [hsource]
    | some source => simp [hsource, ih, keep]

namespace Sketch

variable {sketch after : Sketch}

/-- A sketch with these tables in its open scope. -/
structure Over (bindings : List Binding) (sketch : Sketch) : Prop where
  bindings : sketch.scope.bindings.map Binding.plain = bindings
  counts : ∀ key, sketch.scope.Counts key

theorem Over.start : Over [] {} where
  bindings := rfl
  counts _ := (rfl : ShardRouting.claimants [] _ = 0)

theorem Over.claimants (h : Over bindings sketch) (key : String) :
    claimants sketch.scope.bindings key = ShardRouting.claimants bindings key := by
  rw [← h.bindings]
  exact (claimants_map Binding.lookupKeys_plain _ key).symm

theorem Over.enter (sketch : Sketch) (sites : List Site) :
    Over (setting.bindingsOf sites) (sketch.enter (Site.binding? setting) sites) where
  bindings := by
    rw [Sketch.enter, Scope.enter_bindings, Setting.bindingsOf_eq]
    rfl
  counts := Scope.counts_enter _ _

theorem Over.leave {inner : Sketch} (h : Over bindings sketch) : Over bindings (sketch.leave inner) :=
  ⟨h.bindings, h.counts⟩

/-- What the table hears that alone answers to a key, no other table hears. -/
theorem Over.update (h : Over bindings sketch) {predicate : KeyPredicate} {index : Nat} {binding heard : Binding}
    (hbinding : sketch.scope.bindings[index]? = some binding) (hkey : predicate.column.key ∈ binding.lookupKeys)
    (hone : ShardRouting.claimants bindings predicate.column.key = 1)
    (hheard : heard.plain = binding.plain.hear setting.scan [.key predicate]) :
    Over (bindings.map (Binding.hear setting.scan [.key predicate]))
      { sketch with scope := sketch.scope.update index heard } := by
  have hothers : ∀ (j : Nat) (other : Binding), sketch.scope.bindings[j]? = some other → index ≠ j →
      other.plain.hear setting.scan [.key predicate] = other.plain := by
    intro j other hother hne
    have hunheard : predicate.column.key ∉ other.plain.lookupKeys := by
      intro hmem
      rw [← h.claimants] at hone
      exact hne (Scope.eq_of_claimants_one hone hbinding hkey hother hmem)
    simp only [Binding.hear, List.flatMap_singleton, Step.told, if_neg hunheard, List.append_nil]
  obtain ⟨hindex, hat⟩ := List.getElem?_eq_some_iff.mp hbinding
  constructor
  · show (sketch.scope.bindings.set index heard).map Binding.plain = _
    rw [← h.bindings, List.map_map]
    refine List.ext_getElem? fun j => ?_
    rw [List.getElem?_map, List.getElem?_map, List.getElem?_set]
    by_cases heq : index = j
    · subst heq
      rw [if_pos rfl, if_pos hindex, hbinding]
      exact congrArg some hheard
    · rw [if_neg heq]
      cases hother : sketch.scope.bindings[j]? with
      | none => rfl
      | some other => exact congrArg some (hothers j other hother heq).symm
  · have hplain : heard.plain.lookupKeys = (binding.plain.hear setting.scan [.key predicate]).lookupKeys := by
      rw [hheard]
    have hlookup : heard.lookupKeys = binding.lookupKeys := hplain
    intro key
    refine (h.counts key).congr rfl ?_
    show (sketch.scope.bindings.set index heard).map Binding.lookupKeys = _
    rw [List.map_set, hlookup, ← hat, ← List.getElem_map Binding.lookupKeys, List.set_getElem_self]
    rw [List.length_map]
    exact hindex

/-- A sketch goes through a predicate on a key if it is permitted. -/
theorem Over.key_iff (h : Over bindings sketch) {predicate : KeyPredicate} :
    (∃ after, sketch.key setting.scan predicate = some after) ↔ (Step.key predicate).permitted setting bindings := by
  unfold Sketch.key Step.permitted
  rcases (h.counts predicate.column.key).resolve with ⟨hcount, hresolve⟩ | ⟨hcount, hresolve⟩ |
    ⟨hcount, index, binding, -, -, hresolve⟩
  all_goals rw [h.claimants] at hcount; simp only [hresolve]
  · simp [hcount]
  · have hne : ShardRouting.claimants bindings predicate.column.key ≠ 0 := by omega
    have hne' : ShardRouting.claimants bindings predicate.column.key ≠ 1 := by omega
    simp [hne, hne']
  · cases predicate.refusal with
    | some refusal => simp [hcount]
    | none => simp [hcount, Binding.gather_iff]

theorem Over.key (h : Over bindings sketch) {predicate : KeyPredicate}
    (hkey : sketch.key setting.scan predicate = some after) :
    Over (bindings.map (Binding.hear setting.scan [.key predicate])) after ∧ after.closed = sketch.closed := by
  unfold Sketch.key at hkey
  rcases (h.counts predicate.column.key).resolve with ⟨hcount, hresolve⟩ | ⟨hcount, hresolve⟩ |
    ⟨hcount, index, binding, hbinding, hmem, hresolve⟩
  all_goals rw [h.claimants] at hcount; simp only [hresolve] at hkey
  · cases hkey
    -- no table hears the predicate
    have hnone : ∀ binding ∈ bindings, binding.hear setting.scan [.key predicate] = binding := by
      intro binding hbinding
      have hunheard : predicate.column.key ∉ binding.lookupKeys := by
        intro hmem
        have hpos : 0 < ShardRouting.claimants bindings predicate.column.key :=
          List.countP_pos_iff.mpr ⟨binding, hbinding, decide_eq_true hmem⟩
        omega
      simp only [Binding.hear, List.flatMap_singleton, Step.told, if_neg hunheard, List.append_nil]
    rw [List.map_congr_left hnone, List.map_id']
    exact ⟨h, rfl⟩
  · cases hkey
  · cases hrefusal : predicate.refusal with
    | some refusal => simp [hrefusal] at hkey
    | none =>
      simp only [hrefusal] at hkey
      obtain ⟨kept, hgather, rfl⟩ := Option.map_eq_some_iff.mp hkey
      obtain ⟨-, rfl⟩ := Binding.gather_iff.mp hgather
      refine ⟨h.update hbinding hmem hcount ?_, rfl⟩
      simp only [Binding.hear, List.flatMap_singleton, Step.told, Binding.lookupKeys_plain, if_pos hmem]
      rfl

theorem Over.other_iff (h : Over bindings sketch) {left : Expr} {operator text : String} :
    (∃ after, sketch.other left = some after) ↔ (Step.other left operator text).permitted setting bindings := by
  unfold Sketch.other Step.permitted
  cases ColumnRef.ofExpr? left with
  | none => simp
  | some column =>
    rcases (h.counts column.key).resolve with ⟨hcount, hresolve⟩ | ⟨hcount, hresolve⟩ |
      ⟨hcount, index, binding, -, -, hresolve⟩
    all_goals rw [h.claimants] at hcount; simp only [hresolve]
    · simp [hcount]
    · have hne : ShardRouting.claimants bindings column.key ≠ 0 := by omega
      simp [hne]
    · simp [hcount]

mutual

theorem Over.step_iff : ∀ (step : Step) {bindings : List Binding} {sketch : Sketch}, Over bindings sketch →
    ((∃ after, sketch.step setting.scan (Site.binding? setting) step = some after) ↔ step.permitted setting bindings)
  | .key _, _, _, h => h.key_iff
  | .other _ _ _, _, _, h => h.other_iff
  | .scope _ sites steps, _, sketch, _ => by
    rw [Step.permitted, ← (Over.run_iff steps (.enter sketch sites))]
    simp [Sketch.step]

theorem Over.step : ∀ (step : Step) {bindings : List Binding} {sketch after : Sketch}, Over bindings sketch →
    sketch.step setting.scan (Site.binding? setting) step = some after →
      Over (bindings.map (Binding.hear setting.scan [step])) after ∧
        after.closed.map Binding.plain = sketch.closed.map Binding.plain ++ step.closed setting
  | .key _, _, _, _, h, hstep => by
    obtain ⟨hover, hclosed⟩ := h.key hstep
    refine ⟨hover, ?_⟩
    rw [hclosed, Step.closed, List.append_nil]
  | .other _ _ _, bindings, sketch, _, h, hstep => by
    rw [other_eq hstep, Binding.map_hear_quiet fun _ => rfl, Step.closed, List.append_nil]
    exact ⟨h, rfl⟩
  | .scope _ sites steps, bindings, sketch, _, h, hstep => by
    obtain ⟨inner, hinner, rfl⟩ := Option.map_eq_some_iff.mp hstep
    obtain ⟨hover, hclosed⟩ := Over.run steps (.enter sketch sites) hinner
    rw [Binding.map_hear_quiet fun _ => rfl]
    refine ⟨h.leave, ?_⟩
    rw [Sketch.leave, List.map_append, hclosed, hover.bindings, Step.closed, List.append_assoc]
    rfl

theorem Over.run_iff : ∀ (steps : List Step) {bindings : List Binding} {sketch : Sketch}, Over bindings sketch →
    ((∃ after, sketch.run setting.scan (Site.binding? setting) steps = some after) ↔
      Step.allPermitted setting bindings steps)
  | [], _, sketch, _ => by simp [Sketch.run, Step.allPermitted]
  | step :: steps, bindings, sketch, h => by
    rw [Sketch.run, Step.allPermitted, ← Over.step_iff step h]
    cases hstep : sketch.step setting.scan (Site.binding? setting) step with
    | none => simp
    | some between =>
      have hrest := Over.run_iff steps (Over.step step h hstep).1
      rw [Step.allPermitted_congr (claimants_map (Binding.lookupKeys_hear _ _) bindings)] at hrest
      simpa using hrest

theorem Over.run : ∀ (steps : List Step) {bindings : List Binding} {sketch after : Sketch}, Over bindings sketch →
    sketch.run setting.scan (Site.binding? setting) steps = some after →
      Over (bindings.map (Binding.hear setting.scan steps)) after ∧
        after.closed.map Binding.plain = sketch.closed.map Binding.plain ++ Step.allClosed setting steps
  | [], bindings, sketch, _, h, hrun => by
    cases hrun
    have hnothing : bindings.map (Binding.hear setting.scan []) = bindings := by
      rw [List.map_congr_left fun binding _ => Binding.hear_nil _ binding, List.map_id']
    rw [hnothing, Step.allClosed, List.append_nil]
    exact ⟨h, rfl⟩
  | step :: steps, bindings, sketch, after, h, hrun => by
    rw [Sketch.run] at hrun
    cases hstep : sketch.step setting.scan (Site.binding? setting) step with
    | none => simp [hstep] at hrun
    | some between =>
      rw [hstep] at hrun
      obtain ⟨hover, hclosed⟩ := Over.step step h hstep
      obtain ⟨hover', hclosed'⟩ := Over.run steps hover hrun
      rw [List.map_map] at hover'
      rw [List.map_congr_left fun binding _ => Binding.hear_cons _ step steps binding, Step.allClosed,
        ← List.append_assoc, ← hclosed]
      exact ⟨hover', hclosed'⟩

end

end Sketch

/-! ### Statements -/

variable {statement : Statement} {routed : Routed}

theorem Sketch.run_digest {sketch : Sketch}
    (h : Sketch.run setting.scan (Site.binding? setting) {} steps = some sketch) :
    sketch.closed.map Binding.plain = Step.allClosed setting steps :=
  (Over.run steps .start h).2

theorem Walk.closed_map_plain {closed : List Binding} {tables : List RoutedTable} :
    List.Forall₂ (Closed setting) (closed.map Binding.plain) tables ↔
      List.Forall₂ (Closed setting) closed tables := by
  rw [List.forall₂_map_left_iff]
  simp only [closed_plain]

/-- A statement is routed exactly when its script is permitted and the tables that it closes settle; then it is
    written anew with the routes of these tables, whose schemas it touches. -/
theorem routeStatement_iff :
    (Router.routeStatement setting statement).result = .ok routed ↔
      Step.allPermitted setting [] statement.steps ∧
        List.Forall₂ (Closed setting) (Step.allClosed setting statement.steps) routed.tables ∧
        routed.schemas = schemasOf routed.tables ∧
        routed.statement = statement.written setting.naming routed.tables := by
  constructor
  · intro h
    obtain ⟨sketch, hsketch, hclosed⟩ := routeStatement_follows h
    refine ⟨(Sketch.Over.run_iff statement.steps .start).mp ⟨sketch, hsketch⟩, ?_, routeStatement_schemas h,
      routeStatement_written h⟩
    rwa [← Sketch.run_digest hsketch, closed_map_plain]
  · rintro ⟨hpermitted, hclosed, hschemas, hstatement⟩
    obtain ⟨sketch, hsketch⟩ := (Sketch.Over.run_iff statement.steps .start).mpr hpermitted
    rw [← Sketch.run_digest hsketch, closed_map_plain] at hclosed
    obtain ⟨again, hagain, htables⟩ := routeStatement_tables_iff.mpr ⟨sketch, hsketch, hclosed⟩
    have hagain' : again = routed := by
      have hschemas' := routeStatement_schemas hagain
      have hstatement' := routeStatement_written hagain
      rw [htables, ← hschemas] at hschemas'
      rw [htables, ← hstatement] at hstatement'
      exact Routed.eq_of hstatement' hschemas' htables
    rwa [hagain'] at hagain

end ShardRouting
