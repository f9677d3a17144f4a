import ShardRouting.Proofs.Settlement

/-! The schemas of a routed statement. A schema is noted when a table gets its route, be it open or closing, so
    at the end the noted schemas are those of the routes of all tables, each once and in order. -/

namespace ShardRouting
open Sql Walk

/-! ### Sorted names -/

theorem mem_insertName {name other : String} {names : List String} :
    other ∈ insertName name names ↔ other = name ∨ other ∈ names := by
  induction names with
  | nil => simp [insertName]
  | cons first rest ih =>
    unfold insertName
    split
    · rename_i heq
      simp [heq]
    · split
      · simp
      · simp only [List.mem_cons, ih]
        tauto

theorem insertName_sorted {name : String} {names : List String} (h : names.Pairwise (· < ·)) :
    (insertName name names).Pairwise (· < ·) := by
  induction names with
  | nil => simp [insertName]
  | cons first rest ih =>
    obtain ⟨hfirst, hrest⟩ := List.pairwise_cons.mp h
    unfold insertName
    split
    · exact h
    · rename_i hne
      split
      · rename_i hlt
        refine List.pairwise_cons.mpr ⟨fun other hother => ?_, h⟩
        rcases List.mem_cons.mp hother with rfl | hother
        · exact hlt
        · exact String.lt_trans hlt (hfirst other hother)
      · rename_i hge
        have hlt : first < name := by
          by_contra hnot
          exact hne (String.le_antisymm (String.not_lt.mp hnot) (String.not_lt.mp hge))
        refine List.pairwise_cons.mpr ⟨fun other hother => ?_, ih hrest⟩
        rcases mem_insertName.mp hother with rfl | hother
        · exact hlt
        · exact hfirst other hother

/-- Two sorted lists with the same names are equal. -/
theorem sorted_unique {names others : List String} (h : names.Pairwise (· < ·)) (h' : others.Pairwise (· < ·))
    (hsame : ∀ name, name ∈ names ↔ name ∈ others) : names = others := by
  have hne : ∀ {a b : String}, a < b → a ≠ b := fun hlt heq => String.lt_irrefl _ (heq ▸ hlt)
  have hperm := (List.perm_ext_iff_of_nodup (h.imp hne) (h'.imp hne)).mpr hsame
  refine hperm.eq_of_pairwise (fun a b _ _ hlt hgt => ?_) h h'
  exact absurd (String.lt_trans hlt hgt) (String.lt_irrefl a)

/-- The schemas of the routes of some tables, each once and in order. -/
def schemasOf (tables : List RoutedTable) : List String :=
  tables.foldr (fun table => insertName table.route.schema) []

theorem mem_schemasOf {schema : String} {tables : List RoutedTable} :
    schema ∈ schemasOf tables ↔ ∃ table ∈ tables, table.route.schema = schema := by
  induction tables with
  | nil => simp [schemasOf]
  | cons table tables ih =>
    rw [schemasOf] at ih
    rw [schemasOf, List.foldr_cons, mem_insertName, ih]
    simp [eq_comm]

theorem schemasOf_sorted (tables : List RoutedTable) : (schemasOf tables).Pairwise (· < ·) := by
  induction tables with
  | nil => exact .nil
  | cons table tables ih => exact insertName_sorted ih

namespace Walk

variable {setting : Setting} {binding after : Binding} {p q r : Progress} {depth : Nat}

/-! ### Routes are noted -/

/-- A step on one binding notes the schema of its route when it gives it one, and nothing else. -/
def Marks (binding after : Binding) (p q : Progress) : Prop :=
  after.route = binding.route ∧ q.schemas = p.schemas ∨
    binding.route = none ∧ ∃ route, after.route = some route ∧ q.schemas = insertName route.schema p.schemas

theorem Marks.refl (binding : Binding) (h : q.schemas = p.schemas) : Marks binding binding p q := .inl ⟨rfl, h⟩

theorem Marks.trans {between : Binding} (h : Marks binding between p q) (h' : Marks between after q r) :
    Marks binding after p r := by
  rcases h with ⟨hroute, hschemas⟩ | ⟨hnone, route, hroute, hschemas⟩
  · unfold Marks
    rw [← hroute, ← hschemas]
    exact h'
  · rcases h' with ⟨hkept, hkept'⟩ | ⟨hnone', -⟩
    · exact .inr ⟨hnone, route, hkept.trans hroute, hkept'.trans hschemas⟩
    · cases hroute.symm.trans hnone'

theorem acceptRoute_marks {route : Destination} {value : ShardValue}
    (h : acceptRoute binding route value p = .ok after q) : Marks binding after p q := by
  unfold acceptRoute at h
  cases hroute : binding.route with
  | some first =>
    simp only [hroute] at h
    split at h
    · obtain ⟨rfl, rfl⟩ := pure_iff.mp h
      exact .refl binding rfl
    · exact (throw_iff.mp h).elim
  | none =>
    simp only [hroute, bind_iff] at h
    obtain ⟨_, _, htell, _, _, hschema, h⟩ := h
    obtain ⟨rfl, rfl⟩ := pure_iff.mp h
    refine .inr ⟨hroute, route, rfl, ?_⟩
    rw [modify_iff.mp hschema, (tell_silent htell).schemas]

theorem routeValue_marks {value : ShardValue} (h : routeValue setting binding value p = .ok after q) :
    Marks binding after p q := by
  unfold routeValue at h
  split at h
  · obtain ⟨_, _, htell, h⟩ := bind_iff.mp h
    obtain ⟨rfl, rfl⟩ := pure_iff.mp h
    exact .refl binding (tell_silent htell).schemas
  · obtain ⟨found, _, hask, h⟩ := bind_iff.mp h
    cases found with
    | none => exact (throw_iff.mp h).elim
    | some route => exact (Marks.refl binding (ask_silent hask).schemas).trans (acceptRoute_marks h)

theorem routeValues_marks {values : List ShardValue} (h : routeValues setting binding values p = .ok after q) :
    Marks binding after p q := by
  induction values generalizing binding p with
  | nil =>
    obtain ⟨rfl, rfl⟩ := pure_iff.mp h
    exact .refl binding rfl
  | cons value values ih =>
    obtain ⟨between, p', hvalue, hrest⟩ := bind_iff.mp h
    exact (routeValue_marks hvalue).trans (ih hrest)

theorem weigh_marks {column : ColumnRef} {evidence : Evidence}
    (h : weigh setting column binding evidence p = .ok after q) : Marks binding after p q := by
  obtain ⟨source, hsource, hfits⟩ := weigh_source h
  obtain ⟨p', hbefore, heq⟩ := weigh_eq column binding hsource hfits p
  rw [heq] at h
  obtain ⟨routed, hvalues, rfl⟩ := map_iff.mp h
  have hkept : (addSource setting source routed).route = routed.route := by
    unfold addSource
    split <;> rfl
  exact ((Marks.refl binding hbefore.schemas).trans (routeValues_marks hvalues)).trans (.inl ⟨hkept, rfl⟩)

theorem weighAll_marks {column : ColumnRef} {evidence : List Evidence}
    (h : weighAll setting column binding evidence p = .ok after q) : Marks binding after p q := by
  induction evidence generalizing binding p with
  | nil =>
    obtain ⟨rfl, rfl⟩ := pure_iff.mp h
    exact .refl binding rfl
  | cons first rest ih =>
    obtain ⟨between, p', hfirst, hrest⟩ := bind_iff.mp h
    exact (weigh_marks hfirst).trans (ih hrest)

/-! ### Steps -/

/-- A schema that some table, open or closed, is routed to. -/
def Uses (p : Progress) (schema : String) : Prop :=
  (∃ binding ∈ p.scope.bindings, ∃ route, binding.route = some route ∧ route.schema = schema) ∨
    ∃ table ∈ p.routed, table.route.schema = schema

/-- A step keeps the noted schemas in order, and notes those of the tables that it routes. -/
structure Notes (p q : Progress) : Prop where
  keeps : ∀ schema ∈ p.schemas, schema ∈ q.schemas
  sorted : p.schemas.Pairwise (· < ·) → q.schemas.Pairwise (· < ·)
  uses : ∀ schema, Uses p schema → Uses q schema
  used : ∀ schema ∈ q.schemas, schema ∈ p.schemas ∨ Uses q schema
  noted : (∀ schema, Uses p schema → schema ∈ p.schemas) → ∀ schema, Uses q schema → schema ∈ q.schemas

theorem Notes.refl (p : Progress) : Notes p p := ⟨fun _ h => h, id, fun _ h => h, fun _ h => .inl h, id⟩

theorem Notes.trans (h : Notes p q) (h' : Notes q r) : Notes p r where
  keeps schema hschema := h'.keeps schema (h.keeps schema hschema)
  sorted hsorted := h'.sorted (h.sorted hsorted)
  uses schema huses := h'.uses schema (h.uses schema huses)
  used schema hschema := by
    rcases h'.used schema hschema with hbefore | huses
    · exact (h.used schema hbefore).imp_right (h'.uses schema)
    · exact .inr huses
  noted hnoted := h'.noted (h.noted hnoted)

theorem mem_set_of_mem {α : Type} {l : List α} {i : Nat} {a b x : α} (hi : l[i]? = some b) (h : x ∈ l) :
    x ∈ l.set i a ∨ x = b := by
  obtain ⟨j, hj, rfl⟩ := List.getElem_of_mem h
  by_cases heq : i = j
  · subst heq
    exact .inr (Option.some.inj ((List.getElem?_eq_getElem hj).symm.trans hi))
  · exact .inl (List.mem_of_getElem? ((List.getElem?_set_ne heq).trans (List.getElem?_eq_getElem hj)))

/-- The schemas in use when one binding has got to know more. -/
theorem uses_update (after : Binding) {index : Nat} (hbound : p.scope.bindings[index]? = some binding)
    (hquiet : Quiet p q) (hroute : binding.route = none ∨ after.route = binding.route) (schema : String) :
    Uses { q with scope := q.scope.update index after } schema ↔
      Uses p schema ∨ ∃ route, after.route = some route ∧ route.schema = schema := by
  obtain ⟨hindex, -⟩ := List.getElem?_eq_some_iff.mp hbound
  unfold Uses Scope.update
  simp only [hquiet.scope, hquiet.routed]
  constructor
  · rintro (⟨other, hother, hfound⟩ | hclosed)
    · rcases List.mem_or_eq_of_mem_set hother with hother | rfl
      · exact .inl (.inl ⟨other, hother, hfound⟩)
      · exact .inr hfound
    · exact .inl (.inr hclosed)
  · rintro ((⟨other, hother, route, hother', rfl⟩ | hclosed) | hfound)
    · rcases mem_set_of_mem (a := after) hbound hother with hkept | rfl
      · exact .inl ⟨other, hkept, route, hother', rfl⟩
      · rcases hroute with hnone | hsame
        · cases hother'.symm.trans hnone
        · exact .inl ⟨after, List.mem_set hindex after, route, hsame.trans hother', rfl⟩
    · exact .inr hclosed
    · exact .inl ⟨after, List.mem_set hindex after, hfound⟩

theorem onKey_notes {predicate : KeyPredicate} {u : Unit} (h : onKey setting predicate p = .ok u q) :
    Notes p q := by
  rcases onKey_inv h with ⟨-, rfl⟩ | ⟨index, binding, after, p', hbound, -, hweigh, rfl⟩
  · exact .refl _
  obtain ⟨hquiet, -⟩ := weighAll_frame hweigh
  have hfound := resolve_bound hbound
  rcases weighAll_marks hweigh with ⟨hkept, hschemas⟩ | ⟨hnone, route, hroute, hschemas⟩
  · have huses := uses_update after hfound hquiet (.inr hkept)
    have hsame : ∀ schema, Uses { p' with scope := p'.scope.update index after } schema ↔ Uses p schema := by
      intro schema
      rw [huses]
      refine ⟨fun h => h.elim id ?_, .inl⟩
      rintro ⟨route, hroute, rfl⟩
      exact .inl ⟨binding, List.mem_of_getElem? hfound, route, hkept.symm.trans hroute, rfl⟩
    refine ⟨?_, ?_, fun schema => (hsame schema).mpr, ?_, ?_⟩
    all_goals simp only [hschemas]
    · exact fun _ h => h
    · exact id
    · exact fun _ h => .inl h
    · exact fun hnoted schema h => hnoted schema ((hsame schema).mp h)
  · have huses := uses_update after hfound hquiet (.inl hnone)
    refine ⟨?_, ?_, fun schema h => (huses schema).mpr (.inl h), ?_, ?_⟩
    all_goals simp only [hschemas, mem_insertName]
    · exact fun _ h => .inr h
    · exact insertName_sorted
    · rintro schema (rfl | h)
      · exact .inr ((huses _).mpr (.inr ⟨route, hroute, rfl⟩))
      · exact .inl h
    · intro hnoted schema h
      rcases (huses schema).mp h with h | ⟨_, hroute', rfl⟩
      · exact .inr (hnoted schema h)
      · cases hroute.symm.trans hroute'
        exact .inl rfl

theorem onOther_notes {left : Expr} {operator text : String} {u : Unit}
    (h : onOther left operator text p = .ok u q) : Notes p q := by
  rw [(onOther_inv h).1]
  exact .refl p

/-! ### Scopes -/

/-- What closing a scope with some bindings does to the schemas. -/
structure Adds (bindings : List Binding) (p q : Progress) (tables : List RoutedTable) : Prop where
  scope : q.scope = p.scope
  routed : q.routed = p.routed ++ tables
  keeps : ∀ schema ∈ p.schemas, schema ∈ q.schemas
  sorted : p.schemas.Pairwise (· < ·) → q.schemas.Pairwise (· < ·)
  settled : ∀ binding ∈ bindings, ∀ route, binding.route = some route → ∃ table ∈ tables, table.route = route
  used : ∀ schema ∈ q.schemas, schema ∈ p.schemas ∨ ∃ table ∈ tables, table.route.schema = schema
  noted : (∀ binding ∈ bindings, ∀ route, binding.route = some route → route.schema ∈ p.schemas) →
    ∀ table ∈ tables, table.route.schema ∈ q.schemas

theorem settle_adds {routed : RoutedTable} (h : settle setting binding p = .ok routed q) :
    Adds [binding] p { q with routed := q.routed ++ [routed] } [routed] := by
  obtain ⟨hquiet, hsettles⟩ := settle_inv h
  have hsettled : ∀ other ∈ [binding], ∀ route, other.route = some route →
      ∃ table ∈ [routed], table.route = route := by
    simp only [List.mem_singleton, forall_eq, exists_eq_left]
    exact fun route hroute => (hsettles.route route hroute).1
  unfold settle at h
  cases hroute : binding.route with
  | some route =>
    simp only [hroute] at h
    obtain ⟨rfl, rfl⟩ := pure_iff.mp h
    refine ⟨rfl, rfl, fun _ h => h, id, hsettled, fun _ h => .inl h, fun hnoted => ?_⟩
    simpa using hnoted binding (List.mem_singleton_self binding) route hroute
  | none =>
    simp only [hroute] at h
    obtain ⟨route, p', hfallback, h⟩ := bind_iff.mp h
    obtain ⟨_, _, hschema, h⟩ := bind_iff.mp h
    obtain ⟨rfl, rfl⟩ := pure_iff.mp h
    have hschemas := (fallbackRoute_inv hfallback).1.schemas
    rw [modify_iff.mp hschema] at hquiet ⊢
    refine ⟨hquiet.scope, congrArg (· ++ _) hquiet.routed, ?_, ?_, hsettled, ?_, fun _ => ?_⟩
    all_goals simp only [hschemas, mem_insertName]
    · exact fun _ h => .inr h
    · exact insertName_sorted
    · rintro schema (rfl | h)
      · exact .inr ⟨_, List.mem_singleton_self _, rfl⟩
      · exact .inl h
    · simp

theorem Adds.cons {bindings : List Binding} {table : RoutedTable} {tables : List RoutedTable}
    (h : Adds [binding] p q [table]) (h' : Adds bindings q r tables) :
    Adds (binding :: bindings) p r (table :: tables) where
  scope := h'.scope.trans h.scope
  routed := by rw [h'.routed, h.routed, List.append_assoc, List.singleton_append]
  keeps schema hschema := h'.keeps schema (h.keeps schema hschema)
  sorted hsorted := h'.sorted (h.sorted hsorted)
  settled := by
    refine List.forall_mem_cons.mpr ⟨fun route hroute => ?_, fun other hother route hroute => ?_⟩
    · obtain ⟨_, hmem, htable⟩ := h.settled binding (List.mem_singleton_self binding) route hroute
      exact ⟨table, List.mem_cons_self, List.mem_singleton.mp hmem ▸ htable⟩
    · obtain ⟨found, hfound, htable⟩ := h'.settled other hother route hroute
      exact ⟨found, List.mem_cons_of_mem _ hfound, htable⟩
  used schema hschema := by
    rcases h'.used schema hschema with hbefore | ⟨found, hfound, htable⟩
    · rcases h.used schema hbefore with hbefore | ⟨found, hfound, htable⟩
      · exact .inl hbefore
      · exact .inr ⟨found, List.mem_cons.mpr (.inl (List.mem_singleton.mp hfound)), htable⟩
    · exact .inr ⟨found, List.mem_cons_of_mem _ hfound, htable⟩
  noted hnoted := by
    obtain ⟨hfirst, hrest⟩ := List.forall_mem_cons.mp hnoted
    refine List.forall_mem_cons.mpr ⟨h'.keeps _ (h.noted ?_ table (List.mem_singleton_self table)), h'.noted ?_⟩
    · exact fun other hother => List.mem_singleton.mp hother ▸ hfirst
    · exact fun other hother route hroute => h.keeps _ (hrest other hother route hroute)

theorem closeScope_adds {aliases : Bool} {bindings : List Binding} {relocations : List Relocation}
    (h : closeScope setting aliases bindings p = .ok relocations q) : ∃ tables, Adds bindings p q tables := by
  induction bindings generalizing p relocations with
  | nil =>
    obtain ⟨rfl, rfl⟩ := pure_iff.mp h
    exact ⟨[], rfl, (List.append_nil _).symm, fun _ h => h, id, by simp, fun _ h => .inl h, by simp⟩
  | cons binding bindings ih =>
    obtain ⟨routed, p', hsettle, h⟩ := bind_iff.mp h
    obtain ⟨_, _, hadd, h⟩ := bind_iff.mp h
    obtain ⟨rest, hrest, -⟩ := map_iff.mp h
    obtain ⟨tables, hadds⟩ := ih hrest
    rw [modify_iff.mp hadd] at hadds
    exact ⟨routed :: tables, (settle_adds hsettle).cons hadds⟩

/-- Inside a scope its fresh tables use no schema, and all tables that it has routed are settled when it closes. -/
theorem runScope_notes {aliases : Bool} {step : Walk Unit} {sites : List Site} {u : Unit}
    (hstep : ∀ p₀ p', bindSites setting depth sites { p with scope := {} } = .ok () p₀ → step p₀ = .ok () p' →
      Notes p₀ p')
    (h : runScope setting aliases (bindSites setting depth sites >>= fun _ => step) p = .ok u q) : Notes p q := by
  obtain ⟨⟨_, scope⟩, _, hscope, hclose⟩ := bind_iff.mp h
  obtain ⟨p', hinner, hleft, rfl⟩ := inScope_iff.mp hscope
  obtain rfl : scope = p'.scope := hleft
  obtain ⟨_, p₀, hbind, hrun⟩ := bind_iff.mp hinner
  obtain ⟨relocations, hclose, -⟩ := map_iff.mp hclose
  obtain ⟨tables, hadds⟩ := closeScope_adds hclose
  obtain ⟨_, hbind', hentered, hrouted⟩ := bindSites_run setting depth sites { p with scope := {} }
  cases hbind.symm.trans hbind'
  have hschemas : p₀.schemas = ({ p with scope := {} } : Progress).schemas := bindSites_schemas hbind
  have hnotes := hstep p₀ p' hbind hrun
  have hfresh : ∀ schema, Uses p₀ schema ↔ ∃ table ∈ p.routed, table.route.schema = schema := by
    intro schema
    unfold Uses
    rw [hrouted, hentered, Scope.enter_bindings]
    refine or_iff_right ?_
    rintro ⟨binding, hbinding, route, hroute, -⟩
    obtain ⟨site, -, hsite⟩ := List.mem_filterMap.mp hbinding
    cases (Site.binding?_fresh hsite).1.symm.trans hroute
  have hleft : ∀ schema, Uses p' schema → Uses q schema := by
    rintro schema (⟨binding, hbinding, route, hroute, rfl⟩ | ⟨table, htable, rfl⟩)
    · obtain ⟨table, htable, rfl⟩ := hadds.settled binding hbinding route hroute
      exact .inr ⟨table, hadds.routed ▸ List.mem_append_right _ htable, rfl⟩
    · exact .inr ⟨table, hadds.routed ▸ List.mem_append_left _ htable, rfl⟩
  constructor
  · exact fun schema hschema => hadds.keeps schema (hnotes.keeps schema (hschemas ▸ hschema))
  · exact fun hsorted => hadds.sorted (hnotes.sorted (hschemas ▸ hsorted))
  · rintro schema (hopen | hclosed)
    · exact .inl (hadds.scope ▸ hopen)
    · exact hleft schema (hnotes.uses schema ((hfresh schema).mpr hclosed))
  · intro schema hschema
    rcases hadds.used schema hschema with hschema | ⟨table, htable, rfl⟩
    · exact (hnotes.used schema hschema).imp (fun hschema => hschemas ▸ hschema) (hleft schema)
    · exact .inr (.inr ⟨table, hadds.routed ▸ List.mem_append_right _ htable, rfl⟩)
  · intro hnoted
    have hinside : ∀ schema, Uses p' schema → schema ∈ p'.schemas :=
      hnotes.noted fun schema huses => hschemas ▸ hnoted schema (.inr ((hfresh schema).mp huses))
    rintro schema (hopen | ⟨table, htable, rfl⟩)
    · have hbefore := hnoted schema (.inl (hadds.scope ▸ hopen))
      exact hadds.keeps schema (hnotes.keeps schema (hschemas ▸ hbefore))
    · rcases List.mem_append.mp (hadds.routed ▸ htable) with htable | htable
      · exact hadds.keeps _ (hinside _ (.inr ⟨table, htable, rfl⟩))
      · refine hadds.noted (fun binding hbinding route hroute => ?_) table htable
        exact hinside _ (.inl ⟨binding, hbinding, route, hroute, rfl⟩)

mutual

theorem runStep_notes : ∀ (step : Step) {depth : Nat} {p q : Progress} {u : Unit},
    runStep setting depth step p = .ok u q → Notes p q
  | .key _, _, _, _, _, h => onKey_notes h
  | .other _ _ _, _, _, _, _, h => onOther_notes h
  | .scope _ _ steps, _, _, _, _, h => runScope_notes (fun _ _ _ hrun => runSteps_notes steps hrun) h

theorem runSteps_notes : ∀ (steps : List Step) {depth : Nat} {p q : Progress} {u : Unit},
    runSteps setting depth steps p = .ok u q → Notes p q
  | [], _, p, _, _, h => by
    obtain ⟨-, rfl⟩ := pure_iff.mp h
    exact .refl p
  | step :: steps, _, _, _, _, h => by
    obtain ⟨_, p', hstep, hsteps⟩ := bind_iff.mp h
    exact (runStep_notes step hstep).trans (runSteps_notes steps hsteps)

end

end Walk

/-! ### Statements -/

variable {setting : Setting} {statement : Statement} {routed : Routed}

/-- The schemas of a routed statement are those of the routes of its tables. -/
theorem routeStatement_schemas (h : (Router.routeStatement setting statement).result = .ok routed) :
    routed.schemas = schemasOf routed.tables := by
  obtain ⟨tree, p, hwalk, rfl⟩ := Outcome.ofWalk_iff.mp h
  have hruns : effect (walkStatement setting 0 statement) = _ := walkStatement_runs statement 0
  have hrun : runSteps setting 0 statement.steps {} = .ok () p := hruns ▸ effect_iff.mpr ⟨tree, hwalk⟩
  have hnotes := runSteps_notes statement.steps hrun
  -- no scope is open at the end
  obtain ⟨sketch, hsketch, hfollows⟩ := (Follows.start setting).run statement.steps hrun
  have hnone := (Sketch.run_grows statement.steps hsketch).bindings
  have hempty : p.scope.bindings = [] := by
    have hbindings := hfollows.bindings
    rw [List.forall₂_nil_left_iff.mp hnone] at hbindings
    exact List.forall₂_nil_left_iff.mp hbindings
  have huses : ∀ schema, Uses p schema ↔ ∃ table ∈ p.routed, table.route.schema = schema := by
    simp [Uses, hempty]
  have hnothing : ∀ schema, ¬Uses {} schema := by simp [Uses]
  refine sorted_unique (hnotes.sorted .nil) (schemasOf_sorted p.routed) fun schema => ?_
  rw [mem_schemasOf, ← huses]
  constructor
  · intro hschema
    exact (hnotes.used schema hschema).resolve_left (List.not_mem_nil)
  · exact hnotes.noted (fun other huse => absurd huse (hnothing other)) schema

/-- A schema is in use exactly when a routed table lies in it, and it is listed once, in order. -/
theorem schemas_of_tables (h : (Router.routeStatement setting statement).result = .ok routed) :
    (∀ schema, schema ∈ routed.schemas ↔ ∃ table ∈ routed.tables, table.route.schema = schema) ∧
      routed.schemas.Pairwise (· < ·) := by
  rw [routeStatement_schemas h]
  exact ⟨fun _ => mem_schemasOf, schemasOf_sorted routed.tables⟩

namespace Sample

/-- Overrides that send the orders to `archive.orders`. -/
def archived : OverrideStore := OverrideStore.empty.set none "orders" (.route ⟨"archive", "orders"⟩)

/-- `SELECT total FROM orders, (SELECT total FROM orders WHERE id = 1) AS past WHERE total = 4`. -/
def nested : Statement :=
  .query (query (.select (select
    [orders, .derived false
      (query (.select (select [orders] (.binary id .eq (literal "1"))))) (some { name := ⟨"past", none⟩ })]
    (.binary (.ident ⟨"total", none⟩) .eq (literal "4")))))

end Sample

/-- A predicate decides on the orders of the derived table, an override on those around it. -/
theorem schemas_of_tables_nested :
    ∃ routed, (Router.routeStatement (Sample.router.setting [] Sample.archived {} .empty) Sample.nested).result =
        .ok routed ∧
      routed.tables.map (·.route) = [⟨"main", "orders_odd"⟩, ⟨"archive", "orders"⟩] ∧
      (∀ schema, schema ∈ routed.schemas ↔ ∃ table ∈ routed.tables, table.route.schema = schema) ∧
      routed.schemas.Pairwise (· < ·) := by
  obtain ⟨routed, h, hroutes⟩ : ∃ routed,
      (Router.routeStatement (Sample.router.setting [] Sample.archived {} .empty) Sample.nested).result =
        .ok routed ∧ routed.tables.map (·.route) = [⟨"main", "orders_odd"⟩, ⟨"archive", "orders"⟩] := ⟨_, rfl, rfl⟩
  exact ⟨routed, h, hroutes, schemas_of_tables h⟩

end ShardRouting
