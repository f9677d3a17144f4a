import ShardRouting.Proofs.Deletions

/-! The list of a deletion. A name in it follows the first bound table without alias that it means and that is written
    like it, with a schema or without. A missing schema is read as the default schema everywhere else, but not here: a
    name with the default schema does not follow a table without schema, nor the other way round. -/

namespace ShardRouting
open Sql Walk

/-! ### Names that mean one table -/

/-- Two names mean one table: a missing schema is the default schema, and the case of ASCII letters does not count. -/
def Coincide (defaultSchema : Option String) (name other : ObjectName) : Prop :=
  ∃ schema table schema' table', name.split? = some (schema, table) ∧ other.split? = some (schema', table') ∧
    Text.sameAscii table'.value table.value = true ∧
    Option.Rel (fun s t => Text.sameAscii s t = true) ((schema.map Ident.value).or defaultSchema)
      ((schema'.map Ident.value).or defaultSchema)

/-- Two names are written alike: both with a schema, or both without. -/
def SpelledAlike (name other : ObjectName) : Prop :=
  name.split?.map (fun parts => parts.1.isSome) = other.split?.map fun parts => parts.1.isSome

/-- Names are compared as they are written. -/
theorem names_iff (defaultSchema : Option String) {name other : ObjectName} :
    names name other = true ↔ Coincide defaultSchema name other ∧ SpelledAlike name other := by
  have hsame : Option.Rel (fun s t => Text.sameAscii s t = true) defaultSchema defaultSchema := by
    cases defaultSchema with
    | none => exact .none
    | some default => exact .some (Text.sameAscii_refl default)
  unfold names Coincide SpelledAlike
  cases name.split? with
  | none => simp
  | some parts =>
    cases other.split? with
    | none => simp
    | some parts' =>
      obtain ⟨schema, table⟩ := parts
      obtain ⟨schema', table'⟩ := parts'
      cases schema <;> cases schema' <;> simp [hsame]

/-- A table without alias that is bound and that a name in the list of its deletion means. -/
structure Factor.Meant (setting : Setting) (target : ObjectName) (factor : Factor) : Prop where
  unaliased : factor.alias_ = none
  sharded : Reference.sharded setting { name := factor.name } = true
  coincide : Coincide setting.options.defaultSchema target factor.name

/-! ### The first table that is followed -/

section
variable {naming : Naming} {home : Factor → Option Destination} {target : ObjectName}

/-- A name follows a table that has a home, no alias, and is named like it. -/
structure Factor.Leads (home : Factor → Option Destination) (target : ObjectName) (factor : Factor) : Prop where
  housed : (home factor).isSome = true
  unaliased : factor.alias_ = none
  named : names target factor.name = true

theorem follow_cons_of_not {factor : Factor} (h : ¬factor.Leads home target) (fs : List Factor) :
    naming.follow (Factor.homes home (factor :: fs)) target = naming.follow (Factor.homes home fs) target := by
  unfold Naming.follow
  rw [Factor.homes_cons]
  cases hhome : home factor with
  | none => rfl
  | some route =>
    rw [Option.map_some, Option.toList_some, List.singleton_append, List.find?_cons_of_neg]
    intro hnamed
    simp only [Bool.and_eq_true, Option.isNone_iff_eq_none] at hnamed
    exact h ⟨by rw [hhome]; rfl, hnamed.1, hnamed.2⟩

theorem follow_cons_of_leads {factor : Factor} {route : Destination} (h : factor.Leads home target)
    (hhome : home factor = some route) (fs : List Factor) :
    naming.follow (Factor.homes home (factor :: fs)) target = rename naming.defaultSchema route target := by
  unfold Naming.follow
  rw [Factor.homes_cons, hhome, Option.map_some, Option.toList_some, List.singleton_append, List.find?_cons_of_pos]
  · rfl
  · simp [h.unaliased, h.named]

theorem follow_none {fs : List Factor} (h : ∀ factor ∈ fs, ¬factor.Leads home target) :
    naming.follow (Factor.homes home fs) target = target := by
  induction fs with
  | nil => rfl
  | cons factor fs ih =>
    obtain ⟨hfirst, hrest⟩ := List.forall_mem_cons.mp h
    rw [follow_cons_of_not hfirst, ih hrest]

/-- A name follows the first table that leads it. -/
theorem follow_first {fs : List Factor} {j : Nat} {factor : Factor} {route : Destination}
    (hfactor : fs[j]? = some factor) (h : factor.Leads home target) (hhome : home factor = some route)
    (hbefore : ∀ k < j, ∀ other, fs[k]? = some other → ¬other.Leads home target) :
    naming.follow (Factor.homes home fs) target = rename naming.defaultSchema route target := by
  induction fs generalizing j with
  | nil => cases hfactor
  | cons first fs ih =>
    cases j with
    | zero =>
      cases hfactor
      exact follow_cons_of_leads h hhome fs
    | succ j =>
      rw [follow_cons_of_not (hbefore 0 j.succ_pos first rfl)]
      exact ih hfactor fun k hk other hother => hbefore (k + 1) (Nat.succ_lt_succ hk) other hother

end

/-! ### Tables of a deletion -/

variable {setting : Setting} {statement : Statement} {routed : Routed} {delete : Delete} {factor : Factor}

theorem mem_sites {fs : List Factor} (h : factor ∈ fs) : ∀ index : Nat, ∃ site ∈ Factor.sites index fs,
    site.name = factor.name ∧ site.alias_ = factor.alias_.map fun alias_ => alias_.name.value := by
  induction fs with
  | nil => cases h
  | cons first fs ih =>
    intro index
    rcases List.mem_cons.mp h with rfl | h
    · exact ⟨_, List.mem_cons_self, rfl, rfl⟩
    · obtain ⟨site, hsite, hname, halias⟩ := ih h (index + 1)
      exact ⟨site, List.mem_cons_of_mem _ hsite, hname, halias⟩

/-- A table has a home only if it is sharded. -/
theorem sharded_of_home {steps : List Step} {route : Destination} (h : setting.home? steps factor = some route) :
    Reference.sharded setting { name := factor.name } = true := by
  obtain ⟨binding, hbinding, -⟩ := Option.bind_eq_some_iff.mp h
  have hsharded : setting.naming.sharded factor.name = true := by rw [setting.naming_eq, hbinding, Option.isSome_some]
  exact hsharded

/-- A sharded table of a deletion in a routed statement has its home at the route of a routed table. -/
theorem home_of_sharded (h : (Router.routeStatement setting statement).result = .ok routed)
    (hdelete : delete ∈ statement.deletes) (hfactor : factor ∈ delete.tables)
    (hsharded : Reference.sharded setting { name := factor.name } = true) :
    ∃ table ∈ routed.tables,
      Reference.logical? setting.options.defaultSchema { name := factor.name } = some (table.schema, table.table) ∧
      setting.home? (Step.inside delete.steps) factor = some table.route := by
  have hbound : (setting.bindingAt? factor).isSome = true := (setting.naming_eq factor).symm.trans hsharded
  obtain ⟨binding, hbinding⟩ := Option.isSome_iff_exists.mp hbound
  obtain ⟨site, hsite, hname, halias⟩ := mem_sites hfactor 0
  have hsame : setting.bindingOf? site.name site.alias_ = some binding := by rw [hname, halias]; exact hbinding
  have hblock := (deletes_routed h).blocks delete hdelete
  obtain ⟨table, htable, hschema, hlogical, hhome⟩ := home?_of_routed h hblock hsite hsame
  obtain ⟨-, schema, hsplit, hdefault, -⟩ := Site.binding?_some hbinding
  have hsplit' : factor.name.split? = some (schema, binding.table) := hsplit
  refine ⟨table, htable, ?_, ?_⟩
  · simp only [Reference.logical?, hsplit', Option.map_some, hdefault, hschema, hlogical]
  · rw [Site.home?, hsame] at hhome
    rw [Setting.home?, hbinding]
    exact hhome

/-! ### Names in the lists of deletions -/

/-- What becomes of a name in the list of a deletion, whose tables are `before` and then `after`. -/
structure Followed (setting : Setting) (tables : List RoutedTable) (before after : List Factor)
    (target followed : ObjectName) : Prop where
  /-- It is renamed for the destination of the first bound table without alias that it means and is spelled like,
      as that table is itself. -/
  moved : ∀ (j : Nat) (factor : Factor), before[j]? = some factor → factor.Meant setting target →
    SpelledAlike target factor.name →
      (∀ k < j, ∀ other, before[k]? = some other → other.Meant setting target → ¬SpelledAlike target other.name) →
        ∃ renamed, ∃ table ∈ tables, after[j]? = some renamed ∧
          Reference.logical? setting.options.defaultSchema { name := factor.name } = some (table.schema, table.table) ∧
          Addresses setting.options.defaultSchema renamed.name table.route ∧
          Addresses setting.options.defaultSchema followed table.route
  /-- It stays if it is spelled like none of those that it means. -/
  kept : (∀ factor ∈ before, factor.Meant setting target → ¬SpelledAlike target factor.name) → followed = target

theorem leads_iff {steps : List Step} {target : ObjectName} : factor.Leads (setting.home? steps) target ↔
    (setting.home? steps factor).isSome = true ∧ factor.Meant setting target ∧ SpelledAlike target factor.name := by
  constructor
  · rintro ⟨hhoused, hunaliased, hnamed⟩
    obtain ⟨route, hroute⟩ := Option.isSome_iff_exists.mp hhoused
    obtain ⟨hcoincide, halike⟩ := (names_iff setting.options.defaultSchema).mp hnamed
    exact ⟨hhoused, ⟨hunaliased, sharded_of_home hroute, hcoincide⟩, halike⟩
  · rintro ⟨hhoused, hmeant, halike⟩
    exact ⟨hhoused, hmeant.unaliased, (names_iff setting.options.defaultSchema).mpr ⟨hmeant.coincide, halike⟩⟩

theorem targets_placed (delete : Delete) : (delete.placed setting).targets =
    delete.targets.map
      (setting.naming.follow (Factor.homes (setting.home? (Step.inside delete.steps)) delete.tables)) := by
  cases delete
  rfl

theorem followed (h : (Router.routeStatement setting statement).result = .ok routed)
    (hdelete : delete ∈ statement.deletes) (target : ObjectName) :
    Followed setting routed.tables delete.tables
      (delete.tables.map (Factor.moved setting.naming (setting.home? (Step.inside delete.steps)) false)) target
      (setting.naming.follow (Factor.homes (setting.home? (Step.inside delete.steps)) delete.tables) target) where
  moved j factor hfactor hmeant halike hbefore := by
    obtain ⟨table, htable, hlogical, hhome⟩ :=
      home_of_sharded h hdelete (List.mem_of_getElem? hfactor) hmeant.sharded
    have hleads : factor.Leads (setting.home? (Step.inside delete.steps)) target :=
      leads_iff.mpr ⟨by rw [hhome]; rfl, hmeant, halike⟩
    have hfirst : ∀ k < j, ∀ other, delete.tables[k]? = some other →
        ¬other.Leads (setting.home? (Step.inside delete.steps)) target := by
      intro k hk other hother hleads'
      obtain ⟨-, hmeant', halike'⟩ := leads_iff.mp hleads'
      exact hbefore k hk other hother hmeant' halike'
    obtain ⟨_, _, _, _, htarget, hname, -⟩ := hmeant.coincide
    refine ⟨_, table, htable, by rw [List.getElem?_map, hfactor, Option.map_some], hlogical, ?_, ?_⟩
    · rw [Factor.moved, hhome]
      exact rename_addresses setting.options.defaultSchema table.route (ne_nil_of_split? hname)
    · rw [follow_first hfactor hleads hhome hfirst]
      exact rename_addresses setting.options.defaultSchema table.route (ne_nil_of_split? htarget)
  kept hunlike := by
    refine follow_none fun factor hfactor hleads => ?_
    obtain ⟨-, hmeant, halike⟩ := leads_iff.mp hleads
    exact hunlike factor hfactor hmeant halike

/-- In a routed statement every name in the list of a deletion, at any depth, follows the first bound table without
    alias that it means among those that are spelled like it, with a schema or without; if there is none, it stays as
    it is. -/
theorem targets_follow_alike (h : (Router.routeStatement setting statement).result = .ok routed) :
    List.Forall₂ (fun delete after : Delete =>
        List.Forall₂ (Followed setting routed.tables delete.tables after.tables) delete.targets after.targets)
      statement.deletes routed.statement.deletes := by
  rw [(deletes_routed h).placed, List.forall₂_map_right_iff, List.forall₂_same]
  intro delete hdelete
  rw [targets_placed, tables_placed, List.forall₂_map_right_iff, List.forall₂_same]
  exact fun target _ => followed h hdelete target

namespace Sample

/-- `DELETE target FROM orders WHERE id = 4`. -/
def deletion (target : ObjectName) : Delete where
  targets := [target]
  fromKeyword := true
  from_ := [orders]
  using_ := none
  selection := some (.binary id .eq (literal "4"))
  returning := []
  orderBy := []
  limit := none

/-- What statements are routed with where the orders with even keys lie in the default schema. -/
def homely : Setting := Router.setting { engine, options := { defaultSchema := some "main" } } [] .empty {} .empty

/-- The orders that the deletion deletes from. -/
def unnamed : Factor := ⟨[⟨"orders", none⟩], none⟩

theorem unnamed_meant {target : ObjectName} (h : Coincide (some "main") target unnamed.name) :
    unnamed.Meant homely target := ⟨rfl, rfl, h⟩

end Sample

/-- The orders named without schema follow the orders. -/
theorem targets_follow_alike_orders :
    ∃ routed, ∃ after ∈ routed.statement.deletes, ∃ followed ∈ after.targets, ∃ table ∈ routed.tables,
      (Router.routeStatement Sample.homely (.delete (Sample.deletion [⟨"orders", none⟩]))).result = .ok routed ∧
      table.schema = some "main" ∧ table.table = "orders" ∧ Addresses (some "main") followed table.route := by
  obtain ⟨routed, h⟩ : ∃ routed,
      (Router.routeStatement Sample.homely (.delete (Sample.deletion [⟨"orders", none⟩]))).result = .ok routed :=
    ⟨_, rfl⟩
  have hmeant : Sample.unnamed.Meant Sample.homely [⟨"orders", none⟩] :=
    Sample.unnamed_meant ⟨none, _, none, _, rfl, rfl, rfl, .some rfl⟩
  obtain ⟨after, hafter, htargets⟩ := exists_right_of_mem (targets_follow_alike h) List.mem_cons_self
  obtain ⟨followed, hfollowed, hfollows⟩ := exists_right_of_mem htargets List.mem_cons_self
  obtain ⟨-, table, htable, -, hlogical, -, haddresses⟩ := hfollows.moved 0 Sample.unnamed rfl hmeant rfl nofun
  obtain ⟨hschema, hname⟩ := Prod.mk.inj (Option.some.inj hlogical)
  exact ⟨routed, after, hafter, followed, hfollowed, table, htable, h, hschema.symm, hname.symm, haddresses⟩

/-- The same orders, named with the default schema, are left behind when the orders are renamed. -/
theorem target_left_behind :
    ∃ routed after,
      (Router.routeStatement Sample.homely
        (.delete (Sample.deletion [⟨"main", none⟩, ⟨"orders", none⟩]))).result = .ok routed ∧
      (Sample.deletion [⟨"main", none⟩, ⟨"orders", none⟩]).tables = [Sample.unnamed] ∧
      Sample.unnamed.Meant Sample.homely [⟨"main", none⟩, ⟨"orders", none⟩] ∧
      routed.statement.deletes = [after] ∧
      after.targets = [[⟨"main", none⟩, ⟨"orders", none⟩]] ∧
      after.tables.map Factor.name = [[⟨"orders_even", none⟩]] := by
  refine ⟨_, _, rfl, rfl, Sample.unnamed_meant ?_, rfl, rfl, rfl⟩
  exact ⟨some _, _, none, _, rfl, rfl, rfl, .some rfl⟩

end ShardRouting
