import ShardRouting.Proofs.Landing

/-! Relocations and references. The relocations of a closed scope, written into its tables by their numbers,
    land on the very references that were bound. -/

namespace ShardRouting
open Sql Walk

variable {setting : Setting} {defaultSchema : Option String} {relocations : List Relocation}

/-! ### Sites -/

/-- A binding as it was made, whatever predicates have said since. -/
def Binding.identity (binding : Binding) : Binding :=
  { binding with seenKey := none, route := none, sources := [] }

/-- The name of a site under some relocations. -/
def Site.relocated (defaultSchema : Option String) (relocations : List Relocation) (site : Site) : ObjectName :=
  match relocations.find? (·.slot = site.slot) with
  | some relocation => rename defaultSchema relocation.route site.name
  | none => site.name

theorem Site.binding?_some {site : Site} {binding : Binding} (h : site.binding? setting = some binding) :
    binding.slot = site.slot ∧ ∃ schema, site.name.split? = some (schema, binding.table) ∧
      (schema.map Ident.value).or setting.options.defaultSchema = binding.schema ∧
      setting.engine.shardKey? setting.context binding.schema binding.table.value = some binding.key := by
  unfold binding? at h
  split at h
  · cases h
  · obtain ⟨key, hkey, rfl⟩ := Option.map_eq_some_iff.mp h
    exact ⟨rfl, _, ‹_›, rfl, hkey⟩

/-- The reference of a site is bound if the site binds something. -/
theorem Site.bound_eq (setting : Setting) (site : Site) {reference : Reference} (hname : reference.name = site.name)
    (hwalked : reference.walked = true) : reference.bound setting = (site.binding? setting).isSome := by
  unfold Reference.bound Reference.sharded Reference.logical? Site.binding?
  rw [hname, hwalked, Bool.true_and]
  cases site.name.split? with
  | none => rfl
  | some parts => exact (Option.isSome_map ..).symm

/-- Relocations of other sites change nothing. -/
theorem Site.relocated_of_ne {site : Site} (h : ∀ relocation ∈ relocations, relocation.slot ≠ site.slot) :
    site.relocated defaultSchema relocations = site.name := by
  have hnone : relocations.find? (·.slot = site.slot) = none := by
    rw [List.find?_eq_none]
    exact fun relocation hrelocation => by simp [h relocation hrelocation]
  simp only [relocated, hnone]

theorem Site.relocated_cons {site : Site} {relocation : Relocation} :
    site.relocated defaultSchema (relocation :: relocations) =
      if relocation.slot = site.slot then rename defaultSchema relocation.route site.name
      else site.relocated defaultSchema relocations := by
  unfold relocated
  rw [List.find?_cons]
  by_cases h : relocation.slot = site.slot
  · simp [h]
  · simp [h]

theorem slots_of_identity {bindings others : List Binding}
    (h : bindings.map Binding.identity = others.map Binding.identity) :
    bindings.map Binding.slot = others.map Binding.slot := by
  have hslot : ∀ l : List Binding, (l.map Binding.identity).map Binding.slot = l.map Binding.slot :=
    fun l => List.map_map
  rw [← hslot bindings, ← hslot others, h]

theorem slot_mem_sites {sites : List Site} {bindings : List Binding}
    (hsame : bindings.map Binding.identity = (sites.filterMap (Site.binding? setting)).map Binding.identity)
    {slot : Slot} (h : slot ∈ bindings.map Binding.slot) : slot ∈ sites.map Site.slot := by
  rw [slots_of_identity hsame] at h
  obtain ⟨binding, hbinding, rfl⟩ := List.mem_map.mp h
  obtain ⟨site, hsite, hfound⟩ := List.mem_filterMap.mp hbinding
  rw [(Site.binding?_some hfound).1]
  exact List.mem_map_of_mem hsite

theorem slot_of_relocationFor {aliases : Bool} {bindings : List Binding} {tables : List RoutedTable}
    {relocation : Relocation} (h : relocation ∈ List.zipWith (relocationFor setting aliases) bindings tables) :
    relocation.slot ∈ bindings.map Binding.slot := by
  induction bindings generalizing tables with
  | nil => cases h
  | cons binding bindings ih =>
    cases tables with
    | nil => cases h
    | cons table tables =>
      rcases List.mem_cons.mp h with rfl | h
      · exact List.mem_cons_self
      · exact List.mem_cons_of_mem _ (ih h)

/-- A relocation of another place than some sites does not reach them. -/
theorem Site.relocated_others {sites : List Site} {relocation : Relocation}
    (h : relocation.slot ∉ sites.map Site.slot) :
    sites.map (Site.relocated defaultSchema (relocation :: relocations)) =
      sites.map (Site.relocated defaultSchema relocations) := by
  refine List.map_congr_left fun other hother => Site.relocated_cons.trans (if_neg fun heq => h ?_)
  rw [heq]
  exact List.mem_map_of_mem hother

/-- The settled table of a site is the one that its reference means. -/
theorem Site.logical_of_settles {site : Site} {made binding : Binding} {table : RoutedTable} {reference : Reference}
    (hname : reference.name = site.name) (hfound : site.binding? setting = some made)
    (hsame : binding.identity = made.identity) (hsettles : Settles setting binding table) :
    binding.slot = site.slot ∧
      reference.logical? setting.options.defaultSchema = some (table.schema, table.table) := by
  obtain ⟨hslot, hschema, htable, -⟩ := Binding.mk.inj hsame
  obtain ⟨hmade, schema, hsplit, hlogical, -⟩ := binding?_some hfound
  refine ⟨hslot.trans hmade, ?_⟩
  simp only [Reference.logical?, hname, hsplit, Option.map_some, hlogical, hsettles.schema, hsettles.table,
    hschema, htable]

theorem Site.name_ne_nil {site : Site} {binding : Binding} (h : site.binding? setting = some binding) :
    site.name ≠ [] := by
  obtain ⟨-, schema, hsplit, -⟩ := binding?_some h
  exact ne_nil_of_split? hsplit

/-- The tables of a closed scope land on the references of its sites. -/
theorem landed_sites (aliases : Bool) {sites : List Site} {bindings : List Binding} {tables : List RoutedTable}
    (reference : Site → Reference) (hname : ∀ site, (reference site).name = site.name)
    (hwalked : ∀ site, (reference site).walked = true) (hslots : (sites.map Site.slot).Nodup)
    (hsame : bindings.map Binding.identity = (sites.filterMap (Site.binding? setting)).map Binding.identity)
    (hsettles : List.Forall₂ (Settles setting) bindings tables) :
    Landed setting (Reference.bound setting) (sites.map reference)
      (sites.map (Site.relocated setting.options.defaultSchema
        (List.zipWith (relocationFor setting aliases) bindings tables))) tables := by
  induction sites generalizing bindings tables with
  | nil =>
    cases List.map_eq_nil_iff.mp hsame
    cases hsettles
    exact .nil
  | cons site sites ih =>
    obtain ⟨hfresh, hrest⟩ := List.nodup_cons.mp hslots
    have hbound := Site.bound_eq setting site (hname site) (hwalked site)
    cases hfound : site.binding? setting with
    | none =>
      rw [hfound] at hbound
      rw [List.filterMap_cons_none hfound] at hsame
      have hother : ∀ relocation ∈ List.zipWith (relocationFor setting aliases) bindings tables,
          relocation.slot ≠ site.slot :=
        fun _ hrelocation heq => hfresh (heq ▸ slot_mem_sites hsame (slot_of_relocationFor hrelocation))
      rw [List.map_cons, List.map_cons, Site.relocated_of_ne hother, ← hname site]
      exact .kept hbound (ih hrest hsame hsettles)
    | some made =>
      rw [hfound] at hbound
      rw [List.filterMap_cons_some hfound] at hsame
      cases hsettles with
      | nil => cases hsame
      | @cons binding table bindings tables hfirst hsettles =>
        obtain ⟨hhead, htail⟩ := List.cons.inj hsame
        obtain ⟨hslot, hlogical⟩ := Site.logical_of_settles (hname site) hfound hhead hfirst
        have hothers : (relocationFor setting aliases binding table).slot ∉ sites.map Site.slot :=
          fun hmem => hfresh (hslot ▸ hmem)
        rw [List.map_cons, List.map_cons, List.zipWith_cons_cons, Site.relocated_others hothers,
          Site.relocated_cons, if_pos (show (relocationFor setting aliases binding table).slot = site.slot from hslot)]
        exact .moved hbound hlogical (rename_addresses _ _ (Site.name_ne_nil hfound)) (ih hrest htail hsettles)

/-! ### Numbered tables -/

theorem Factor.sites_append (index : Nat) (fs gs : List Factor) :
    Factor.sites index (fs ++ gs) = Factor.sites index fs ++ Factor.sites (index + fs.length) gs := by
  induction fs generalizing index with
  | nil => rfl
  | cons f fs ih =>
    simp only [List.cons_append, Factor.sites, ih, List.length_cons, Nat.add_assoc, Nat.add_comm 1]

theorem Factor.references_sites (common : List Ident) (index : Nat) (fs : List Factor) :
    (Factor.sites index fs).map (fun site => Reference.ofName common site.name) =
      fs.map (Factor.reference common) := by
  induction fs generalizing index with
  | nil => rfl
  | cons f fs ih => exact congrArg _ (ih (index + 1))

theorem Factor.slots_sites (index : Nat) (fs : List Factor) :
    (Factor.sites index fs).map Site.slot = (List.range' index fs.length).map Slot.factor := by
  induction fs generalizing index with
  | nil => rfl
  | cons f fs ih => simp only [Factor.sites, List.map_cons, List.length_cons, List.range'_succ, ih]

theorem Factor.slots_nodup (index : Nat) (fs : List Factor) : ((Factor.sites index fs).map Site.slot).Nodup := by
  rw [slots_sites]
  exact List.Pairwise.map _ (fun _ _ hne heq => hne (Slot.factor.inj heq)) List.nodup_range'

/-- A walk and a relocation leave the number of tables as it is. -/
theorem tableFactors_relocateTable : ∀ (table : TableRef) (index : Nat),
    (tableFactors (relocateTable defaultSchema relocations index table)).map Factor.name =
      (Factor.sites index (tableFactors table)).map (Site.relocated defaultSchema relocations)
  | .table name arguments alias_ hints, index => by
    simp only [relocateTable, relocationAt?, tableFactors, Factor.sites, List.map_cons, List.map_nil, Site.relocated]
    cases relocations.find? (·.slot = .factor index) <;> rfl
  | .nested inner alias_, index => tableFactors_relocateTable inner index
  | .join left words right matching on using_, index => by
    simp only [relocateTable, tableFactors, List.map_append, Factor.sites_append,
      tableFactors_relocateTable left, tableFactors_relocateTable right]
  | .derived .., _ => rfl
  | .turned .., _ => rfl
  | .other .., _ => rfl

theorem factors_relocateTables (tables : List TableRef) (index : Nat) :
    (factors (relocateTables defaultSchema relocations index tables)).map Factor.name =
      (Factor.sites index (factors tables)).map (Site.relocated defaultSchema relocations) := by
  induction tables generalizing index with
  | nil => rfl
  | cons table tables ih =>
    simp only [factors] at ih
    simp only [relocateTables, factors, List.flatMap_cons, List.map_append, Factor.sites_append,
      tableFactors_relocateTable, ih]

/-- Nothing but the numbered tables of a scope is renamed with it. -/
theorem inner_relocateTable (common : List Ident) : ∀ (table : TableRef) (index : Nat),
    (relocateTable defaultSchema relocations index table).inner common = table.inner common
  | .table name arguments alias_ hints, index => by
    simp only [relocateTable]
    split <;> rfl
  | .nested inner alias_, index => inner_relocateTable common inner index
  | .join left words right matching on using_, index => by
    simp only [relocateTable, TableRef.inner, inner_relocateTable common left, inner_relocateTable common right]
  | .derived .., _ => rfl
  | .turned .., _ => rfl
  | .other .., _ => rfl

theorem allInner_relocateTables (common : List Ident) (tables : List TableRef) (index : Nat) :
    TableRef.allInner common (relocateTables defaultSchema relocations index tables) =
      TableRef.allInner common tables := by
  induction tables generalizing index with
  | nil => rfl
  | cons table tables ih => simp only [relocateTables, TableRef.allInner, inner_relocateTable, ih]

/-! ### Statements -/

theorem Sql.Select.namesOf_relocated (common : List Ident) (tail : List Reference) (select : Select) :
    namesOf (Select.references common tail
        { select with from_ := relocateTables defaultSchema relocations 0 select.from_ }) =
      namesOf (aside (select.passed common)) ++ (namesOf (select.inner common tail) ++
        (Factor.sites 0 (factors select.from_)).map (Site.relocated defaultSchema relocations)) := by
  rw [Select.references_eq, namesOf_append, namesOf_append, namesOf_factors, factors_relocateTables]
  simp only [Select.inner, Select.passed, allInner_relocateTables]

theorem Sql.Insert.namesOf_relocated (common : List Ident) (head : String) (target : ObjectName)
    (alias_ : Option Ident) (columns : List Ident) (middle : List Piece) (source : Option Query)
    (trailer : List Piece) :
    namesOf (Insert.references common ⟨head, relocateTarget defaultSchema relocations target, alias_, columns,
        middle, source, trailer⟩) =
      namesOf (aside (Piece.allReferences common middle ++ Piece.allReferences common trailer)) ++
        (namesOf (source.elim [] (Query.references common)) ++
          [Site.relocated defaultSchema relocations ⟨.target, target, none⟩]) := by
  cases source with
  | none =>
    simp only [Insert.references, namesOf_append]
    rfl
  | some query =>
    simp only [Insert.references, namesOf_append]
    rfl

/-- The tables of a deletion are numbered across both of its clauses. -/
theorem Sql.Delete.namesOf_relocated (common : List Ident) (targets : List ObjectName) (fromKeyword : Bool)
    (from_ : List TableRef) (using_ : Option (List TableRef)) (selection : Option Expr) (returning : List Piece)
    (orderBy : List Expr) (limit : Option Expr) :
    namesOf (Delete.references common ⟨targets, fromKeyword, relocateTables defaultSchema relocations 0 from_,
        using_.map (relocateTables defaultSchema relocations (factors from_).length), selection, returning,
        orderBy, limit⟩) =
      namesOf (aside (Piece.allReferences common returning)) ++
        (namesOf (Delete.inner common from_ using_ selection orderBy limit) ++
          (Factor.sites 0 (factors from_ ++ factors (using_.getD []))).map
            (Site.relocated defaultSchema relocations)) := by
  have hown : (factors (relocateTables defaultSchema relocations 0 from_) ++
      factors ((using_.map (relocateTables defaultSchema relocations (factors from_).length)).getD [])).map
        Factor.name = (Factor.sites 0 (factors from_ ++ factors (using_.getD []))).map
          (Site.relocated defaultSchema relocations) := by
    rw [List.map_append, Factor.sites_append, List.map_append, factors_relocateTables, Nat.zero_add]
    cases using_ with
    | none => rfl
    | some tables => exact congrArg _ (factors_relocateTables tables _)
  cases using_ with
  | none =>
    rw [Option.map_none] at hown ⊢
    simp only [Delete.references, namesOf_append, namesOf_factors, hown, allInner_relocateTables]
    simp only [Delete.inner, namesOf_append, Option.elim]
  | some tables =>
    rw [Option.map_some] at hown ⊢
    simp only [Delete.references, namesOf_append, namesOf_factors, hown, allInner_relocateTables]
    simp only [Delete.inner, namesOf_append, Option.elim]

end ShardRouting
