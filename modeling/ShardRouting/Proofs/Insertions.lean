import ShardRouting.Proofs.Listing
import ShardRouting.Proofs.Mirroring
import ShardRouting.Proofs.Placing
import ShardRouting.Proofs.Reach

/-! Insertions of several rows. All rows of an insertion speak of one table, so it is told by the whole insertion what
    it is told by its rows one by one: the insertion goes through where each of its rows goes through alone, and all
    of them lead to one place. Rows that lead to two places are a conflict. -/

namespace ShardRouting
open Sql Walk

/-! ### Rows -/

namespace Sql

/-- The rows of values that an insertion brings. -/
def Insert.rows (insert : Insert) : List (List Expr) :=
  match insert.source with
  | some { body := .values _ rows, .. } => rows
  | _ => []

/-- The same insertion of values with other rows. -/
def Insert.withRows (insert : Insert) (rows : List (List Expr)) : Insert :=
  match insert.source with
  | some query => match query.body with
    | .values explicitRow _ => { insert with source := some { query with body := .values explicitRow rows } }
    | _ => insert
  | none => insert

/-- What a value says of its column. -/
def cellStep (cell : Ident × Expr) : Step := .key (.equality false (.ofName cell.1) cell.2)

/-- The values of an insertion with their columns, row by row. -/
def Insert.cells (insert : Insert) : List (Ident × Expr) := insert.rows.flatMap (insert.columns.zip ·)

/-- What a row does in its insertion: its values speak of their columns, and are walked then. -/
def Insert.stepsOf (insert : Insert) (row : List Expr) : List Step :=
  (insert.columns.zip row).map cellStep ++ Expr.allSteps false row

variable {insert : Insert} {rows : List (List Expr)} {step : Step}

theorem Insert.target_withRows (insert : Insert) (rows : List (List Expr)) :
    (insert.withRows rows).target = insert.target := by
  unfold withRows
  split
  · split <;> rfl
  · rfl

/-- An insertion with rows is an insertion of values. -/
theorem Insert.source_of_rows (h : insert.rows ≠ []) : ∃ (query : Query) (explicitRow : Bool),
    (∀ rows, insert.withRows rows = { insert with source := some { query with body := .values explicitRow rows } }) ∧
      insert.withRows insert.rows = insert := by
  obtain ⟨head, target, alias_, columns, middle, source, trailer⟩ := insert
  cases source with
  | none => exact absurd rfl h
  | some query =>
    obtain ⟨_, _, body, _, _, _, _, _, _, _⟩ := query
    cases body with
    | values explicitRow rows => exact ⟨_, explicitRow, fun _ => rfl, rfl⟩
    | _ => exact absurd rfl h

theorem Expr.mem_rowSteps : step ∈ Expr.rowSteps rows ↔ ∃ row ∈ rows, step ∈ Expr.allSteps false row := by
  induction rows with
  | nil => simp [rowSteps]
  | cons row rows ih => simp [rowSteps, ih]

theorem Insert.ownSteps_eq (insert : Insert) : insert.ownSteps = insert.cells.map cellStep := by
  rw [cells, List.map_flatMap]
  obtain ⟨head, target, alias_, columns, middle, source, trailer⟩ := insert
  match columns, source with
  | _, none => simp [ownSteps, rows]
  | [], some _ => simp [ownSteps]
  | _ :: _, some ⟨_, _, body, _, _, _, _, _, _, _⟩ => cases body <;> rfl

/-- The rows take part in an insertion one by one, and the rest of it is the same for all rows. -/
theorem Insert.mem_inside_withRows (h : insert.rows ≠ []) : ∃ around : List Step, ∀ rows step,
    step ∈ Step.inside (insert.withRows rows).steps ↔ (∃ row ∈ rows, step ∈ insert.stepsOf row) ∨ step ∈ around := by
  obtain ⟨query, explicitRow, heq, -⟩ := source_of_rows h
  obtain ⟨recursive, ctes, body, orderBy, limit, offset, limitBy, settings, fetch, ending⟩ := query
  refine ⟨Cte.allSteps ctes ++ (Expr.allSteps false orderBy ++ (Expr.optionalSteps false limit ++
    (Expr.allSteps false limitBy ++ (Expr.optionalSteps false offset ++ Expr.optionalSteps false fetch)))),
    fun rows step => ?_⟩
  rw [heq]
  simp only [Insert.steps, Step.inside, ownSteps_eq, cells, Insert.rows, Query.steps, Body.steps, stepsOf,
    List.mem_append, List.map_flatMap, List.mem_flatMap, Expr.mem_rowSteps, and_or_left, exists_or]
  rw [or_assoc]
  exact or_congr_right or_left_comm

/-- An insertion does what its rows do alone. -/
theorem Insert.mem_inside_iff (h : insert.rows ≠ []) : step ∈ Step.inside insert.steps ↔
    ∃ row ∈ insert.rows, step ∈ Step.inside (insert.withRows [row]).steps := by
  obtain ⟨around, hmem⟩ := mem_inside_withRows h
  obtain ⟨-, -, -, hself⟩ := source_of_rows h
  have hwhole := hmem insert.rows step
  rw [hself] at hwhole
  simp only [hwhole, hmem, List.mem_singleton, exists_eq_left]
  constructor
  · rintro (⟨row, hrow, hstep⟩ | haround)
    · exact ⟨row, hrow, .inl hstep⟩
    · obtain ⟨row, hrow⟩ := List.exists_mem_of_ne_nil _ h
      exact ⟨row, hrow, .inr haround⟩
  · rintro ⟨row, hrow, hstep | haround⟩
    · exact .inl ⟨row, hrow, hstep⟩
    · exact .inr haround

theorem Insert.cellStep_mem_inside (h : insert.rows ≠ []) {row : List Expr} {cell : Ident × Expr}
    (hcell : cell ∈ insert.columns.zip row) : cellStep cell ∈ Step.inside (insert.withRows [row]).steps := by
  obtain ⟨around, hmem⟩ := mem_inside_withRows h
  have hstep : cellStep cell ∈ insert.stepsOf row := List.mem_append_left _ (List.mem_map_of_mem hcell)
  exact (hmem [row] _).mpr (.inl ⟨row, List.mem_singleton_self row, hstep⟩)

end Sql

/-! ### What steps tell a table -/

variable {setting : Setting} {target : Binding} {insert : Insert} {route : Destination} {steps : List Step}

/-- In a scope with this table only, a step goes through, settles the tables that it closes, and sends the table to
    a destination by all that it tells it. -/
structure Step.Leads (setting : Setting) (target : Binding) (route : Destination) (step : Step) : Prop where
  permitted : step.permitted setting [target]
  closes : ∀ plain ∈ step.closed setting, ∃ table, Closed setting plain table
  fits : ∀ source ∈ step.told setting.scan target.lookupKeys,
    source.Fits setting.options.maxBetweenSpan setting.params
  sends : ∀ source ∈ step.told setting.scan target.lookupKeys, ∀ value ∈ source.values setting.params,
    Sends setting target.schema target.table.value value route

/-- Some step tells the table a value. -/
def Informed (setting : Setting) (target : Binding) (steps : List Step) : Prop :=
  ∃ step ∈ steps, ∃ source ∈ step.told setting.scan target.lookupKeys, source.values setting.params ≠ []

theorem Binding.mem_sources_hear {scan : Scan} (hfresh : target.sources = []) {source : RouteSource} :
    source ∈ (target.hear scan steps).sources ↔ ∃ step ∈ steps, source ∈ step.told scan target.lookupKeys := by
  rw [Binding.hear, hfresh, List.nil_append, List.mem_flatMap]

/-- The shard key of a table is told by the values that stand by it. -/
theorem told_cellStep {scan : Scan} {cell : Ident × Expr} {source : ValueSource}
    (hkey : Text.lower cell.1.value ∈ target.lookupKeys) (hsource : valueSource? scan cell.2 = some source) :
    (cellStep cell).told scan target.lookupKeys = [.value source] := by
  have hevidence : (Evidence.item cell.2).source? scan = some (.value source) := by rw [Evidence.source?, hsource]; rfl
  have htold : (cellStep cell).told scan target.lookupKeys = _ := if_pos hkey
  rw [htold]
  simp [KeyPredicate.equality, hevidence]

/-- A known value of the shard key is sent where its step leads. -/
theorem Step.Leads.sends_known {cell : Ident × Expr} (h : (cellStep cell).Leads setting target route)
    (hkey : Text.lower cell.1.value ∈ target.lookupKeys) {value : ShardValue} {source : ValueSource}
    (hknown : readValue setting.scan setting.params cell.2 = .ok (.known value source)) :
    Sends setting target.schema target.table.value value route := by
  obtain ⟨hsource, hvalue⟩ := readValue_known_iff.mp hknown
  have htold : .value source ∈ (cellStep cell).told setting.scan target.lookupKeys := by
    rw [told_cellStep hkey hsource]
    exact List.mem_singleton_self _
  refine h.sends (.value source) htold value ?_
  rw [RouteSource.values, hvalue]
  exact List.mem_singleton_self value

/-- A table that is told a value settles at a destination if all that it is told sends it there. -/
theorem closed_hear_iff (hon : setting.overrides.sqlRoutingDisabled = false) (hfresh : target.sources = [])
    (hinformed : Informed setting target steps) :
    (∃ table, Closed setting (target.hear setting.scan steps) table ∧ table.route.same route = true) ↔
      ∀ step ∈ steps, ∀ source ∈ step.told setting.scan target.lookupKeys,
        source.Fits setting.options.maxBetweenSpan setting.params ∧
          ∀ value ∈ source.values setting.params, Sends setting target.schema target.table.value value route := by
  constructor
  · rintro ⟨table, hclosed, hsame⟩ step hstep source hsource
    have hheard : source ∈ (target.hear setting.scan steps).sources :=
      (Binding.mem_sources_hear hfresh).mpr ⟨step, hstep, hsource⟩
    refine ⟨hclosed.fits source hheard, fun value hvalue => ?_⟩
    exact (hclosed.leads value ((Binding.mem_values hon).mpr ⟨source, hheard, hvalue⟩)).trans hsame
  · intro hleads
    have hsends : ∀ value ∈ (target.hear setting.scan steps).values setting,
        Sends setting target.schema target.table.value value route := by
      intro value hvalue
      obtain ⟨source, hheard, hvalue⟩ := (Binding.mem_values hon).mp hvalue
      obtain ⟨step, hstep, hsource⟩ := (Binding.mem_sources_hear hfresh).mp hheard
      exact (hleads step hstep source hsource).2 value hvalue
    have hcoherent : Coherent setting (target.hear setting.scan steps) := by
      refine ⟨fun source hheard => ?_, route, hsends⟩
      obtain ⟨step, hstep, hsource⟩ := (Binding.mem_sources_hear hfresh).mp hheard
      exact (hleads step hstep source hsource).1
    obtain ⟨step, hstep, source, hsource, hvalues⟩ := hinformed
    obtain ⟨value, hvalue⟩ := List.exists_mem_of_ne_nil _ hvalues
    have hmem : value ∈ (target.hear setting.scan steps).values setting :=
      (Binding.mem_values hon).mpr ⟨source, (Binding.mem_sources_hear hfresh).mpr ⟨step, hstep, hsource⟩, hvalue⟩
    obtain ⟨table, hclosed⟩ := hcoherent.closed (List.ne_nil_of_mem hmem)
    exact ⟨table, hclosed, (hclosed.leads value hmem).same (hsends value hmem)⟩

/-! ### Where an insertion lands -/

/-- An insertion goes through, and its target, which is the last table to be settled, is sent to a destination. -/
def Lands (setting : Setting) (depth : Nat) (p : Progress) (target : Binding) (insert : Insert) (route : Destination) :
    Prop :=
  ∃ tree q before sources, walkStatement setting depth (.insert insert) p = .ok tree q ∧
    q.routed = p.routed ++ (before ++ [⟨target.schema, target.table.value, route, sources⟩])

/-- A statement of its own lands where the last of its tables is sent. -/
theorem lands_start_iff_routed : Lands setting 0 {} target insert route ↔ ∃ routed before sources,
    (Router.routeStatement setting (.insert insert)).result = .ok routed ∧
      routed.tables = before ++ [⟨target.schema, target.table.value, route, sources⟩] := by
  constructor
  · rintro ⟨tree, q, before, sources, hwalk, hrouted⟩
    exact ⟨⟨tree, q.schemas, q.routed⟩, before, sources, Outcome.ofWalk_iff.mpr ⟨tree, q, hwalk, rfl⟩, hrouted⟩
  · rintro ⟨routed, before, sources, hresult, htables⟩
    obtain ⟨tree, q, hwalk, rfl⟩ := Outcome.ofWalk_iff.mp hresult
    exact ⟨tree, q, before, sources, hwalk, htables⟩

/-- It does not matter where an insertion stands. -/
theorem Lands.elsewhere {depth : Nat} {p : Progress} (h : Lands setting depth p target insert route) (depth' : Nat)
    (p' : Progress) : Lands setting depth' p' target insert route := by
  obtain ⟨tree, q, before, sources, hwalk, hrouted⟩ := h
  have hmirrors : Mirrors (fun _ _ => True) (walkStatement setting depth (.insert insert))
      (walkStatement setting depth' (.insert insert)) :=
    (walkInsert_mirrors insert _ depth depth').map Statement.insert
  obtain ⟨q', tables, hwalk', -, htables, hrouted'⟩ := hmirrors p p' tree q hwalk trivial
  obtain rfl := List.append_cancel_left (htables.symm.trans hrouted)
  exact ⟨tree, q', before, sources, hwalk', hrouted'⟩

theorem forall₂_of_exists {α β : Type} {R : α → β → Prop} : ∀ {l : List α}, (∀ a ∈ l, ∃ b, R a b) →
    ∃ m, List.Forall₂ R l m
  | [], _ => ⟨[], .nil⟩
  | a :: l, h => by
    obtain ⟨⟨b, hb⟩, hrest⟩ := List.forall_mem_cons.mp h
    obtain ⟨m, hm⟩ := forall₂_of_exists hrest
    exact ⟨b :: m, .cons hb hm⟩

/-- The script of an insertion binds its target, and closes it behind all other tables. -/
theorem Sql.Insert.digest (hbound : setting.bindingOf? insert.target none = some target) :
    (Step.allPermitted setting [] (Statement.insert insert).steps ↔
      ∀ step ∈ Step.inside insert.steps, step.permitted setting [target]) ∧
      Step.allClosed setting (Statement.insert insert).steps =
        Step.allClosed setting (Step.inside insert.steps) ++
          [target.hear setting.scan (Step.inside insert.steps)] := by
  have hsites : setting.bindingsOf [⟨.target, insert.target, none⟩] = [target] := by
    simp [Setting.bindingsOf, hbound]
  have hsteps : (Statement.insert insert).steps = _ := insert.steps_eq
  rw [hsteps]
  simp [Step.allPermitted, Step.permitted, Step.allClosed, Step.closed, hsites, Step.allPermitted_iff]

/-- An insertion into a bound table lands where that table is settled with all that it has heard. -/
theorem lands_start_iff (hbound : setting.bindingOf? insert.target none = some target) :
    Lands setting 0 {} target insert route ↔
      (∀ step ∈ Step.inside insert.steps, step.permitted setting [target] ∧
        ∀ plain ∈ step.closed setting, ∃ table, Closed setting plain table) ∧
      ∃ table, Closed setting (target.hear setting.scan (Step.inside insert.steps)) table ∧ table.route = route := by
  obtain ⟨hpermitted, hclosed⟩ := Insert.digest hbound
  rw [lands_start_iff_routed]
  constructor
  · rintro ⟨routed, before, sources, hresult, htables⟩
    obtain ⟨hall, hsettled, -, -⟩ := routeStatement_iff.mp hresult
    rw [hclosed, htables] at hsettled
    obtain ⟨first, rest, hfirst, hrest, hends⟩ := forall₂_append_left hsettled
    obtain ⟨table, _, htable, hnil, rfl⟩ := List.forall₂_cons_left_iff.mp hrest
    obtain rfl := List.forall₂_nil_left_iff.mp hnil
    obtain ⟨rfl, hlast⟩ := List.append_inj' hends rfl
    obtain rfl := (List.cons.inj hlast).1
    refine ⟨fun step hstep => ⟨hpermitted.mp hall step hstep, fun plain hplain => ?_⟩, _, htable, rfl⟩
    have hmem : plain ∈ Step.allClosed setting (Step.inside insert.steps) := by
      rw [Step.allClosed_eq]
      exact List.mem_flatMap.mpr ⟨step, hstep, hplain⟩
    obtain ⟨settled, -, hsettled⟩ := exists_right_of_mem hfirst hmem
    exact ⟨settled, hsettled⟩
  · rintro ⟨hsteps, table, htable, rfl⟩
    obtain ⟨before, hbefore⟩ : ∃ before,
        List.Forall₂ (Closed setting) (Step.allClosed setting (Step.inside insert.steps)) before := by
      refine forall₂_of_exists fun plain hplain => ?_
      rw [Step.allClosed_eq] at hplain
      obtain ⟨step, hstep, hplain⟩ := List.mem_flatMap.mp hplain
      exact (hsteps step hstep).2 plain hplain
    have hall := hpermitted.mpr fun step hstep => (hsteps step hstep).1
    have hsettled : List.Forall₂ (Closed setting) (Step.allClosed setting (Statement.insert insert).steps)
        (before ++ [table]) := by
      rw [hclosed]
      exact List.rel_append hbefore (.cons htable .nil)
    have hschema : table.schema = target.schema := htable.schema_eq
    have hname : table.table = target.table.value := htable.table_eq
    refine ⟨⟨(Statement.insert insert).written setting.naming (before ++ [table]), schemasOf (before ++ [table]),
      before ++ [table]⟩, before, table.sources, routeStatement_iff.mpr ⟨hall, hsettled, rfl, rfl⟩, ?_⟩
    rw [← hschema, ← hname]

/-- An insertion that tells its target a value lands at a destination when each of its steps leads there. -/
theorem lands_iff_leads (hon : setting.overrides.sqlRoutingDisabled = false)
    (hbound : setting.bindingOf? insert.target none = some target)
    (hinformed : Informed setting target (Step.inside insert.steps)) (depth : Nat) (p : Progress) :
    (∃ found, Lands setting depth p target insert found ∧ found.same route = true) ↔
      ∀ step ∈ Step.inside insert.steps, step.Leads setting target route := by
  have hfresh : target.sources = [] := (Site.binding?_fresh hbound).2
  have hclosed : (∃ table, Closed setting (target.hear setting.scan (Step.inside insert.steps)) table ∧
      table.route.same route = true) ↔ _ := closed_hear_iff hon hfresh hinformed
  constructor
  · rintro ⟨found, hlands, hsame⟩ step hstep
    obtain ⟨hsteps, table, htable, rfl⟩ := (lands_start_iff hbound).mp (hlands.elsewhere 0 {})
    have htold := hclosed.mp ⟨table, htable, hsame⟩ step hstep
    exact ⟨(hsteps step hstep).1, (hsteps step hstep).2, fun source hsource => (htold source hsource).1,
      fun source hsource => (htold source hsource).2⟩
  · intro hleads
    obtain ⟨table, htable, hsame⟩ := hclosed.mpr fun step hstep source hsource =>
      ⟨(hleads step hstep).fits source hsource, (hleads step hstep).sends source hsource⟩
    have hlands : Lands setting 0 {} target insert table.route := (lands_start_iff hbound).mpr
      ⟨fun step hstep => ⟨(hleads step hstep).permitted, (hleads step hstep).closes⟩, table, htable, rfl⟩
    exact ⟨table.route, hlands.elsewhere depth p, hsame⟩

/-! ### Values one after the other -/

namespace Walk

variable {binding after : Binding} {p q : Progress} {cell : Ident × Expr} {cells : List (Ident × Expr)}

/-- The open scope has only one table, `binding` by now. -/
structure Lone (target binding : Binding) (p : Progress) : Prop where
  schema : binding.schema = target.schema
  table : binding.table = target.table
  sole : Sketch.Sole target.lookupKeys binding { scope := p.scope }

/-- The scope of an insertion has only the target. -/
theorem Lone.start (hbound : setting.bindingOf? insert.target none = some target) (depth : Nat) (p : Progress) :
    ∃ q, bindTable setting depth .target insert.target none { p with scope := {} } = .ok () q ∧
      Lone target target q := by
  obtain ⟨q, hbind, hscope, -, -⟩ :=
    bindTable_run setting depth ⟨.target, insert.target, none⟩ { p with scope := {} }
  have hentered : q.scope = Scope.enter (Site.binding? setting) {} [⟨.target, insert.target, none⟩] := hscope
  have honly : [⟨.target, insert.target, none⟩].filterMap (Site.binding? setting) = [target] :=
    List.filterMap_cons_some hbound
  have hsole : Sketch.Sole target.lookupKeys target _ := .enter {} honly
  exact ⟨q, hbind, rfl, rfl, hentered ▸ hsole⟩

theorem Lone.update (h : Lone target binding p) (hschema : after.schema = binding.schema)
    (htable : after.table = binding.table) (hscope : q.scope = p.scope) :
    Lone target after { q with scope := q.scope.update 0 after } where
  schema := hschema.trans h.schema
  table := htable.trans h.table
  sole := by
    rw [hscope]
    exact ⟨congrArg (·.set 0 after) h.sole.bindings, h.sole.claims⟩

/-- A value of the shard key is known, and sent to a destination. -/
def Guides (setting : Setting) (target : Binding) (route : Destination) (cell : Ident × Expr) : Prop :=
  Text.lower cell.1.value ∈ target.lookupKeys ∧ ∃ value source,
    readValue setting.scan setting.params cell.2 = .ok (.known value source) ∧
      Sends setting target.schema target.table.value value route

/-- How a run over values of a table ends, from the table as `binding`: all of them are sent to its destination, or
    two of them are in conflict. -/
inductive Sent (setting : Setting) (target : Binding) (cells : List (Ident × Expr)) (binding : Binding) :
    EStateM.Result RoutingError Progress Unit → Prop
  | ok {after : Binding} {q : Progress} (lone : Lone target after q)
    (keeps : ∀ first, binding.route = some first → after.route = some first)
    (agrees : ∀ cell ∈ cells, ∀ route, Guides setting target route cell →
      ∃ first, after.route = some first ∧ route.same first = true) :
    Sent setting target cells binding (.ok () q)
  | conflict {first second : Destination} (value : ShardValue) (q : Progress) (apart : first.same second = false) :
    Sent setting target cells binding (.error (.conflict target.table.value first second value) q)

/-- A value of the shard key that leads anywhere is answered. -/
theorem answered_of_leads (hlone : Lone target binding p) (hleads : (cellStep cell).Leads setting target route)
    (hkey : Text.lower cell.1.value ∈ target.lookupKeys) : Answered setting binding cell.2 := by
  have hclaimed : claimants [target] (Text.lower cell.1.value) ≠ 0 := by simp [claimants, hkey]
  obtain ⟨-, -, hevidence⟩ := hleads.permitted.resolve_left hclaimed
  obtain ⟨_, hsource⟩ := hevidence (.item cell.2) (List.mem_singleton_self _)
  obtain ⟨read, hread, -⟩ := Option.map_eq_some_iff.mp hsource
  refine ⟨.of setting.params read, readValue_iff.mpr ⟨read, hread, rfl⟩, fun value source hvalue => ?_⟩
  have hknown : readValue setting.scan setting.params cell.2 = .ok (.known value source) :=
    readValue_iff.mpr ⟨read, hread, hvalue.symm⟩
  obtain ⟨found, hfound, -⟩ := hleads.sends_known hkey hknown
  rw [hlone.schema, hlone.table]
  exact ⟨found, hfound⟩

theorem cell_sent (hon : setting.overrides.sqlRoutingDisabled = false) (hlone : Lone target binding p)
    (hleads : (cellStep cell).Leads setting target route) :
    Sent setting target [cell] binding (onEquality setting false (.ofName cell.1) cell.2 p) := by
  have hresolve : p.scope.resolve (ColumnRef.ofName cell.1).key = _ := hlone.sole.resolve (Text.lower cell.1.value)
  by_cases hkey : Text.lower cell.1.value ∈ target.lookupKeys
  · rw [if_pos hkey] at hresolve
    cases hrun : onEquality setting false (.ofName cell.1) cell.2 p with
    | error error q =>
      obtain ⟨_, found, first, value, _, second, hfound, -, -, -, hapart, rfl⟩ :=
        disagrees_of_error hon hresolve (answered_of_leads hlone hleads hkey) hrun
      cases hresolve.symm.trans hfound
      rw [hlone.table]
      exact .conflict value q hapart
    | ok u q =>
      rw [onEquality_bound setting hresolve] at hrun
      obtain ⟨after, p', hitem, hupdate⟩ := bind_iff.mp hrun
      cases hupdate
      obtain ⟨hbare, hkeeps, hsends⟩ := routeItem_inv hon hitem
      have hschema : after.schema = (binding.see _).schema := Binding.schema_of_bare hbare
      have htable : after.table = (binding.see _).table := Binding.table_of_bare hbare
      have hscope : p'.scope = p.scope := (routeItem_blind setting _ _ _).quiet hitem
      refine .ok (hlone.update hschema htable hscope) hkeeps ?_
      rintro other hother found ⟨-, value, source, hknown, hfound⟩
      obtain rfl := List.mem_singleton.mp hother
      obtain ⟨first, hfirst, hsent⟩ := hsends value source hknown
      rw [← hlone.schema, ← hlone.table] at hfound
      exact ⟨first, hfirst, hfound.same hsent⟩
  · rw [if_neg hkey] at hresolve
    have hrun : onEquality setting false (.ofName cell.1) cell.2 p = .ok () p := by
      rw [onEquality_eq]
      exact onKey_unknown hresolve
    rw [hrun]
    refine .ok hlone (fun _ => id) fun other hother _ hguides => ?_
    exact absurd (List.mem_singleton.mp hother ▸ hguides.1) hkey

/-- Values that lead anywhere are all sent to one place, or in conflict. -/
theorem cells_sent (hon : setting.overrides.sqlRoutingDisabled = false) (depth : Nat)
    (hleads : ∀ cell ∈ cells, ∃ route, (cellStep cell).Leads setting target route) (hlone : Lone target binding p) :
    Sent setting target cells binding (runSteps setting depth (cells.map cellStep) p) := by
  -- by induction on the values; what carries it is that the table stays alone in its scope and keeps its destination
  induction cells generalizing binding p with
  | nil => exact .ok hlone (fun _ => id) nofun
  | cons cell cells ih =>
    obtain ⟨⟨route, hfirst⟩, hrest⟩ := List.forall_mem_cons.mp hleads
    have hcell := cell_sent hon hlone hfirst
    have hstep : onEquality setting false (.ofName cell.1) cell.2 = runStep setting depth (cellStep cell) :=
      onEquality_eq setting false _ _
    rw [hstep] at hcell
    rw [List.map_cons, runSteps]
    generalize hrun : runStep setting depth (cellStep cell) p = result at hcell
    cases hcell with
    | conflict value q hapart =>
      rw [bind_error hrun]
      exact .conflict value q hapart
    | ok lone keeps agrees =>
      rw [bind_ok hrun]
      have hothers := ih hrest lone
      generalize runSteps setting depth (cells.map cellStep) _ = result at hothers ⊢
      cases hothers with
      | conflict value q hapart => exact .conflict value q hapart
      | ok lone' keeps' agrees' =>
        refine .ok lone' (fun first h => keeps' first (keeps first h)) fun other hother found hguides => ?_
        rcases List.mem_cons.mp hother with rfl | hother
        · obtain ⟨first, hfirst, hsame⟩ := agrees other (List.mem_singleton_self other) found hguides
          exact ⟨first, keeps' first hfirst, hsame⟩
        · exact agrees' other hother found hguides

theorem inScope_error {α : Type} {x : Walk α} {error : RoutingError} (h : x { p with scope := {} } = .error error q) :
    inScope x p = .error error q := by
  unfold inScope
  exact (bind_ok rfl).trans ((bind_ok rfl).trans (bind_error h))

/-- An insertion whose values are in conflict fails. -/
theorem walkStatement_error {depth : Nat} {error : RoutingError} {p' : Progress}
    (hbind : bindTable setting (depth + 1) .target insert.target none { p with scope := {} } = .ok () p')
    (hrows : onRows setting insert p' = .error error q) :
    walkStatement setting depth (.insert insert) p = .error error q := by
  obtain ⟨head, target, alias_, columns, middle, source, trailer⟩ := insert
  unfold walkStatement walkInsert
  exact bind_error (bind_error (inScope_error ((bind_ok hbind).trans (bind_error hrows))))

/-- Values that lead anywhere, two of them apart, are a conflict. -/
theorem conflict_of_apart (hon : setting.overrides.sqlRoutingDisabled = false)
    (hbound : setting.bindingOf? insert.target none = some target)
    (hleads : ∀ cell ∈ insert.cells, ∃ route, (cellStep cell).Leads setting target route) {one another : Ident × Expr}
    (hone : one ∈ insert.cells) (hanother : another ∈ insert.cells) {route other : Destination}
    (hguides : Guides setting target route one) (hguides' : Guides setting target other another)
    (hapart : route.same other = false) (depth : Nat) (p : Progress) :
    ∃ first second value q, first.same second = false ∧ walkStatement setting depth (.insert insert) p =
      .error (.conflict target.table.value first second value) q := by
  obtain ⟨p', hbind, hlone⟩ := Lone.start hbound (depth + 1) p
  have hrows : onRows setting insert = runSteps setting 0 (insert.cells.map cellStep) := by
    rw [← Insert.ownSteps_eq, ← onRows_runs insert, effect_unit]
  have hsent := cells_sent hon 0 hleads hlone
  rw [← hrows] at hsent
  generalize hrun : onRows setting insert p' = result at hsent
  cases hsent with
  | conflict value q hapart' => exact ⟨_, _, value, q, hapart', walkStatement_error hbind hrun⟩
  | ok _ _ agrees =>
    -- both would agree with the destination of the table
    obtain ⟨first, hfirst, hsame⟩ := agrees one hone route hguides
    obtain ⟨_, hfirst', hsame'⟩ := agrees another hanother other hguides'
    cases hfirst.symm.trans hfirst'
    have hequal := Destination.same_trans hsame (Destination.same_symm hsame')
    cases hapart.symm.trans hequal

end Walk

/-! ### The law -/

/-- A row has a known value for a column of this name. -/
def Setting.Supplies (setting : Setting) (columns : List Ident) (key : String) (row : List Expr) : Prop :=
  ∃ cell ∈ columns.zip row, Text.lower cell.1.value = Text.lower key ∧
    ∃ value source, readValue setting.scan setting.params cell.2 = .ok (.known value source)

theorem Binding.key_mem_lookupKeys (binding : Binding) : Text.lower binding.key ∈ binding.lookupKeys := by
  simp [lookupKeys]

/-- A row with a known value for the shard key tells it to the table. -/
theorem Setting.Supplies.informed {columns : List Ident} {row : List Expr}
    (h : setting.Supplies columns target.key row) (hsteps : ∀ cell ∈ columns.zip row, cellStep cell ∈ steps) :
    Informed setting target steps := by
  obtain ⟨cell, hcell, hname, value, source, hknown⟩ := h
  have hkey : Text.lower cell.1.value ∈ target.lookupKeys := hname ▸ target.key_mem_lookupKeys
  obtain ⟨hsource, hvalue⟩ := readValue_known_iff.mp hknown
  refine ⟨cellStep cell, hsteps cell hcell, .value source, ?_, ?_⟩
  · rw [told_cellStep hkey hsource]
    exact List.mem_singleton_self _
  · simp [RouteSource.values, hvalue]

/-- The known value of a row that leads to one place is sent there. -/
theorem Setting.Supplies.guides {columns : List Ident} {row : List Expr}
    (h : setting.Supplies columns target.key row)
    (hleads : ∀ cell ∈ columns.zip row, (cellStep cell).Leads setting target route) :
    ∃ cell ∈ columns.zip row, Guides setting target route cell := by
  obtain ⟨cell, hcell, hname, value, source, hknown⟩ := h
  have hkey : Text.lower cell.1.value ∈ target.lookupKeys := hname ▸ target.key_mem_lookupKeys
  exact ⟨cell, hcell, hkey, value, source, hknown, (hleads cell hcell).sends_known hkey hknown⟩

/-- An insertion of rows into a bound table, each of which has a known value for its shard key, goes through exactly
    when the insertions of the single rows do and lead to one place, and leads there then. If all rows go through
    alone, but two of them lead to two places, the insertion fails with a conflict over its table. The insertion may
    stand anywhere; a statement of its own is walked from the start. -/
theorem insertion_as_rows {setting : Setting} {insert : Insert} {target : Binding}
    (hon : setting.overrides.sqlRoutingDisabled = false)
    (hbound : setting.bindingOf? insert.target none = some target) (hrows : insert.rows ≠ [])
    (hsupplied : ∀ row ∈ insert.rows, setting.Supplies insert.columns target.key row) (depth : Nat) (p : Progress) :
    (∀ route, (∃ found, Lands setting depth p target insert found ∧ found.same route = true) ↔
      ∀ row ∈ insert.rows, ∃ found, Lands setting depth p target (insert.withRows [row]) found ∧
        found.same route = true) ∧
    ((∀ row ∈ insert.rows, ∃ found, Lands setting depth p target (insert.withRows [row]) found) →
      ∀ first ∈ insert.rows, ∀ second ∈ insert.rows, ∀ route other,
        Lands setting depth p target (insert.withRows [first]) route →
        Lands setting depth p target (insert.withRows [second]) other → route.same other = false →
          ∃ one another value q, one.same another = false ∧ walkStatement setting depth (.insert insert) p =
            .error (.conflict target.table.value one another value) q) := by
  have hcells : ∀ row, ∀ cell ∈ insert.columns.zip row, cellStep cell ∈ Step.inside (insert.withRows [row]).steps :=
    fun row cell => Insert.cellStep_mem_inside hrows
  have hrow : ∀ row ∈ insert.rows, ∀ route,
      (∃ found, Lands setting depth p target (insert.withRows [row]) found ∧ found.same route = true) ↔
        ∀ step ∈ Step.inside (insert.withRows [row]).steps, step.Leads setting target route := by
    intro row hrow route
    refine lands_iff_leads hon ?_ ((hsupplied row hrow).informed (hcells row)) depth p
    rw [Insert.target_withRows, hbound]
  refine ⟨fun route => ?_, fun hall first hfirst second hsecond route other hroute hother hapart => ?_⟩
  · obtain ⟨row, hmem⟩ := List.exists_mem_of_ne_nil _ hrows
    have hinformed : Informed setting target (Step.inside insert.steps) :=
      (hsupplied row hmem).informed fun cell hcell =>
        (Insert.mem_inside_iff hrows).mpr ⟨row, hmem, hcells row cell hcell⟩
    rw [lands_iff_leads hon hbound hinformed]
    constructor
    · intro hleads row hmem
      exact (hrow row hmem route).mpr fun step hstep =>
        hleads step ((Insert.mem_inside_iff hrows).mpr ⟨row, hmem, hstep⟩)
    · intro hall step hstep
      obtain ⟨row, hmem, hstep⟩ := (Insert.mem_inside_iff hrows).mp hstep
      exact (hrow row hmem route).mp (hall row hmem) step hstep
  · -- each row goes through alone, so no value fails but by those before it
    have hleads : ∀ row ∈ insert.rows, ∀ route, Lands setting depth p target (insert.withRows [row]) route →
        ∀ cell ∈ insert.columns.zip row, (cellStep cell).Leads setting target route := by
      intro row hmem route hlands cell hcell
      exact (hrow row hmem route).mp ⟨route, hlands, Destination.same_refl route⟩ _ (hcells row cell hcell)
    obtain ⟨one, hone, hguides⟩ := (hsupplied first hfirst).guides (hleads first hfirst route hroute)
    obtain ⟨another, hanother, hguides'⟩ := (hsupplied second hsecond).guides (hleads second hsecond other hother)
    refine conflict_of_apart hon hbound (fun cell hcell => ?_) (List.mem_flatMap.mpr ⟨first, hfirst, hone⟩)
      (List.mem_flatMap.mpr ⟨second, hsecond, hanother⟩) hguides hguides' hapart depth p
    obtain ⟨row, hmem, hcell⟩ := List.mem_flatMap.mp hcell
    obtain ⟨route, hlands⟩ := hall row hmem
    exact ⟨route, hleads row hmem route hlands cell hcell⟩

namespace Sample

/-- The orders as an insertion binds them. -/
def ordersTarget : Binding :=
  { slot := .target, schema := none, table := ⟨"orders", none⟩, alias_ := none, key := "id" }

/-- `INSERT INTO orders (total, ID) VALUES ..`, with these keys. -/
def inserted (keys : List String) : Insert where
  head := "INSERT INTO"
  target := [⟨"orders", none⟩]
  alias_ := none
  columns := [⟨"total", none⟩, ⟨"ID", none⟩]
  middle := []
  source := some (query (.values false (keys.map fun digits => [literal "1", literal digits])))
  trailer := []

end Sample

/-- The rows of the keys 4 and 6 land together, those of 4 and 5 are in conflict. -/
theorem insertion_as_rows_orders :
    (Sample.under []).overrides.sqlRoutingDisabled = false ∧
      (Sample.under []).bindingOf? (Sample.inserted ["4", "6"]).target none = some Sample.ordersTarget ∧
      (Sample.inserted ["4", "6"]).rows ≠ [] ∧
      (∀ row ∈ (Sample.inserted ["4", "6"]).rows,
        (Sample.under []).Supplies (Sample.inserted ["4", "6"]).columns Sample.ordersTarget.key row) ∧
      (∃ found, Lands (Sample.under []) 0 {} Sample.ordersTarget (Sample.inserted ["4", "6"]) found ∧
        found.same ⟨"main", "ORDERS_EVEN"⟩ = true) ∧
      ∃ one another value q, one.same another = false ∧
        walkStatement (Sample.under []) 0 (.insert (Sample.inserted ["4", "5"])) {} =
          .error (.conflict "orders" one another value) q := by
  have hbound : ∀ keys, (Sample.under []).bindingOf? (Sample.inserted keys).target none = some Sample.ordersTarget :=
    fun _ => rfl
  have hrow : ∀ keys digits n, numberValue? digits = some (.int n) → (Sample.under []).Supplies
      (Sample.inserted keys).columns Sample.ordersTarget.key [Sample.literal "1", Sample.literal digits] := by
    intro keys digits n hvalue
    have hname : Text.lower "ID" = Text.lower "id" := by decide
    refine ⟨(⟨"ID", none⟩, Sample.literal digits), by simp [Sample.inserted], hname, .int n, .literal (.int n), ?_⟩
    simp [Sample.literal, readValue, literalValue?, hvalue, Reading.ofLiteral]
  have hrows : (Sample.inserted ["4", "6"]).rows ≠ [] ∧ (Sample.inserted ["4", "5"]).rows ≠ [] :=
    ⟨List.cons_ne_nil _ _, List.cons_ne_nil _ _⟩
  have heven : ∀ row ∈ (Sample.inserted ["4", "6"]).rows,
      (Sample.under []).Supplies (Sample.inserted ["4", "6"]).columns Sample.ordersTarget.key row :=
    List.forall_mem_cons.mpr ⟨hrow _ "4" 4 rfl, List.forall_mem_cons.mpr ⟨hrow _ "6" 6 rfl, List.forall_mem_nil _⟩⟩
  have hodd : ∀ row ∈ (Sample.inserted ["4", "5"]).rows,
      (Sample.under []).Supplies (Sample.inserted ["4", "5"]).columns Sample.ordersTarget.key row :=
    List.forall_mem_cons.mpr ⟨hrow _ "4" 4 rfl, List.forall_mem_cons.mpr ⟨hrow _ "5" 5 rfl, List.forall_mem_nil _⟩⟩
  have hfour : Lands (Sample.under []) 0 {} Sample.ordersTarget (Sample.inserted ["4"]) ⟨"main", "orders_even"⟩ :=
    ⟨_, _, [], _, rfl, rfl⟩
  have hfive : Lands (Sample.under []) 0 {} Sample.ordersTarget (Sample.inserted ["5"]) ⟨"main", "orders_odd"⟩ :=
    ⟨_, _, [], _, rfl, rfl⟩
  have hsix : Lands (Sample.under []) 0 {} Sample.ordersTarget (Sample.inserted ["6"]) ⟨"main", "orders_even"⟩ :=
    ⟨_, _, [], _, rfl, rfl⟩
  refine ⟨rfl, hbound _, hrows.1, heven, ?_, ?_⟩
  · obtain ⟨hwhole, -⟩ := insertion_as_rows rfl (hbound _) hrows.1 heven 0 {}
    have hsame : Destination.same ⟨"main", "orders_even"⟩ ⟨"main", "ORDERS_EVEN"⟩ = true := by decide
    exact (hwhole ⟨"main", "ORDERS_EVEN"⟩).mpr
      (List.forall_mem_cons.mpr ⟨⟨_, hfour, hsame⟩, List.forall_mem_cons.mpr ⟨⟨_, hsix, hsame⟩, List.forall_mem_nil _⟩⟩)
  · obtain ⟨-, hapart⟩ := insertion_as_rows rfl (hbound _) hrows.2 hodd 0 {}
    have hall : ∀ row ∈ (Sample.inserted ["4", "5"]).rows, ∃ found, Lands (Sample.under []) 0 {} Sample.ordersTarget
        ((Sample.inserted ["4", "5"]).withRows [row]) found :=
      List.forall_mem_cons.mpr ⟨⟨_, hfour⟩, List.forall_mem_cons.mpr ⟨⟨_, hfive⟩, List.forall_mem_nil _⟩⟩
    exact hapart hall _ List.mem_cons_self _ (List.mem_cons_of_mem _ List.mem_cons_self) _ _ hfour hfive (by decide)

end ShardRouting
