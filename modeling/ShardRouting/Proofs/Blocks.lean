import ShardRouting.Proofs.Placing

/-! The scopes of a statement. A block is a scope with the tables named in it and all that is said inside. Placing
    tables keeps the blocks of a statement, in their order and with their tables in order, and names each table for
    the home that its own block gives it. -/

namespace ShardRouting
open Sql Walk

/-! ### Blocks of a script -/

structure Block where
  /-- Its tables may get aliases: it is the scope of a selection or an update. -/
  aliases : Bool
  sites : List Site
  steps : List Step

mutual

/-- The scopes of a step, each before those inside it. -/
def Step.blocks : Step → List Block
  | .key _ => []
  | .other .. => []
  | .scope aliases sites steps => ⟨aliases, sites, steps⟩ :: Step.allBlocks steps

def Step.allBlocks : List Step → List Block
  | [] => []
  | step :: steps => step.blocks ++ Step.allBlocks steps

end

/-- The scopes of a statement at any depth. -/
def Sql.Statement.blocks (statement : Statement) : List Block := Step.allBlocks statement.steps

theorem Step.allBlocks_append (steps rest : List Step) :
    Step.allBlocks (steps ++ rest) = Step.allBlocks steps ++ Step.allBlocks rest := by
  induction steps with
  | nil => rfl
  | cons step steps ih => rw [List.cons_append, Step.allBlocks, Step.allBlocks, ih, List.append_assoc]

theorem Step.allBlocks_flat {steps : List Step} (hflat : ∀ step ∈ steps, Flat step) : Step.allBlocks steps = [] := by
  induction steps with
  | nil => rfl
  | cons step steps ih =>
    obtain ⟨hfirst, hrest⟩ := List.forall_mem_cons.mp hflat
    rw [Step.allBlocks, ih hrest, List.append_nil]
    cases step with
    | key predicate => rfl
    | other left operator text => rfl
    | scope aliases sites steps => exact hfirst.elim

variable {setting : Setting}

/-! ### Tables of a block -/

/-- Where the table of a site is sent in a scope with these steps. -/
def Site.home? (setting : Setting) (steps : List Step) (site : Site) : Option Destination :=
  (setting.bindingOf? site.name site.alias_).bind fun binding =>
    ((binding.hear setting.scan steps).settled? setting).map RoutedTable.route

/-- The name that the table of a site gets as its alias when it is sent to a route. -/
def Site.aliasFor (naming : Naming) (site : Site) (route : Destination) : Option String :=
  match site.name.split? with
  | some (_, table) =>
    if site.alias_.isNone && !Text.sameAscii route.table table.value && naming.scan.isQualifier table.value then
      some table.value
    else site.alias_
  | none => site.alias_

/-- Sends the table of a site home. It gets an alias only where `aliases` is set. -/
def Site.moved (naming : Naming) (home : Site → Option Destination) (aliases : Bool) (site : Site) : Site :=
  match home site with
  | some route =>
    { site with
      name := rename naming.defaultSchema route site.name
      alias_ := if aliases then site.aliasFor naming route else site.alias_ }
  | none => site

/-- A block after its tables are sent home. -/
structure Block.Moved (setting : Setting) (block moved : Block) : Prop where
  aliases : moved.aliases = block.aliases
  sites : moved.sites =
    block.sites.map (Site.moved setting.naming (Site.home? setting block.steps) block.aliases)

mutual

theorem Step.mem_closed {block : Block} {site : Site} {binding : Binding} (hsite : site ∈ block.sites)
    (hbinding : setting.bindingOf? site.name site.alias_ = some binding) : ∀ {step : Step}, block ∈ step.blocks →
      binding.hear setting.scan block.steps ∈ step.closed setting
  | .scope aliases sites steps, h => by
    rw [Step.closed]
    rcases List.mem_cons.mp h with rfl | h
    · have hbound : binding ∈ setting.bindingsOf sites := List.mem_filterMap.mpr ⟨site, hsite, hbinding⟩
      exact List.mem_append_right _ (List.mem_map_of_mem hbound)
    · exact List.mem_append_left _ (Step.mem_allClosed hsite hbinding h)

/-- Every table that a block binds is closed with what it hears there. -/
theorem Step.mem_allClosed {block : Block} {site : Site} {binding : Binding} (hsite : site ∈ block.sites)
    (hbinding : setting.bindingOf? site.name site.alias_ = some binding) : ∀ {steps : List Step},
      block ∈ Step.allBlocks steps → binding.hear setting.scan block.steps ∈ Step.allClosed setting steps
  | step :: steps, h => by
    rcases List.mem_append.mp h with h | h
    · exact List.mem_append_left _ (Step.mem_closed hsite hbinding h)
    · exact List.mem_append_right _ (Step.mem_allClosed hsite hbinding h)

end

/-- In a routed statement every table that a block binds has its home at the route of a routed table. -/
theorem home?_of_routed {statement : Statement} {routed : Routed} {block : Block} {site : Site} {binding : Binding}
    (h : (Router.routeStatement setting statement).result = .ok routed) (hblock : block ∈ statement.blocks)
    (hsite : site ∈ block.sites) (hbinding : setting.bindingOf? site.name site.alias_ = some binding) :
    ∃ table ∈ routed.tables, table.schema = binding.schema ∧ table.table = binding.table.value ∧
      Site.home? setting block.steps site = some table.route := by
  obtain ⟨-, hclosed, -, -⟩ := routeStatement_iff.mp h
  obtain ⟨table, htable, hsettles⟩ := exists_right_of_mem hclosed (Step.mem_allClosed hsite hbinding hblock)
  obtain ⟨hschema, hname, -⟩ := Binding.settled?_inv hsettles.settled
  refine ⟨table, htable, hschema, hname, ?_⟩
  rw [Site.home?, hbinding, Option.bind_some, hsettles.settled, Option.map_some]

/-! ### Moved tables as sites -/

theorem map_aliasFor (slot : Slot) (name : ObjectName) (alias_ : Option TableAlias) (route : Destination) :
    (setting.naming.aliasFor name alias_ route).map (fun given => given.name.value) =
      Site.aliasFor setting.naming ⟨slot, name, alias_.map fun given => given.name.value⟩ route := by
  unfold Naming.aliasFor Site.aliasFor
  cases name.split? with
  | none => rfl
  | some parts =>
    simp only [Option.isNone_map]
    split <;> rfl

/-- A numbered table after it is sent home. -/
def Factor.moved (naming : Naming) (home : Factor → Option Destination) (aliases : Bool) (factor : Factor) : Factor :=
  match home factor with
  | some route =>
    ⟨rename naming.defaultSchema route factor.name,
      if aliases then naming.aliasFor factor.name factor.alias_ route else factor.alias_⟩
  | none => factor

theorem tableFactors_moved (naming : Naming) (home : Factor → Option Destination) (aliases : Bool) :
    ∀ table : TableRef, tableFactors (table.moved naming home aliases) =
      (tableFactors table).map (Factor.moved naming home aliases)
  | .table name arguments alias_ hints => by
    simp only [TableRef.moved, tableFactors, List.map_cons, List.map_nil, Factor.moved]
    cases home ⟨name, alias_⟩ <;> rfl
  | .nested inner _ => tableFactors_moved naming home aliases inner
  | .join left _ right _ _ _ => by
    simp only [TableRef.moved, tableFactors, List.map_append, tableFactors_moved naming home aliases left,
      tableFactors_moved naming home aliases right]
  | .derived .. => rfl
  | .turned .. => rfl
  | .other .. => rfl

theorem factors_moved (naming : Naming) (home : Factor → Option Destination) (aliases : Bool)
    (tables : List TableRef) : factors (tables.map (TableRef.moved naming home aliases)) =
      (factors tables).map (Factor.moved naming home aliases) := by
  unfold factors
  induction tables with
  | nil => rfl
  | cons table tables ih =>
    rw [List.map_cons, List.flatMap_cons, List.flatMap_cons, List.map_append, ih, tableFactors_moved]

/-- Tables are sent home as sites like as numbered tables. -/
theorem sites_moved (steps : List Step) (aliases : Bool) (fs : List Factor) : ∀ index : Nat,
    Factor.sites index (fs.map (Factor.moved setting.naming (setting.home? steps) aliases)) =
      (Factor.sites index fs).map (Site.moved setting.naming (Site.home? setting steps) aliases) := by
  induction fs with
  | nil => exact fun _ => rfl
  | cons factor fs ih =>
    intro index
    rw [List.map_cons, Factor.sites, Factor.sites, List.map_cons, ih]
    congr 1
    have hhome : Site.home? setting steps
        ⟨.factor index, factor.name, factor.alias_.map fun alias_ => alias_.name.value⟩ =
          setting.home? steps factor := rfl
    unfold Factor.moved Site.moved
    rw [hhome]
    cases setting.home? steps factor with
    | none => rfl
    | some route =>
      cases aliases with
      | false => rfl
      | true =>
        simp only [if_true, ← map_aliasFor]

/-! ### Blocks of a placed tree -/

/-- The blocks of a script correspond one by one to those of another, in which their tables are sent home. -/
def Shifted (setting : Setting) (steps moved : List Step) : Prop :=
  List.Forall₂ (Block.Moved setting) (Step.allBlocks steps) (Step.allBlocks moved)

namespace Shifted

variable {steps moved rest rest' : List Step}

theorem nil : Shifted setting [] [] := List.Forall₂.nil

theorem append (h : Shifted setting steps moved) (h' : Shifted setting rest rest') :
    Shifted setting (steps ++ rest) (moved ++ rest') := by
  unfold Shifted
  rw [Step.allBlocks_append, Step.allBlocks_append]
  exact List.rel_append h h'

/-- Predicates are no blocks, whatever becomes of their texts. -/
theorem first {own own' : List Step} (hflat : ∀ step ∈ own, Flat step) (hflat' : ∀ step ∈ own', Flat step)
    (h : Shifted setting steps moved) : Shifted setting (own ++ steps) (own' ++ moved) := by
  unfold Shifted
  rw [Step.allBlocks_append, Step.allBlocks_append, Step.allBlocks_flat hflat, Step.allBlocks_flat hflat']
  exact h

theorem scope {aliases : Bool} {sites sites' : List Site}
    (hsites : sites' = sites.map (Site.moved setting.naming (Site.home? setting steps) aliases))
    (h : Shifted setting steps moved) :
    Shifted setting [.scope aliases sites steps] [.scope aliases sites' moved] := by
  unfold Shifted
  simp only [Step.allBlocks, Step.blocks, List.append_nil]
  exact .cons ⟨rfl, hsites⟩ h

end Shifted

/-- Nothing inside a table reference changes when its tables are sent home. -/
theorem steps_moved (naming : Naming) (home : Factor → Option Destination) (aliases : Bool) :
    ∀ table : TableRef, (table.moved naming home aliases).steps = table.steps
  | .table name _ alias_ _ => by
    rw [TableRef.moved]
    cases home ⟨name, alias_⟩ <;> rfl
  | .nested inner _ => steps_moved naming home aliases inner
  | .join left _ right _ _ _ => by
    simp only [TableRef.moved, TableRef.steps, steps_moved naming home aliases left,
      steps_moved naming home aliases right]
  | .derived .. => rfl
  | .turned .. => rfl
  | .other .. => rfl

theorem allSteps_moved (naming : Naming) (home : Factor → Option Destination) (aliases : Bool)
    (tables : List TableRef) :
    TableRef.allSteps (tables.map (TableRef.moved naming home aliases)) = TableRef.allSteps tables := by
  induction tables with
  | nil => rfl
  | cons table tables ih => rw [List.map_cons, TableRef.allSteps, TableRef.allSteps, steps_moved, ih]

theorem sites_placed (steps : List Step) (aliases : Bool) (from_ : List TableRef) :
    Factor.sites 0 (factors ((TableRef.placedAll setting from_).map
        (TableRef.moved setting.naming (setting.home? steps) aliases))) =
      (Factor.sites 0 (factors from_)).map (Site.moved setting.naming (Site.home? setting steps) aliases) := by
  rw [factors_moved, factors_placed, sites_moved]

theorem factors_listed (steps : List Step) (from_ : List TableRef) (using_ : Option (List TableRef)) :
    factors ((TableRef.placedAll setting from_).map (TableRef.moved setting.naming (setting.home? steps) false)) ++
      factors (((TableRef.placedOptional setting using_).map
        (List.map (TableRef.moved setting.naming (setting.home? steps) false))).getD []) =
      (factors from_ ++ factors (using_.getD [])).map
        (Factor.moved setting.naming (setting.home? steps) false) := by
  have husing : factors (((TableRef.placedOptional setting using_).map
      (List.map (TableRef.moved setting.naming (setting.home? steps) false))).getD []) =
        (factors (using_.getD [])).map (Factor.moved setting.naming (setting.home? steps) false) := by
    cases using_ with
    | none => rfl
    | some tables =>
      rw [TableRef.placedOptional, Option.map_some, Option.getD_some, Option.getD_some, factors_moved, factors_placed]
  rw [husing, factors_moved, factors_placed, ← List.map_append]

theorem sites_listed (steps : List Step) (from_ : List TableRef) (using_ : Option (List TableRef)) :
    Factor.sites 0 (factors ((TableRef.placedAll setting from_).map
        (TableRef.moved setting.naming (setting.home? steps) false)) ++
      factors (((TableRef.placedOptional setting using_).map
        (List.map (TableRef.moved setting.naming (setting.home? steps) false))).getD [])) =
      (Factor.sites 0 (factors from_ ++ factors (using_.getD []))).map
        (Site.moved setting.naming (Site.home? setting steps) false) := by
  rw [factors_listed, sites_moved]

theorem sites_target (steps : List Step) (target : ObjectName) :
    [(⟨.target, target.moved setting.naming (setting.home? steps), none⟩ : Site)] =
      [(⟨.target, target, none⟩ : Site)].map (Site.moved setting.naming (Site.home? setting steps) false) := by
  have hhome : Site.home? setting steps ⟨.target, target, none⟩ = setting.home? steps ⟨target, none⟩ := rfl
  simp only [List.map_cons, List.map_nil, Site.moved, ObjectName.moved, hhome]
  cases setting.home? steps ⟨target, none⟩ <;> rfl

mutual

theorem Expr.shifted : ∀ (e : Expr) (underNot : Bool),
    Shifted setting (e.steps underNot) ((e.placed setting).steps underNot)
  | .ident _, _ => .nil
  | .column _, _ => .nil
  | .literal _, _ => .nil
  | .typed _ _, _ => .nil
  | .nested operand, underNot => Expr.shifted operand underNot
  | .not operand, _ => Expr.shifted operand true
  | .sign _ operand, underNot => Expr.shifted operand underNot
  | .binary left _ right, underNot => .first (ownSteps_flat underNot _) (ownSteps_flat underNot _)
    ((Expr.shifted left underNot).append (Expr.shifted right underNot))
  | .inList left _ items, underNot => .first (ownSteps_flat underNot _) (ownSteps_flat underNot _)
    ((Expr.shifted left underNot).append (Expr.shiftedAll items underNot))
  | .between left _ low high, underNot => .first (ownSteps_flat underNot _) (ownSteps_flat underNot _)
    ((Expr.shifted left underNot).append ((Expr.shifted low underNot).append (Expr.shifted high underNot)))
  | .test left _ _ right, underNot => .first (ownSteps_flat underNot _) (ownSteps_flat underNot _)
    ((Expr.shifted left underNot).append (Expr.shifted right underNot))
  | .isNull operand, underNot => .first (ownSteps_flat underNot _) (ownSteps_flat underNot _)
    (Expr.shifted operand underNot)
  | .subquery query, _ => Query.shifted query
  | .trim _ what subject, underNot => (Expr.shifted subject underNot).append (Expr.shifted what underNot)
  | .call _ pieces, underNot => Piece.shiftedAll pieces underNot
  | .form pieces, underNot => Piece.shiftedAll pieces underNot

theorem Expr.shiftedAll : ∀ (es : List Expr) (underNot : Bool),
    Shifted setting (Expr.allSteps underNot es) (Expr.allSteps underNot (Expr.placedAll setting es))
  | [], _ => .nil
  | e :: es, underNot => (Expr.shifted e underNot).append (Expr.shiftedAll es underNot)

theorem Expr.shiftedOptional : ∀ (e : Option Expr) (underNot : Bool),
    Shifted setting (Expr.optionalSteps underNot e) (Expr.optionalSteps underNot (Expr.placedOptional setting e))
  | none, _ => .nil
  | some e, underNot => Expr.shifted e underNot

theorem Expr.shiftedRows : ∀ rows : List (List Expr),
    Shifted setting (Expr.rowSteps rows) (Expr.rowSteps (Expr.placedRows setting rows))
  | [] => .nil
  | row :: rows => (Expr.shiftedAll row false).append (Expr.shiftedRows rows)

theorem Piece.shiftedAll : ∀ (pieces : List Piece) (underNot : Bool),
    Shifted setting (Piece.allSteps underNot pieces) (Piece.allSteps underNot (Piece.placedAll setting pieces))
  | [], _ => .nil
  | piece :: pieces, underNot => (Piece.shifted piece underNot).append (Piece.shiftedAll pieces underNot)

theorem Piece.shifted : ∀ (piece : Piece) (underNot : Bool),
    Shifted setting (piece.steps underNot) ((piece.placed setting).steps underNot)
  | .words _, _ => .nil
  | .part operand, underNot => Expr.shifted operand underNot
  | .aside _, _ => .nil

theorem Query.shifted : ∀ query : Query, Shifted setting query.steps (query.placed setting).steps
  | { recursive := _, ctes, body, orderBy, limit, offset, limitBy, settings := _, fetch, ending := _ } =>
    (Cte.shiftedAll ctes).append (Body.shifted body ((Expr.shiftedAll orderBy false).append
      ((Expr.shiftedOptional limit false).append ((Expr.shiftedAll limitBy false).append
        ((Expr.shiftedOptional offset false).append (Expr.shiftedOptional fetch false))))))

theorem Cte.shifted : ∀ cte : Cte, Shifted setting cte.steps (cte.placed setting).steps
  | { alias_ := _, keyword := _, query, source := _ } => Query.shifted query

theorem Cte.shiftedAll : ∀ ctes : List Cte,
    Shifted setting (Cte.allSteps ctes) (Cte.allSteps (Cte.placedAll setting ctes))
  | [] => .nil
  | cte :: ctes => (Cte.shifted cte).append (Cte.shiftedAll ctes)

theorem Body.shifted : ∀ (body : Body) {tail tail' : List Step}, Shifted setting tail tail' →
    Shifted setting (body.steps tail) ((body.placed setting tail).steps tail')
  | .select select, _, _, htail => Select.shifted select htail
  | .query query, _, _, htail => (Query.shifted query).append htail
  | .setOperation left _ right, _, _, htail => (Body.shifted left .nil).append ((Body.shifted right .nil).append htail)
  | .values _ rows, _, _, htail => (Expr.shiftedRows rows).append htail
  | .table _ _, _, _, htail => htail
  | .statement statement, _, _, htail => (Statement.shifted statement).append htail

theorem Select.shifted : ∀ (select : Select) {tail tail' : List Step}, Shifted setting tail tail' →
    Shifted setting (select.steps tail) ((select.placed setting tail).steps tail')
  | { head := _, projection, into := _, from_, views := _, prewhere, selection, groupBy, groupTail := _,
      clusterBy, distributeBy, sortBy, having, windowsBefore := _, qualify, windowsAfter := _,
      connectBy := _ }, _, _, htail => by
    refine .scope (sites_placed _ true from_) ?_
    rw [allSteps_moved]
    refine (TableRef.shiftedAll from_).append ((Expr.shiftedAll projection false).append ?_)
    refine (Expr.shiftedOptional prewhere false).append ((Expr.shiftedOptional selection false).append ?_)
    refine (Expr.shiftedAll groupBy false).append ((Expr.shiftedOptional having false).append ?_)
    refine (Expr.shiftedOptional qualify false).append ((Expr.shiftedAll clusterBy false).append ?_)
    exact (Expr.shiftedAll distributeBy false).append ((Expr.shiftedAll sortBy false).append htail)

theorem TableRef.shifted : ∀ table : TableRef, Shifted setting table.steps (table.placed setting).steps
  | .table .. => .nil
  | .derived _ query _ => Query.shifted query
  | .nested inner _ => TableRef.shifted inner
  | .join left _ right matching on _ => (TableRef.shifted left).append ((TableRef.shifted right).append
    ((Expr.shiftedOptional matching false).append (Expr.shiftedOptional on false)))
  | .turned .. => .nil
  | .other .. => .nil

theorem TableRef.shiftedAll : ∀ tables : List TableRef,
    Shifted setting (TableRef.allSteps tables) (TableRef.allSteps (TableRef.placedAll setting tables))
  | [] => .nil
  | table :: tables => (TableRef.shifted table).append (TableRef.shiftedAll tables)

theorem Insert.shifted : ∀ insert : Insert, Shifted setting insert.steps (insert.placed setting).steps
  | { head := _, target, alias_ := _, columns := _, middle := _, source := some query, trailer := _ } =>
    .scope (sites_target _ target) (.first (insert_ownSteps_flat _) (insert_ownSteps_flat _) (Query.shifted query))
  | { head := _, target, alias_ := _, columns := _, middle := _, source := none, trailer := _ } =>
    .scope (sites_target _ target) (.first (insert_ownSteps_flat _) (insert_ownSteps_flat _) .nil)

theorem Update.shifted : ∀ update : Update, Shifted setting update.steps (update.placed setting).steps
  | { conflict := _, table, fromBefore := _, assignments, fromAfter := _, selection, returning := _ } => by
    refine .scope ?_ ?_
    · rw [tableFactors_moved, tableFactors_placed, sites_moved]
      rfl
    · rw [steps_moved]
      exact (TableRef.shifted table).append
        ((Expr.shiftedAll assignments false).append (Expr.shiftedOptional selection false))

theorem Delete.shifted : ∀ delete : Delete, Shifted setting delete.steps (delete.placed setting).steps
  | { targets := _, fromKeyword := _, from_, using_ := some others, selection, returning := _, orderBy, limit } => by
    refine .scope (sites_listed _ from_ (some others)) ?_
    rw [allSteps_moved]
    refine (TableRef.shiftedAll from_).append (.append ?_ ((Expr.shiftedOptional selection false).append
      ((Expr.shiftedAll orderBy false).append (Expr.shiftedOptional limit false))))
    change Shifted setting (TableRef.allSteps others)
      (TableRef.allSteps (List.map (TableRef.moved _ _ false) (TableRef.placedAll setting others)))
    rw [allSteps_moved]
    exact TableRef.shiftedAll others
  | { targets := _, fromKeyword := _, from_, using_ := none, selection, returning := _, orderBy, limit } => by
    refine .scope (sites_listed _ from_ none) ?_
    rw [allSteps_moved]
    exact (TableRef.shiftedAll from_).append (.append .nil ((Expr.shiftedOptional selection false).append
      ((Expr.shiftedAll orderBy false).append (Expr.shiftedOptional limit false))))

theorem Statement.shifted : ∀ statement : Statement,
    Shifted setting statement.steps (statement.placed setting).steps
  | .query query => Query.shifted query
  | .insert insert => Insert.shifted insert
  | .update update => Update.shifted update
  | .delete delete => Delete.shifted delete
  | .other => .nil

end

/-- A block of a statement stays in its place when the statement is routed. -/
theorem routed_block {statement : Statement} {routed : Routed} {i : Nat} {block : Block}
    (h : (Router.routeStatement setting statement).result = .ok routed) (hblock : statement.blocks[i]? = some block) :
    ∃ moved, routed.statement.blocks[i]? = some moved ∧ block.Moved setting moved := by
  have hshifted : List.Forall₂ (Block.Moved setting) statement.blocks routed.statement.blocks := by
    rw [routeStatement_placed h]
    exact Statement.shifted statement
  obtain ⟨hi, rfl⟩ := List.getElem?_eq_some_iff.mp hblock
  have hi' : i < routed.statement.blocks.length := hshifted.length_eq ▸ hi
  exact ⟨_, List.getElem?_eq_getElem hi', hshifted.get hi hi'⟩

end ShardRouting
