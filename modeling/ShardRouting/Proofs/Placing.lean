import ShardRouting.Proofs.Digest

/-! Placing tables. A table is sent where it is settled by all that its scope says, so its new name can be told from
    its scope alone. The statement that a routing gives is the one in which every table is placed that way. -/

namespace ShardRouting
open Sql Walk

/-! ### Homes -/

/-- Where a table is sent in a scope with these steps. -/
def Setting.home? (setting : Setting) (steps : List Step) (factor : Factor) : Option Destination :=
  (setting.bindingAt? factor).bind fun binding =>
    ((binding.hear setting.scan steps).settled? setting).map RoutedTable.route

namespace Sql

section
variable (naming : Naming) (home : Factor → Option Destination)

def ObjectName.moved (name : ObjectName) : ObjectName :=
  match home ⟨name, none⟩ with
  | some route => rename naming.defaultSchema route name
  | none => name

/-- Sends the tables of a reference home. They get aliases only where `aliases` is set. -/
def TableRef.moved (aliases : Bool) : TableRef → TableRef
  | .table name arguments alias_ hints => match home ⟨name, alias_⟩ with
    | some route =>
      let given := if aliases then naming.aliasFor name alias_ route else alias_
      .table (rename naming.defaultSchema route name) arguments given hints
    | none => .table name arguments alias_ hints
  | .nested inner alias_ => .nested (inner.moved aliases) alias_
  | .join left words right matching on using_ =>
    .join (left.moved aliases) words (right.moved aliases) matching on using_
  | .derived lateral query alias_ => .derived lateral query alias_
  | .turned source pieces alias_ => .turned source pieces alias_
  | .other pieces alias_ trailer => .other pieces alias_ trailer

/-- The tables among some that have a home. -/
def Factor.homes (fs : List Factor) : List (Factor × Destination) :=
  fs.filterMap fun factor => (home factor).map fun route => (factor, route)

theorem Factor.homes_cons (factor : Factor) (fs : List Factor) : Factor.homes home (factor :: fs) =
    ((home factor).map fun route => (factor, route)).toList ++ Factor.homes home fs := by
  unfold Factor.homes
  cases h : home factor with
  | none => rw [List.filterMap_cons_none (by rw [h, Option.map_none]), Option.map_none, Option.toList_none,
      List.nil_append]
  | some route => rw [List.filterMap_cons_some (by rw [h, Option.map_some]), Option.map_some, Option.toList_some,
      List.singleton_append]

end

section
variable (setting : Setting)

mutual

def Expr.placed : Expr → Expr
  | .ident name => .ident name
  | .column parts => .column parts
  | .literal value => .literal value
  | .typed type value => .typed type value
  | .nested operand => .nested operand.placed
  | .not operand => .not operand.placed
  | .sign negative operand => .sign negative operand.placed
  | .binary left op right => .binary left.placed op right.placed
  | .inList left negated items => .inList left.placed negated (Expr.placedAll items)
  | .between left negated low high => .between left.placed negated low.placed high.placed
  | .test left negated kind right => .test left.placed negated kind right.placed
  | .isNull operand => .isNull operand.placed
  | .subquery query => .subquery query.placed
  | .trim side what subject => .trim side what.placed subject.placed
  | .call name pieces => .call name (Piece.placedAll pieces)
  | .form pieces => .form (Piece.placedAll pieces)

def Expr.placedAll : List Expr → List Expr
  | [] => []
  | e :: es => e.placed :: Expr.placedAll es

def Expr.placedOptional : Option Expr → Option Expr
  | none => none
  | some e => some e.placed

def Expr.placedRows : List (List Expr) → List (List Expr)
  | [] => []
  | row :: rows => Expr.placedAll row :: Expr.placedRows rows

def Piece.placed : Piece → Piece
  | .words text => .words text
  | .part operand => .part operand.placed
  | .aside operand => .aside operand

def Piece.placedAll : List Piece → List Piece
  | [] => []
  | piece :: pieces => piece.placed :: Piece.placedAll pieces

def Query.placed : Query → Query
  | { recursive, ctes, body, orderBy, limit, offset, limitBy, settings, fetch, ending } => {
      recursive
      ctes := Cte.placedAll ctes
      body := body.placed (Expr.allSteps false orderBy ++ (Expr.optionalSteps false limit ++
        (Expr.allSteps false limitBy ++ (Expr.optionalSteps false offset ++ Expr.optionalSteps false fetch))))
      orderBy := Expr.placedAll orderBy
      limit := Expr.placedOptional limit
      offset := Expr.placedOptional offset
      limitBy := Expr.placedAll limitBy
      settings
      fetch := Expr.placedOptional fetch
      ending }

def Cte.placed : Cte → Cte
  | { alias_, keyword, query, source } => { alias_, keyword, query := query.placed, source }

def Cte.placedAll : List Cte → List Cte
  | [] => []
  | cte :: ctes => cte.placed :: Cte.placedAll ctes

/-- Places the tables of a body; `tail` are the steps of the clauses behind it. -/
def Body.placed (tail : List Step) : Body → Body
  | .select select => .select (select.placed tail)
  | .query query => .query query.placed
  | .setOperation left words right => .setOperation (left.placed []) words (right.placed [])
  | .values explicitRow rows => .values explicitRow (Expr.placedRows rows)
  | .table schema name => .table schema name
  | .statement statement => .statement statement.placed

def Select.placed (tail : List Step) : Select → Select
  | { head, projection, into, from_, views, prewhere, selection, groupBy, groupTail, clusterBy,
      distributeBy, sortBy, having, windowsBefore, qualify, windowsAfter, connectBy } =>
    let home := setting.home? (Step.inside (Select.steps tail {
      head, projection, into, from_, views, prewhere, selection, groupBy, groupTail, clusterBy,
      distributeBy, sortBy, having, windowsBefore, qualify, windowsAfter, connectBy }))
    { head, into, views, groupTail, windowsBefore, windowsAfter, connectBy
      projection := Expr.placedAll projection
      from_ := (TableRef.placedAll from_).map (TableRef.moved setting.naming home true)
      prewhere := Expr.placedOptional prewhere
      selection := Expr.placedOptional selection
      groupBy := Expr.placedAll groupBy
      clusterBy := Expr.placedAll clusterBy
      distributeBy := Expr.placedAll distributeBy
      sortBy := Expr.placedAll sortBy
      having := Expr.placedOptional having
      qualify := Expr.placedOptional qualify }

/-- Places what stands inside a table reference. Its tables belong to the scope around it. -/
def TableRef.placed : TableRef → TableRef
  | .table name arguments alias_ hints => .table name arguments alias_ hints
  | .derived lateral query alias_ => .derived lateral query.placed alias_
  | .nested inner alias_ => .nested inner.placed alias_
  | .join left words right matching on using_ =>
    .join left.placed words right.placed (Expr.placedOptional matching) (Expr.placedOptional on) using_
  | .turned source pieces alias_ => .turned source pieces alias_
  | .other pieces alias_ trailer => .other pieces alias_ trailer

def TableRef.placedAll : List TableRef → List TableRef
  | [] => []
  | table :: tables => table.placed :: TableRef.placedAll tables

def TableRef.placedOptional : Option (List TableRef) → Option (List TableRef)
  | none => none
  | some tables => some (TableRef.placedAll tables)

def Query.placedOptional : Option Query → Option Query
  | none => none
  | some query => some query.placed

def Insert.placed : Insert → Insert
  | { head, target, alias_, columns, middle, source, trailer } =>
    let home := setting.home? (Step.inside (Insert.steps { head, target, alias_, columns, middle, source, trailer }))
    { head, alias_, columns, middle, trailer
      target := target.moved setting.naming home
      source := Query.placedOptional source }

def Update.placed : Update → Update
  | { conflict, table, fromBefore, assignments, fromAfter, selection, returning } =>
    let home := setting.home? (Step.inside (Update.steps {
      conflict, table, fromBefore, assignments, fromAfter, selection, returning }))
    { conflict, fromBefore, fromAfter, returning
      table := table.placed.moved setting.naming home true
      assignments := Expr.placedAll assignments
      selection := Expr.placedOptional selection }

def Delete.placed : Delete → Delete
  | { targets, fromKeyword, from_, using_, selection, returning, orderBy, limit } =>
    let home := setting.home? (Step.inside (Delete.steps {
      targets, fromKeyword, from_, using_, selection, returning, orderBy, limit }))
    { fromKeyword, returning
      targets := targets.map (setting.naming.follow (Factor.homes home (factors from_ ++ factors (using_.getD []))))
      from_ := (TableRef.placedAll from_).map (TableRef.moved setting.naming home false)
      using_ := (TableRef.placedOptional using_).map (List.map (TableRef.moved setting.naming home false))
      selection := Expr.placedOptional selection
      orderBy := Expr.placedAll orderBy
      limit := Expr.placedOptional limit }

def Statement.placed : Statement → Statement
  | .query query => .query query.placed
  | .insert insert => .insert insert.placed
  | .update update => .update update.placed
  | .delete delete => .delete delete.placed
  | .other => .other

end

end

end Sql

/-! ### Tables at home -/

variable {setting : Setting} {α β : Type} {steps rest : List Step} {tables : List RoutedTable} {binding : Binding}
  {factor : Factor}

theorem Setting.naming_eq (setting : Setting) (factor : Factor) :
    setting.naming.sharded factor.name = (setting.bindingAt? factor).isSome := by
  let site : Site := ⟨.target, factor.name, factor.alias_.map fun alias_ => alias_.name.value⟩
  exact setting.naming_sharded site

theorem Setting.home?_of_none (h : setting.bindingAt? factor = none) : setting.home? steps factor = none := by
  rw [home?, h, Option.bind_none]

theorem Setting.home?_of_closed {table : RoutedTable} (h : setting.bindingAt? factor = some binding)
    (hclosed : Closed setting (binding.hear setting.scan steps) table) :
    setting.home? steps factor = some table.route := by
  rw [home?, h, Option.bind_some, hclosed.settled, Option.map_some]

theorem forall₂_append_left {R : α → β → Prop} : ∀ {l k : List α} {m : List β}, List.Forall₂ R (l ++ k) m →
    ∃ first rest, List.Forall₂ R l first ∧ List.Forall₂ R k rest ∧ m = first ++ rest
  | [], _, m, h => ⟨[], m, .nil, h, rfl⟩
  | _ :: _, _, b :: _, .cons hab h => by
    obtain ⟨first, rest, hfirst, hrest, rfl⟩ := forall₂_append_left h
    exact ⟨b :: first, rest, .cons hab hfirst, hrest, rfl⟩

/-- The tables of a scope with these steps, as they are settled. -/
def Housed (setting : Setting) (steps : List Step) (fs : List Factor) (tables : List RoutedTable) : Prop :=
  List.Forall₂ (Closed setting) ((fs.filterMap setting.bindingAt?).map (Binding.hear setting.scan steps)) tables

namespace Housed

theorem split {fs gs : List Factor} (h : Housed setting steps (fs ++ gs) tables) :
    ∃ first rest, Housed setting steps fs first ∧ Housed setting steps gs rest ∧ tables = first ++ rest := by
  unfold Housed at h
  rw [List.filterMap_append, List.map_append] at h
  exact forall₂_append_left h

/-- The first table of a scope is no bound one, or has its home there. -/
theorem cons {fs : List Factor} (h : Housed setting steps (factor :: fs) tables) :
    setting.naming.sharded factor.name = false ∧ setting.home? steps factor = none ∧ Housed setting steps fs tables ∨
      ∃ table others, tables = table :: others ∧ setting.naming.sharded factor.name = true ∧
        setting.home? steps factor = some table.route ∧ Housed setting steps fs others := by
  rw [setting.naming_eq]
  unfold Housed at h
  cases hbound : setting.bindingAt? factor with
  | none =>
    rw [List.filterMap_cons_none hbound] at h
    exact .inl ⟨rfl, Setting.home?_of_none hbound, h⟩
  | some binding =>
    rw [List.filterMap_cons_some hbound, List.map_cons] at h
    cases h with
    | cons hfirst hrest => exact .inr ⟨_, _, rfl, rfl, Setting.home?_of_closed hbound hfirst, hrest⟩

theorem nil (h : Housed setting steps [] tables) : tables = [] := by
  cases h
  rfl

/-- The homes of the tables of a scope are the routes of the sharded ones. -/
theorem homes {fs : List Factor} (h : Housed setting steps fs tables) :
    (fs.filter fun factor => setting.naming.sharded factor.name).length = tables.length ∧
      (fs.filter fun factor => setting.naming.sharded factor.name).zip (tables.map RoutedTable.route) =
        Factor.homes (setting.home? steps) fs := by
  induction fs generalizing tables with
  | nil =>
    rw [h.nil]
    exact ⟨rfl, rfl⟩
  | cons factor fs ih =>
    rcases h.cons with ⟨hsharded, hhome, hrest⟩ | ⟨table, others, rfl, hsharded, hhome, hrest⟩
    · obtain ⟨hlength, hzip⟩ := ih hrest
      rw [List.filter_cons_of_neg (by simp [hsharded]), Factor.homes_cons, hhome]
      exact ⟨hlength, hzip⟩
    · obtain ⟨hlength, hzip⟩ := ih hrest
      rw [List.filter_cons_of_pos (by simp [hsharded]), Factor.homes_cons, hhome, List.map_cons, List.zip_cons_cons,
        hzip, List.length_cons, List.length_cons, hlength]
      exact ⟨rfl, rfl⟩

end Housed

theorem settle_target {target : ObjectName} (h : Housed setting steps [⟨target, none⟩] tables) :
    Writes (target.settle setting.naming) tables (target.moved setting.naming (setting.home? steps)) := by
  unfold ObjectName.settle ObjectName.moved
  rcases h.cons with ⟨hsharded, hhome, hrest⟩ | ⟨table, others, rfl, hsharded, hhome, hrest⟩
  · rw [hrest.nil, hhome, if_neg (Bool.eq_false_iff.mp hsharded)]
    exact .pure _
  · rw [hrest.nil, hhome, if_pos hsharded]
    exact .next (.pure _)

theorem settle_moved (aliases : Bool) : ∀ (table : TableRef) {tables : List RoutedTable},
    Housed setting steps (tableFactors table) tables →
      Writes (table.settle setting.naming aliases) tables (table.moved setting.naming (setting.home? steps) aliases)
  | .table name arguments alias_ hints, tables, h => by
    unfold TableRef.settle TableRef.moved
    rcases h.cons with ⟨hsharded, hhome, hrest⟩ | ⟨table, others, rfl, hsharded, hhome, hrest⟩
    · rw [hrest.nil, hhome, if_neg (Bool.eq_false_iff.mp hsharded)]
      exact .pure _
    · rw [hrest.nil, hhome, if_pos hsharded]
      exact .next (.pure _)
  | .nested inner _, _, h => (settle_moved aliases inner h).map _
  | .join left _ right _ _ _, _, h => by
    obtain ⟨first, rest, hleft, hright, rfl⟩ := Housed.split h
    exact (settle_moved aliases left hleft).bind ((settle_moved aliases right hright).map _)
  | .derived .., _, h => by
    rw [h.nil]
    exact .pure _
  | .turned .., _, h => by
    rw [h.nil]
    exact .pure _
  | .other .., _, h => by
    rw [h.nil]
    exact .pure _

theorem settleAll_moved (aliases : Bool) : ∀ (trees : List TableRef) {tables : List RoutedTable},
    Housed setting steps (factors trees) tables → Writes (TableRef.settleAll setting.naming aliases trees) tables
      (trees.map (TableRef.moved setting.naming (setting.home? steps) aliases))
  | [], _, h => by
    rw [h.nil]
    exact .pure _
  | tree :: trees, _, h => by
    obtain ⟨first, rest, hfirst, hrest, rfl⟩ := Housed.split h
    exact (settle_moved aliases tree hfirst).bind ((settleAll_moved aliases trees hrest).map _)

theorem settleOptional_moved (aliases : Bool) : ∀ (trees : Option (List TableRef)) {tables : List RoutedTable},
    Housed setting steps (factors (trees.getD [])) tables →
      Writes (TableRef.settleOptional setting.naming aliases trees) tables
        (trees.map (List.map (TableRef.moved setting.naming (setting.home? steps) aliases)))
  | none, _, h => by
    rw [h.nil]
    exact .pure _
  | some trees, _, h => (settleAll_moved aliases trees h).map some

theorem Setting.bindingsOf_target (target : ObjectName) :
    setting.bindingsOf [⟨.target, target, none⟩] = [(⟨target, none⟩ : Factor)].filterMap setting.bindingAt? := rfl

theorem tableFactors_placed : ∀ table : TableRef, tableFactors (table.placed setting) = tableFactors table
  | .table .. => rfl
  | .nested inner _ => tableFactors_placed inner
  | .join left _ right _ _ _ => congrArg₂ (· ++ ·) (tableFactors_placed left) (tableFactors_placed right)
  | .derived .. => rfl
  | .turned .. => rfl
  | .other .. => rfl

theorem factors_placed (trees : List TableRef) : factors (TableRef.placedAll setting trees) = factors trees := by
  induction trees with
  | nil => rfl
  | cons tree trees ih => exact congrArg₂ (· ++ ·) (tableFactors_placed tree) ih

theorem factors_placedOptional (trees : Option (List TableRef)) :
    factors ((TableRef.placedOptional setting trees).getD []) = factors (trees.getD []) := by
  cases trees with
  | none => rfl
  | some trees => exact factors_placed trees

/-! ### Writing along a script -/

/-- Predicates close nothing. -/
theorem Step.allClosed_flat (hflat : ∀ step ∈ steps, Flat step) : Step.allClosed setting steps = [] := by
  rw [Step.allClosed_eq, List.flatMap_eq_nil_iff]
  intro step hstep
  have hstep := hflat step hstep
  cases step <;> first | rfl | cases hstep

/-- With the tables that a script closes, a tree is written in this way. -/
def Along (setting : Setting) (steps : List Step) (x : Writing α) (a : α) : Prop :=
  ∀ tables, List.Forall₂ (Closed setting) (Step.allClosed setting steps) tables → Writes x tables a

namespace Along

variable {x : Writing α} {f : α → Writing β} {a : α} {b : β}

theorem pure (a : α) : Along setting [] (Pure.pure a) a := by
  intro tables hclosed
  cases hclosed
  exact .pure a

theorem bind (hx : Along setting steps x a) (hf : Along setting rest (f a) b) :
    Along setting (steps ++ rest) (x >>= f) b := by
  intro tables hclosed
  rw [Step.allClosed_append] at hclosed
  obtain ⟨first, second, hfirst, hsecond, rfl⟩ := forall₂_append_left hclosed
  exact (hx first hfirst).bind (hf second hsecond)

theorem map (hx : Along setting steps x a) (f : α → β) :
    Along setting steps (x >>= fun a => Pure.pure (f a)) (f a) :=
  fun tables hclosed => (hx tables hclosed).map f

end Along

/-- With the tables that a part of a scope closes, and behind them those of the scope itself, a tree is written in
    this way. -/
def Within (setting : Setting) (whole : List Step) (fs : List Factor) (steps : List Step) (x : Writing α) (a : α) :
    Prop :=
  ∀ tables own, List.Forall₂ (Closed setting) (Step.allClosed setting steps) tables →
    Housed setting whole fs own → Writes x (tables ++ own) a

namespace Within

variable {whole : List Step} {fs : List Factor} {x : Writing α} {f : α → Writing β} {a : α} {b : β}

theorem own (h : ∀ own, Housed setting whole fs own → Writes x own a) : Within setting whole fs [] x a := by
  intro tables own hclosed hown
  cases hclosed
  exact h own hown

theorem bind (hx : Along setting steps x a) (hf : Within setting whole fs rest (f a) b) :
    Within setting whole fs (steps ++ rest) (x >>= f) b := by
  intro tables own hclosed hown
  rw [Step.allClosed_append] at hclosed
  obtain ⟨first, second, hfirst, hsecond, rfl⟩ := forall₂_append_left hclosed
  rw [List.append_assoc]
  exact (hx first hfirst).bind (hf second own hsecond hown)

/-- The last part of a scope, behind which its own tables are settled. -/
theorem last (hx : Along setting steps x a) (h : ∀ own, Housed setting whole fs own → Writes (f a) own b) :
    Within setting whole fs steps (x >>= f) b := by
  rw [← List.append_nil steps]
  exact bind hx (.own h)

theorem first (hflat : ∀ step ∈ steps, Flat step) (hx : Within setting whole fs rest x a) :
    Within setting whole fs (steps ++ rest) x a := by
  intro tables own hclosed hown
  rw [Step.allClosed_append, Step.allClosed_flat hflat] at hclosed
  exact hx tables own hclosed hown

end Within

namespace Along

variable {x : Writing α} {a : α}

theorem first (hflat : ∀ step ∈ steps, Flat step) (hx : Along setting rest x a) :
    Along setting (steps ++ rest) x a := by
  intro tables hclosed
  rw [Step.allClosed_append, Step.allClosed_flat hflat] at hclosed
  exact hx tables hclosed

/-- In a scope the tables that are inside come before its own. -/
theorem scope {aliases : Bool} {sites : List Site} {fs : List Factor}
    (hsites : setting.bindingsOf sites = fs.filterMap setting.bindingAt?)
    (h : Within setting steps fs steps x a) : Along setting [.scope aliases sites steps] x a := by
  intro tables hclosed
  rw [Step.allClosed, Step.closed, Step.allClosed, List.append_nil, hsites] at hclosed
  obtain ⟨inner, own, hinner, hown, rfl⟩ := forall₂_append_left hclosed
  exact h inner own hinner hown

end Along

/-! ### Trees -/

theorem Delete.write_own {from_ : List TableRef} {using_ : Option (List TableRef)} {whole : List Step}
    {own : List RoutedTable} (h : Housed setting whole (factors from_ ++ factors (using_.getD [])) own)
    (f : List (Factor × Destination) → List TableRef → Option (List TableRef) → Delete) :
    Writes (do
      let homes ← homes setting.naming (factors (TableRef.placedAll setting from_) ++
        factors ((TableRef.placedOptional setting using_).getD []))
      let from_ ← TableRef.settleAll setting.naming false (TableRef.placedAll setting from_)
      let using_ ← TableRef.settleOptional setting.naming false (TableRef.placedOptional setting using_)
      return f homes from_ using_) own
      (f (Factor.homes (setting.home? whole) (factors from_ ++ factors (using_.getD [])))
        ((TableRef.placedAll setting from_).map (TableRef.moved setting.naming (setting.home? whole) false))
        ((TableRef.placedOptional setting using_).map
          (List.map (TableRef.moved setting.naming (setting.home? whole) false)))) := by
  obtain ⟨hlength, hhomes⟩ := h.homes
  rw [← hhomes]
  rw [← factors_placed from_, ← factors_placedOptional using_] at h hlength ⊢
  obtain ⟨first, rest, hfirst, hrest, rfl⟩ := h.split
  exact .homes hlength ((settleAll_moved false _ hfirst).bind ((settleOptional_moved false _ hrest).map _))

mutual

theorem Expr.along : ∀ (e : Expr) (underNot : Bool),
    Along setting (e.steps underNot) (e.write setting.naming) (e.placed setting)
  | .ident _, _ => .pure _
  | .column _, _ => .pure _
  | .literal _, _ => .pure _
  | .typed _ _, _ => .pure _
  | .nested operand, underNot => (Expr.along operand underNot).map _
  | .not operand, _ => (Expr.along operand true).map _
  | .sign _ operand, underNot => (Expr.along operand underNot).map _
  | .binary left _ right, underNot =>
    .first (ownSteps_flat underNot _) ((Expr.along left underNot).bind ((Expr.along right underNot).map _))
  | .inList left _ items, underNot =>
    .first (ownSteps_flat underNot _) ((Expr.along left underNot).bind ((Expr.alongAll items underNot).map _))
  | .between left _ low high, underNot =>
    .first (ownSteps_flat underNot _) ((Expr.along left underNot).bind
      ((Expr.along low underNot).bind ((Expr.along high underNot).map _)))
  | .test left _ _ right, underNot =>
    .first (ownSteps_flat underNot _) ((Expr.along left underNot).bind ((Expr.along right underNot).map _))
  | .isNull operand, underNot => .first (ownSteps_flat underNot _) ((Expr.along operand underNot).map _)
  | .subquery query, _ => (Query.along query).map _
  | .trim _ what subject, underNot => (Expr.along subject underNot).bind ((Expr.along what underNot).map _)
  | .call _ pieces, underNot => (Piece.alongAll pieces underNot).map _
  | .form pieces, underNot => (Piece.alongAll pieces underNot).map _

theorem Expr.alongAll : ∀ (es : List Expr) (underNot : Bool),
    Along setting (Expr.allSteps underNot es) (Expr.writeAll setting.naming es) (Expr.placedAll setting es)
  | [], _ => .pure _
  | e :: es, underNot => (Expr.along e underNot).bind ((Expr.alongAll es underNot).map _)

theorem Expr.alongOptional : ∀ (e : Option Expr) (underNot : Bool),
    Along setting (Expr.optionalSteps underNot e) (Expr.writeOptional setting.naming e)
      (Expr.placedOptional setting e)
  | none, _ => .pure _
  | some e, underNot => (Expr.along e underNot).map _

theorem Expr.alongRows : ∀ rows : List (List Expr),
    Along setting (Expr.rowSteps rows) (Expr.writeRows setting.naming rows) (Expr.placedRows setting rows)
  | [] => .pure _
  | row :: rows => (Expr.alongAll row false).bind ((Expr.alongRows rows).map _)

theorem Piece.along : ∀ (piece : Piece) (underNot : Bool),
    Along setting (piece.steps underNot) (piece.write setting.naming) (piece.placed setting)
  | .words _, _ => .pure _
  | .part operand, underNot => (Expr.along operand underNot).map _
  | .aside _, _ => .pure _

theorem Piece.alongAll : ∀ (pieces : List Piece) (underNot : Bool),
    Along setting (Piece.allSteps underNot pieces) (Piece.writeAll setting.naming pieces)
      (Piece.placedAll setting pieces)
  | [], _ => .pure _
  | piece :: pieces, underNot => (Piece.along piece underNot).bind ((Piece.alongAll pieces underNot).map _)

theorem Query.along : ∀ query : Query, Along setting query.steps (query.write setting.naming) (query.placed setting)
  | { recursive := _, ctes, body, orderBy, limit, offset, limitBy, settings := _, fetch, ending := _ } => by
    refine (Cte.alongAll ctes).bind (.map (Body.along body (t := {
      orderBy := Expr.placedAll setting orderBy, limit := Expr.placedOptional setting limit,
      limitBy := Expr.placedAll setting limitBy, offset := Expr.placedOptional setting offset,
      fetch := Expr.placedOptional setting fetch }) ?_) _)
    refine (Expr.alongAll orderBy false).bind ((Expr.alongOptional limit false).bind ?_)
    refine (Expr.alongAll limitBy false).bind ((Expr.alongOptional offset false).bind ?_)
    exact (Expr.alongOptional fetch false).map _

theorem Cte.along : ∀ cte : Cte, Along setting cte.steps (cte.write setting.naming) (cte.placed setting)
  | { alias_ := _, keyword := _, query, source := _ } => (Query.along query).map _

theorem Cte.alongAll : ∀ ctes : List Cte,
    Along setting (Cte.allSteps ctes) (Cte.writeAll setting.naming ctes) (Cte.placedAll setting ctes)
  | [] => .pure _
  | cte :: ctes => (Cte.along cte).bind ((Cte.alongAll ctes).map _)

theorem Body.along : ∀ (body : Body) {tail : List Step} {writeTail : Writing Tail} {t : Tail},
    Along setting tail writeTail t →
      Along setting (body.steps tail) (body.write setting.naming writeTail) (body.placed setting tail, t)
  | .select select, _, _, _, htail => (Select.along select htail).map _
  | .query query, _, _, _, htail => (Query.along query).bind (htail.map _)
  | .setOperation left _ right, _, _, _, htail =>
    (Body.along left (.pure {})).bind ((Body.along right (.pure {})).bind (htail.map _))
  | .values _ rows, _, _, _, htail => (Expr.alongRows rows).bind (htail.map _)
  | .table _ _, _, _, _, htail => htail.map _
  | .statement statement, _, _, _, htail => (Statement.along statement).bind (htail.map _)

theorem Select.along : ∀ (select : Select) {tail : List Step} {writeTail : Writing Tail} {t : Tail},
    Along setting tail writeTail t →
      Along setting (select.steps tail) (select.write setting.naming writeTail) (select.placed setting tail, t)
  | { head := _, projection, into := _, from_, views := _, prewhere, selection, groupBy, groupTail := _, clusterBy,
      distributeBy, sortBy, having, windowsBefore := _, qualify, windowsAfter := _, connectBy := _ }, tail, _, _,
      htail => by
    refine .scope (setting.bindingsOf_sites 0 _) ?_
    refine .bind (TableRef.alongAll from_) (.bind (Expr.alongAll projection false) ?_)
    refine .bind (Expr.alongOptional prewhere false) (.bind (Expr.alongOptional selection false) ?_)
    refine .bind (Expr.alongAll groupBy false) (.bind (Expr.alongOptional having false) ?_)
    refine .bind (Expr.alongOptional qualify false) (.bind (Expr.alongAll clusterBy false) ?_)
    refine .bind (Expr.alongAll distributeBy false) (.bind (Expr.alongAll sortBy false) (.last htail ?_))
    intro own hown
    rw [← factors_placed] at hown
    exact (settleAll_moved true _ hown).map _

theorem TableRef.along : ∀ table : TableRef,
    Along setting table.steps (table.write setting.naming) (table.placed setting)
  | .table .. => .pure _
  | .derived _ query _ => (Query.along query).map _
  | .nested inner _ => (TableRef.along inner).map _
  | .join left _ right matching on _ => (TableRef.along left).bind ((TableRef.along right).bind
    ((Expr.alongOptional matching false).bind ((Expr.alongOptional on false).map _)))
  | .turned .. => .pure _
  | .other .. => .pure _

theorem TableRef.alongAll : ∀ trees : List TableRef,
    Along setting (TableRef.allSteps trees) (TableRef.writeAll setting.naming trees)
      (TableRef.placedAll setting trees)
  | [] => .pure _
  | tree :: trees => (TableRef.along tree).bind ((TableRef.alongAll trees).map _)

theorem Insert.along : ∀ insert : Insert,
    Along setting insert.steps (insert.write setting.naming) (insert.placed setting)
  | { head := _, target, alias_ := _, columns := _, middle := _, source := some query, trailer := _ } => by
    refine .scope (Setting.bindingsOf_target target) (.first (insert_ownSteps_flat _) ?_)
    exact .last ((Query.along query).map some) fun own hown => (settle_target hown).map _
  | { head := _, target, alias_ := _, columns := _, middle := _, source := none, trailer := _ } => by
    refine .scope (Setting.bindingsOf_target target) (.first (insert_ownSteps_flat _) ?_)
    exact .last (.pure none) fun own hown => (settle_target hown).map _

theorem Update.along : ∀ update : Update,
    Along setting update.steps (update.write setting.naming) (update.placed setting)
  | { conflict := _, table, fromBefore := _, assignments, fromAfter := _, selection, returning := _ } => by
    refine .scope (setting.bindingsOf_sites 0 _) ?_
    refine .bind (TableRef.along table) (.bind (Expr.alongAll assignments false) ?_)
    refine .last (Expr.alongOptional selection false) ?_
    intro own hown
    rw [← tableFactors_placed] at hown
    exact (settle_moved true _ hown).map _

theorem Delete.along : ∀ delete : Delete,
    Along setting delete.steps (delete.write setting.naming) (delete.placed setting)
  | { targets := _, fromKeyword := _, from_, using_ := some others, selection, returning := _, orderBy, limit } => by
    refine .scope (setting.bindingsOf_sites 0 _) ?_
    refine .bind (TableRef.alongAll from_) (.bind ((TableRef.alongAll others).map some) ?_)
    refine .bind (Expr.alongOptional selection false) (.bind (Expr.alongAll orderBy false) ?_)
    exact .last (Expr.alongOptional limit false) fun own hown => Delete.write_own hown _
  | { targets := _, fromKeyword := _, from_, using_ := none, selection, returning := _, orderBy, limit } => by
    refine .scope (setting.bindingsOf_sites 0 _) ?_
    refine .bind (TableRef.alongAll from_) (.bind (.pure none) ?_)
    refine .bind (Expr.alongOptional selection false) (.bind (Expr.alongAll orderBy false) ?_)
    exact .last (Expr.alongOptional limit false) fun own hown => Delete.write_own hown _

theorem Statement.along : ∀ statement : Statement,
    Along setting statement.steps (statement.write setting.naming) (statement.placed setting)
  | .query query => (Query.along query).map _
  | .insert insert => (Insert.along insert).map _
  | .update update => (Update.along update).map _
  | .delete delete => (Delete.along delete).map _
  | .other => .pure _

end

/-- When the tables that a statement closes settle, it is written with each of them in its place. -/
theorem Sql.Statement.written_placed {statement : Statement}
    (hclosed : List.Forall₂ (Closed setting) (Step.allClosed setting statement.steps) tables) :
    statement.written setting.naming tables = statement.placed setting :=
  (Statement.along statement tables hclosed).result

theorem routeStatement_placed {statement : Statement} {routed : Routed}
    (h : (Router.routeStatement setting statement).result = .ok routed) :
    routed.statement = statement.placed setting := by
  obtain ⟨-, hclosed, -, hstatement⟩ := routeStatement_iff.mp h
  rw [hstatement, Statement.written_placed hclosed]

end ShardRouting
