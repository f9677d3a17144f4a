import ShardRouting.Proofs.Digest

/-! Negation. A predicate stands in a query block, and a `NOT` of that block may stand around it; what stands in a
    nested query is of another block. Where a predicate under `NOT` speaks of the key of a table in its scope, the
    statement is not routed. -/

namespace ShardRouting
open Sql

/-! ### Predicates of a block -/

/-- An equality, a membership or a range with a column on its left. -/
structure Occurrence where
  column : ColumnRef
  /-- Values stand on its right, and neither a query nor an array. -/
  valued : Bool
  /-- How many `NOT` of its block stand around it. -/
  nots : Nat

/-- An expression that belongs to no other, and where the tables of its scope are named. -/
structure Clause where
  sites : List Site
  root : Expr

namespace Sql

def Expr.occurrence? (nots : Nat) : Expr → Option Occurrence
  | .binary left .eq _ => (ColumnRef.ofExpr? left).map fun column => ⟨column, true, nots⟩
  | .inList left _ _ => (ColumnRef.ofExpr? left).map fun column => ⟨column, true, nots⟩
  | .between left _ _ _ => (ColumnRef.ofExpr? left).map fun column => ⟨column, true, nots⟩
  | .test left _ .inSubquery _ => (ColumnRef.ofExpr? left).map fun column => ⟨column, false, nots⟩
  | .test left _ .inArray _ => (ColumnRef.ofExpr? left).map fun column => ⟨column, false, nots⟩
  | _ => none

mutual

/-- The predicates of an expression that a walk reaches in the block of the expression; `nots` is the number of
    `NOT` around it. -/
def Expr.occurrences (nots : Nat) : Expr → List Occurrence
  | .ident _ => []
  | .column _ => []
  | .literal _ => []
  | .typed _ _ => []
  | .nested operand => operand.occurrences nots
  | .not operand => operand.occurrences (nots + 1)
  | .sign _ operand => operand.occurrences nots
  | .binary left op right =>
    (Expr.occurrence? nots (.binary left op right)).toList ++ (left.occurrences nots ++ right.occurrences nots)
  | .inList left negated items =>
    (Expr.occurrence? nots (.inList left negated items)).toList ++
      (left.occurrences nots ++ Expr.allOccurrences nots items)
  | .between left negated low high =>
    (Expr.occurrence? nots (.between left negated low high)).toList ++
      (left.occurrences nots ++ (low.occurrences nots ++ high.occurrences nots))
  | .test left negated kind right =>
    (Expr.occurrence? nots (.test left negated kind right)).toList ++
      (left.occurrences nots ++ right.occurrences nots)
  | .isNull operand => operand.occurrences nots
  | .subquery _ => []
  | .trim _ what subject => subject.occurrences nots ++ what.occurrences nots
  | .call _ pieces => Piece.allOccurrences nots pieces
  | .form pieces => Piece.allOccurrences nots pieces

def Expr.allOccurrences (nots : Nat) : List Expr → List Occurrence
  | [] => []
  | e :: es => e.occurrences nots ++ Expr.allOccurrences nots es

def Piece.occurrences (nots : Nat) : Piece → List Occurrence
  | .words _ => []
  | .part operand => operand.occurrences nots
  | .aside _ => []

def Piece.allOccurrences (nots : Nat) : List Piece → List Occurrence
  | [] => []
  | piece :: pieces => piece.occurrences nots ++ Piece.allOccurrences nots pieces

end

/-! ### The blocks of a statement -/

mutual

/-- The clauses of the queries inside an expression; `around` are the tables of its scope. -/
def Expr.clauses (around : List Site) : Expr → List Clause
  | .ident _ => []
  | .column _ => []
  | .literal _ => []
  | .typed _ _ => []
  | .nested operand => operand.clauses around
  | .not operand => operand.clauses around
  | .sign _ operand => operand.clauses around
  | .binary left _ right => left.clauses around ++ right.clauses around
  | .inList left _ items => left.clauses around ++ Expr.allInner around items
  | .between left _ low high => left.clauses around ++ (low.clauses around ++ high.clauses around)
  | .test left _ _ right => left.clauses around ++ right.clauses around
  | .isNull operand => operand.clauses around
  | .subquery query => query.clauses around
  | .trim _ what subject => subject.clauses around ++ what.clauses around
  | .call _ pieces => Piece.allClauses around pieces
  | .form pieces => Piece.allClauses around pieces

/-- The clauses of the queries inside some expressions. -/
def Expr.allInner (around : List Site) : List Expr → List Clause
  | [] => []
  | e :: es => e.clauses around ++ Expr.allInner around es

/-- Expressions that are clauses themselves. -/
def Expr.allClauses (around : List Site) : List Expr → List Clause
  | [] => []
  | e :: es => ⟨around, e⟩ :: e.clauses around ++ Expr.allClauses around es

def Expr.optionalClauses (around : List Site) : Option Expr → List Clause
  | none => []
  | some e => ⟨around, e⟩ :: e.clauses around

def Expr.rowClauses (around : List Site) : List (List Expr) → List Clause
  | [] => []
  | row :: rows => Expr.allClauses around row ++ Expr.rowClauses around rows

def Piece.clauses (around : List Site) : Piece → List Clause
  | .words _ => []
  | .part operand => operand.clauses around
  | .aside _ => []

def Piece.allClauses (around : List Site) : List Piece → List Clause
  | [] => []
  | piece :: pieces => piece.clauses around ++ Piece.allClauses around pieces

/-- The clauses behind the body are in the scope of the body if that is a plain selection. -/
def Query.clauses (around : List Site) : Query → List Clause
  | { recursive := _, ctes, body, orderBy, limit, offset, limitBy, settings := _, fetch, ending := _ } =>
    Cte.allClauses around ctes ++ body.clauses around fun sites =>
      Expr.allClauses sites orderBy ++ (Expr.optionalClauses sites limit ++
        (Expr.allClauses sites limitBy ++ (Expr.optionalClauses sites offset ++ Expr.optionalClauses sites fetch)))

def Cte.clauses (around : List Site) : Cte → List Clause
  | { alias_ := _, keyword := _, query, source := _ } => query.clauses around

def Cte.allClauses (around : List Site) : List Cte → List Clause
  | [] => []
  | cte :: ctes => cte.clauses around ++ Cte.allClauses around ctes

/-- The clauses of a body, and those behind it by `tail`. -/
def Body.clauses (around : List Site) (tail : List Site → List Clause) : Body → List Clause
  | .select select => select.clauses tail
  | .query query => query.clauses around ++ tail around
  | .setOperation left _ right =>
    left.clauses around (fun _ => []) ++ (right.clauses around (fun _ => []) ++ tail around)
  | .values _ rows => Expr.rowClauses around rows ++ tail around
  | .table _ _ => tail around
  | .statement statement => statement.clauses around ++ tail around

def Select.clauses (tail : List Site → List Clause) : Select → List Clause
  | { head := _, projection, into := _, from_, views := _, prewhere, selection, groupBy, groupTail := _,
      clusterBy, distributeBy, sortBy, having, windowsBefore := _, qualify, windowsAfter := _,
      connectBy := _ } =>
    let sites := Factor.sites 0 (factors from_)
    TableRef.allClauses sites from_ ++ (Expr.allClauses sites projection ++ (Expr.optionalClauses sites prewhere ++
      (Expr.optionalClauses sites selection ++ (Expr.allClauses sites groupBy ++
      (Expr.optionalClauses sites having ++ (Expr.optionalClauses sites qualify ++
      (Expr.allClauses sites clusterBy ++ (Expr.allClauses sites distributeBy ++
      (Expr.allClauses sites sortBy ++ tail sites)))))))))

/-- The conditions of a join are in the scope around it. -/
def TableRef.clauses (around : List Site) : TableRef → List Clause
  | .table .. => []
  | .derived _ query _ => query.clauses around
  | .nested inner _ => inner.clauses around
  | .join left _ right matching on _ =>
    left.clauses around ++ (right.clauses around ++
      (Expr.optionalClauses around matching ++ Expr.optionalClauses around on))
  | .turned .. => []
  | .other .. => []

def TableRef.allClauses (around : List Site) : List TableRef → List Clause
  | [] => []
  | table :: tables => table.clauses around ++ TableRef.allClauses around tables

def Insert.clauses : Insert → List Clause
  | { head := _, target, alias_ := _, columns := _, middle := _, source, trailer := _ } =>
    match source with
    | some query => query.clauses [⟨.target, target, none⟩]
    | none => []

def Update.clauses : Update → List Clause
  | { conflict := _, table, fromBefore := _, assignments, fromAfter := _, selection, returning := _ } =>
    let sites := Factor.sites 0 (tableFactors table)
    table.clauses sites ++ (Expr.allClauses sites assignments ++ Expr.optionalClauses sites selection)

def Delete.clauses : Delete → List Clause
  | { targets := _, fromKeyword := _, from_, using_, selection, returning := _, orderBy, limit } =>
    let sites := Factor.sites 0 (factors from_ ++ factors (using_.getD []))
    TableRef.allClauses sites from_ ++
      ((match using_ with
        | some tables => TableRef.allClauses sites tables
        | none => []) ++
      (Expr.optionalClauses sites selection ++ (Expr.allClauses sites orderBy ++
      Expr.optionalClauses sites limit)))

/-- The clauses of a statement that a walk reaches, and of all queries inside. -/
def Statement.clauses (around : List Site) : Statement → List Clause
  | .query query => query.clauses around
  | .insert insert => insert.clauses
  | .update update => update.clauses
  | .delete delete => delete.clauses
  | .other => []

end

end Sql

open Walk

variable {setting : Setting} {steps rest : List Step} {sites : List Site}

/-! ### Columns of bound tables -/

/-- A column stands for a table that is bound at one of these places. -/
def ColumnRef.Resolves (setting : Setting) (sites : List Site) (column : ColumnRef) : Prop :=
  ∃ index binding, (Scope.enter (Site.binding? setting) {} sites).resolve column.key = .bound index binding

theorem claimants_enter (setting : Setting) (sites : List Site) (key : String) :
    claimants (Scope.enter (Site.binding? setting) {} sites).bindings key =
      claimants (setting.bindingsOf sites) key := by
  rw [Scope.enter_bindings, Setting.bindingsOf_eq, claimants_map Binding.lookupKeys_plain]
  rfl

theorem ColumnRef.resolves_iff {column : ColumnRef} :
    column.Resolves setting sites ↔ claimants (setting.bindingsOf sites) column.key = 1 := by
  have hcount := claimants_enter setting sites column.key
  unfold Resolves
  rcases (Scope.counts_enter (Site.binding? setting) sites column.key).resolve with ⟨hnone, hresolve⟩ |
    ⟨hmany, hresolve⟩ | ⟨hone, index, binding, -, -, hresolve⟩
  · have hne : claimants (setting.bindingsOf sites) column.key ≠ 1 := by omega
    simp [hresolve, hne]
  · have hne : claimants (setting.bindingsOf sites) column.key ≠ 1 := by omega
    simp [hresolve, hne]
  · simp [hresolve, hcount.symm.trans hone]

/-! ### Predicates in scripts -/

/-- A step that no table may answer to when the predicate is under `NOT`: it refuses a value there, or takes none. -/
def Step.Refuses (o : Occurrence) : Step → Prop
  | .key predicate => predicate.column = o.column ∧ (0 < o.nots → predicate.refusal ≠ none)
  | .other left _ _ => ColumnRef.ofExpr? left = some o.column
  | .scope .. => False

/-- Every predicate has its step. -/
def Listed (occurrences : List Occurrence) (steps : List Step) : Prop :=
  ∀ o ∈ occurrences, ∃ step ∈ steps, step.Refuses o

namespace Listed

variable {occurrences others : List Occurrence}

theorem nil (steps : List Step) : Listed [] steps := nofun

theorem append (h : Listed occurrences steps) (h' : Listed others rest) :
    Listed (occurrences ++ others) (steps ++ rest) := by
  intro o ho
  rcases List.mem_append.mp ho with ho | ho
  · obtain ⟨step, hstep, hrefuses⟩ := h o ho
    exact ⟨step, List.mem_append_left _ hstep, hrefuses⟩
  · obtain ⟨step, hstep, hrefuses⟩ := h' o ho
    exact ⟨step, List.mem_append_right _ hstep, hrefuses⟩

/-- Where no predicate of the block stands. -/
theorem behind (h : Listed occurrences steps) (first : List Step) : Listed occurrences (first ++ steps) :=
  append (nil first) h

theorem key {column : ColumnRef} {nots : Nat} {predicate : KeyPredicate} (hcolumn : predicate.column = column)
    (hrefusal : 0 < nots → predicate.refusal ≠ none) : Listed [⟨column, true, nots⟩] [.key predicate] := by
  intro o ho
  obtain rfl := List.mem_singleton.mp ho
  exact ⟨_, List.mem_singleton_self _, hcolumn, hrefusal⟩

theorem other (left : Expr) (nots : Nat) (operator text : String) :
    Listed ((ColumnRef.ofExpr? left).map fun column => (⟨column, false, nots⟩ : Occurrence)).toList
      [.other left operator text] := by
  cases hleft : ColumnRef.ofExpr? left with
  | none => exact nil _
  | some column =>
    intro o ho
    obtain rfl := List.mem_singleton.mp ho
    exact ⟨_, List.mem_singleton_self _, hleft⟩

end Listed

theorem Sql.Expr.occurrence?_listed (e : Expr) (nots : Nat) :
    Listed (e.occurrence? nots).toList (e.ownSteps (0 < nots)) := by
  cases e with
  | binary left op right =>
    cases op with
    | eq =>
      simp only [Expr.occurrence?, Expr.ownSteps]
      cases ColumnRef.ofExpr? left with
      | none => exact .nil _
      | some column =>
        refine .key rfl fun hnots => ?_
        simp [KeyPredicate.equality, hnots]
    | _ => exact .nil _
  | inList left negated items =>
    simp only [Expr.occurrence?, Expr.ownSteps]
    cases ColumnRef.ofExpr? left with
    | none => exact .nil _
    | some column =>
      refine .key rfl fun hnots => ?_
      cases negated <;> simp [KeyPredicate.inList, hnots]
  | between left negated low high =>
    simp only [Expr.occurrence?, Expr.ownSteps]
    cases ColumnRef.ofExpr? left with
    | none => exact .nil _
    | some column =>
      refine .key rfl fun hnots => ?_
      cases negated <;> simp [KeyPredicate.between, hnots]
  | test left negated kind right =>
    cases kind with
    | inSubquery => exact .other left nots _ _
    | inArray => exact .other left nots _ _
    | _ => exact .nil _
  | _ => exact .nil _

mutual

theorem Sql.Expr.occurrences_listed : ∀ (e : Expr) (nots : Nat), Listed (e.occurrences nots) (e.steps (0 < nots))
  | .ident _, _ => .nil _
  | .column _, _ => .nil _
  | .literal _, _ => .nil _
  | .typed _ _, _ => .nil _
  | .nested operand, nots => operand.occurrences_listed nots
  | .not operand, nots => by
    have h := operand.occurrences_listed (nots + 1)
    rwa [decide_eq_true nots.succ_pos] at h
  | .sign _ operand, nots => operand.occurrences_listed nots
  | .binary left op right, nots => (Expr.occurrence?_listed _ nots).append
      ((left.occurrences_listed nots).append (right.occurrences_listed nots))
  | .inList left negated items, nots => (Expr.occurrence?_listed _ nots).append
      ((left.occurrences_listed nots).append (Expr.allOccurrences_listed items nots))
  | .between left negated low high, nots => (Expr.occurrence?_listed _ nots).append
      ((left.occurrences_listed nots).append ((low.occurrences_listed nots).append (high.occurrences_listed nots)))
  | .test left negated kind right, nots => (Expr.occurrence?_listed _ nots).append
      ((left.occurrences_listed nots).append (right.occurrences_listed nots))
  | .isNull operand, nots => (operand.occurrences_listed nots).behind _
  | .subquery _, _ => .nil _
  | .trim _ what subject, nots => (subject.occurrences_listed nots).append (what.occurrences_listed nots)
  | .call _ pieces, nots => Piece.allOccurrences_listed pieces nots
  | .form pieces, nots => Piece.allOccurrences_listed pieces nots

theorem Sql.Expr.allOccurrences_listed : ∀ (es : List Expr) (nots : Nat),
    Listed (Expr.allOccurrences nots es) (Expr.allSteps (0 < nots) es)
  | [], _ => .nil _
  | e :: es, nots => (e.occurrences_listed nots).append (Expr.allOccurrences_listed es nots)

theorem Sql.Piece.occurrences_listed : ∀ (piece : Piece) (nots : Nat),
    Listed (piece.occurrences nots) (piece.steps (0 < nots))
  | .words _, _ => .nil _
  | .part operand, nots => operand.occurrences_listed nots
  | .aside _, _ => .nil _

/-- Every predicate of a block has its step in the script. -/
theorem Sql.Piece.allOccurrences_listed : ∀ (pieces : List Piece) (nots : Nat),
    Listed (Piece.allOccurrences nots pieces) (Piece.allSteps (0 < nots) pieces)
  | [], _ => .nil _
  | piece :: pieces, nots => (piece.occurrences_listed nots).append (Piece.allOccurrences_listed pieces nots)

end

/-- What is permitted under `NOT` speaks of no table. -/
theorem unresolved_under_not {e : Expr} {o : Occurrence} (ho : o ∈ e.occurrences 0) (hnots : 0 < o.nots)
    (h : Step.allPermitted setting (setting.bindingsOf sites) (e.steps false)) : ¬o.column.Resolves setting sites := by
  rw [ColumnRef.resolves_iff]
  obtain ⟨step, hstep, hrefuses⟩ := e.occurrences_listed 0 o ho
  have hpermitted := Step.allPermitted_iff.mp h step hstep
  cases step with
  | key predicate =>
    obtain ⟨hcolumn, hrefusal⟩ := hrefuses
    rw [Step.permitted, hcolumn] at hpermitted
    rcases hpermitted with hnone | ⟨-, hfree, -⟩
    · omega
    · exact absurd hfree (hrefusal hnots)
  | other left operator text =>
    rw [Step.permitted] at hpermitted
    have hnone := hpermitted o.column hrefuses
    omega
  | scope aliases sites steps => exact hrefuses.elim

/-! ### Clauses in scripts -/

/-- When these steps are permitted in a scope, so are those of the clauses. -/
def Houses (setting : Setting) (sites : List Site) (steps : List Step) (clauses : List Clause) : Prop :=
  Step.allPermitted setting (setting.bindingsOf sites) steps →
    ∀ clause ∈ clauses, Step.allPermitted setting (setting.bindingsOf clause.sites) (clause.root.steps false)

namespace Houses

variable {clauses others : List Clause}

theorem nil (steps : List Step) : Houses setting sites steps [] := fun _ => nofun

theorem append (h : Houses setting sites steps clauses) (h' : Houses setting sites rest others) :
    Houses setting sites (steps ++ rest) (clauses ++ others) := by
  intro hpermitted clause hclause
  obtain ⟨hfirst, hrest⟩ := Step.allPermitted_append.mp hpermitted
  rcases List.mem_append.mp hclause with hclause | hclause
  · exact h hfirst clause hclause
  · exact h' hrest clause hclause

/-- Where no clause stands. -/
theorem behind (h : Houses setting sites steps clauses) (first : List Step) :
    Houses setting sites (first ++ steps) clauses :=
  append (nil first) h

theorem scope {inner : List Site} (aliases : Bool) (h : Houses setting inner steps clauses) :
    Houses setting sites [.scope aliases inner steps] clauses := by
  rintro ⟨hscope, -⟩
  rw [Step.permitted] at hscope
  exact h hscope

/-- A clause and the queries inside. -/
theorem root {e : Expr} (h : Houses setting sites (e.steps false) (e.clauses sites)) :
    Houses setting sites (e.steps false) (⟨sites, e⟩ :: e.clauses sites) := by
  intro hpermitted clause hclause
  rcases List.mem_cons.mp hclause with rfl | hclause
  · exact hpermitted
  · exact h hpermitted clause hclause

end Houses

mutual

theorem Sql.Expr.houses : ∀ (e : Expr) (sites : List Site) (underNot : Bool),
    Houses setting sites (e.steps underNot) (e.clauses sites)
  | .ident _, _, _ => .nil _
  | .column _, _, _ => .nil _
  | .literal _, _, _ => .nil _
  | .typed _ _, _, _ => .nil _
  | .nested operand, sites, underNot => operand.houses sites underNot
  | .not operand, sites, _ => operand.houses sites true
  | .sign _ operand, sites, underNot => operand.houses sites underNot
  | .binary left _ right, sites, underNot =>
    ((left.houses sites underNot).append (right.houses sites underNot)).behind _
  | .inList left _ items, sites, underNot =>
    ((left.houses sites underNot).append (Expr.allInner_houses items sites underNot)).behind _
  | .between left _ low high, sites, underNot =>
    ((left.houses sites underNot).append ((low.houses sites underNot).append (high.houses sites underNot))).behind _
  | .test left _ _ right, sites, underNot =>
    ((left.houses sites underNot).append (right.houses sites underNot)).behind _
  | .isNull operand, sites, underNot => (operand.houses sites underNot).behind _
  | .subquery query, sites, _ => query.houses sites
  | .trim _ what subject, sites, underNot => (subject.houses sites underNot).append (what.houses sites underNot)
  | .call _ pieces, sites, underNot => Piece.all_houses pieces sites underNot
  | .form pieces, sites, underNot => Piece.all_houses pieces sites underNot

theorem Sql.Expr.allInner_houses : ∀ (es : List Expr) (sites : List Site) (underNot : Bool),
    Houses setting sites (Expr.allSteps underNot es) (Expr.allInner sites es)
  | [], _, _ => .nil _
  | e :: es, sites, underNot => (e.houses sites underNot).append (Expr.allInner_houses es sites underNot)

theorem Sql.Expr.all_houses : ∀ (es : List Expr) (sites : List Site),
    Houses setting sites (Expr.allSteps false es) (Expr.allClauses sites es)
  | [], _ => .nil _
  | e :: es, sites => (e.houses sites false).root.append (Expr.all_houses es sites)

theorem Sql.Expr.optional_houses : ∀ (e : Option Expr) (sites : List Site),
    Houses setting sites (Expr.optionalSteps false e) (Expr.optionalClauses sites e)
  | none, _ => .nil _
  | some e, sites => (e.houses sites false).root

theorem Sql.Expr.rows_house : ∀ (rows : List (List Expr)) (sites : List Site),
    Houses setting sites (Expr.rowSteps rows) (Expr.rowClauses sites rows)
  | [], _ => .nil _
  | row :: rows, sites => (Expr.all_houses row sites).append (Expr.rows_house rows sites)

theorem Sql.Piece.houses : ∀ (piece : Piece) (sites : List Site) (underNot : Bool),
    Houses setting sites (piece.steps underNot) (piece.clauses sites)
  | .words _, _, _ => .nil _
  | .part operand, sites, underNot => operand.houses sites underNot
  | .aside _, _, _ => .nil _

theorem Sql.Piece.all_houses : ∀ (pieces : List Piece) (sites : List Site) (underNot : Bool),
    Houses setting sites (Piece.allSteps underNot pieces) (Piece.allClauses sites pieces)
  | [], _, _ => .nil _
  | piece :: pieces, sites, underNot =>
    (piece.houses sites underNot).append (Piece.all_houses pieces sites underNot)

theorem Sql.Query.houses : ∀ (query : Query) (sites : List Site),
    Houses setting sites query.steps (query.clauses sites)
  | { recursive := _, ctes, body, orderBy, limit, offset, limitBy, settings := _, fetch, ending := _ }, sites =>
    (Cte.all_houses ctes sites).append (body.houses sites _ _ fun sites =>
      (Expr.all_houses orderBy sites).append ((Expr.optional_houses limit sites).append
        ((Expr.all_houses limitBy sites).append ((Expr.optional_houses offset sites).append
          (Expr.optional_houses fetch sites)))))

theorem Sql.Cte.houses : ∀ (cte : Cte) (sites : List Site), Houses setting sites cte.steps (cte.clauses sites)
  | { alias_ := _, keyword := _, query, source := _ }, sites => query.houses sites

theorem Sql.Cte.all_houses : ∀ (ctes : List Cte) (sites : List Site),
    Houses setting sites (Cte.allSteps ctes) (Cte.allClauses sites ctes)
  | [], _ => .nil _
  | cte :: ctes, sites => (cte.houses sites).append (Cte.all_houses ctes sites)

theorem Sql.Body.houses : ∀ (body : Body) (sites : List Site) (tail : List Step) (behind : List Site → List Clause),
    (∀ sites, Houses setting sites tail (behind sites)) →
      Houses setting sites (body.steps tail) (body.clauses sites behind)
  | .select select, sites, tail, behind, htail => select.houses sites tail behind htail
  | .query query, sites, _, _, htail => (query.houses sites).append (htail sites)
  | .setOperation left _ right, sites, _, _, htail =>
    (left.houses sites [] _ fun _ => .nil _).append ((right.houses sites [] _ fun _ => .nil _).append (htail sites))
  | .values _ rows, sites, _, _, htail => (Expr.rows_house rows sites).append (htail sites)
  | .table _ _, sites, _, _, htail => htail sites
  | .statement statement, sites, _, _, htail => (statement.houses sites).append (htail sites)

theorem Sql.Select.houses : ∀ (select : Select) (sites : List Site) (tail : List Step)
    (behind : List Site → List Clause), (∀ sites, Houses setting sites tail (behind sites)) →
      Houses setting sites (select.steps tail) (select.clauses behind)
  | { head := _, projection, into := _, from_, views := _, prewhere, selection, groupBy, groupTail := _,
      clusterBy, distributeBy, sortBy, having, windowsBefore := _, qualify, windowsAfter := _,
      connectBy := _ }, _, _, _, htail =>
    .scope true ((TableRef.all_houses from_ _).append ((Expr.all_houses projection _).append
      ((Expr.optional_houses prewhere _).append ((Expr.optional_houses selection _).append
      ((Expr.all_houses groupBy _).append ((Expr.optional_houses having _).append
      ((Expr.optional_houses qualify _).append ((Expr.all_houses clusterBy _).append
      ((Expr.all_houses distributeBy _).append ((Expr.all_houses sortBy _).append (htail _)))))))))))

theorem Sql.TableRef.houses : ∀ (table : TableRef) (sites : List Site),
    Houses setting sites table.steps (table.clauses sites)
  | .table .., _ => .nil _
  | .derived _ query _, sites => query.houses sites
  | .nested inner _, sites => inner.houses sites
  | .join left _ right matching on _, sites => (left.houses sites).append ((right.houses sites).append
      ((Expr.optional_houses matching sites).append (Expr.optional_houses on sites)))
  | .turned .., _ => .nil _
  | .other .., _ => .nil _

theorem Sql.TableRef.all_houses : ∀ (tables : List TableRef) (sites : List Site),
    Houses setting sites (TableRef.allSteps tables) (TableRef.allClauses sites tables)
  | [], _ => .nil _
  | table :: tables, sites => (table.houses sites).append (TableRef.all_houses tables sites)

theorem Sql.Insert.houses : ∀ (insert : Insert) (sites : List Site),
    Houses setting sites insert.steps insert.clauses
  | { head := _, target := _, alias_ := _, columns := _, middle := _, source := some query, trailer := _ }, _ =>
    .scope false ((query.houses _).behind _)
  | { head := _, target := _, alias_ := _, columns := _, middle := _, source := none, trailer := _ }, _ => .nil _

theorem Sql.Update.houses : ∀ (update : Update) (sites : List Site),
    Houses setting sites update.steps update.clauses
  | { conflict := _, table, fromBefore := _, assignments, fromAfter := _, selection, returning := _ }, _ =>
    .scope true ((table.houses _).append ((Expr.all_houses assignments _).append (Expr.optional_houses selection _)))

theorem Sql.Delete.houses : ∀ (delete : Delete) (sites : List Site),
    Houses setting sites delete.steps delete.clauses
  | { targets := _, fromKeyword := _, from_, using_ := some tables, selection, returning := _, orderBy, limit }, _ =>
    .scope false ((TableRef.all_houses from_ _).append ((TableRef.all_houses tables _).append
      ((Expr.optional_houses selection _).append ((Expr.all_houses orderBy _).append
        (Expr.optional_houses limit _)))))
  | { targets := _, fromKeyword := _, from_, using_ := none, selection, returning := _, orderBy, limit }, _ =>
    .scope false ((TableRef.all_houses from_ _).append (.append (.nil [])
      ((Expr.optional_houses selection _).append ((Expr.all_houses orderBy _).append
        (Expr.optional_houses limit _)))))

/-- The script of a statement holds those of all its clauses. -/
theorem Sql.Statement.houses : ∀ (statement : Statement) (sites : List Site),
    Houses setting sites statement.steps (statement.clauses sites)
  | .query query, sites => query.houses sites
  | .insert insert, sites => insert.houses sites
  | .update update, sites => update.houses sites
  | .delete delete, sites => delete.houses sites
  | .other, _ => .nil _

end

/-- A statement with a predicate under `NOT` that speaks of the key of a table is not routed. -/
theorem refused_under_not {statement : Statement} {clause : Clause} (hclause : clause ∈ statement.clauses [])
    {o : Occurrence} (ho : o ∈ clause.root.occurrences 0) (hnots : 0 < o.nots)
    (hresolves : o.column.Resolves setting clause.sites) :
    ∃ error, (Router.routeStatement setting statement).result = .error error := by
  cases hrouted : (Router.routeStatement setting statement).result with
  | error error => exact ⟨error, rfl⟩
  | ok routed =>
    have hpermitted := (routeStatement_iff.mp hrouted).1
    exact absurd hresolves (unresolved_under_not ho hnots (statement.houses [] hpermitted clause hclause))

end ShardRouting
