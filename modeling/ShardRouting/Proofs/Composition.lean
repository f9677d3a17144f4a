import ShardRouting.Proofs.Mirroring
import ShardRouting.Proofs.Passages
import ShardRouting.Proofs.Placement
import ShardRouting.Proofs.Yielding

/-! Composition. A statement is routed query by query: each query inside it becomes what it becomes when it is
    routed alone, and the tables that it adds are those that it has alone. -/

namespace ShardRouting
open Sql Walk

variable {α β : Type} {setting : Setting}

/-! ### Parts of a walk -/

/-- A passage along some references, the tables that were settled along them, and the query that has come of the
    passage. The query alone settles its part of the tables and becomes the same. -/
def Sql.Passage.Part (setting : Setting) (references : List Reference) (tables : List RoutedTable) (passage : Passage)
    (rewritten : Query) : Prop :=
  ∃ after earlier later alone, references = passage.before ++ (passage.references ++ after) ∧
    walkQuery setting 0 passage.query {} = .ok rewritten alone ∧ tables = earlier ++ (alone.routed ++ later) ∧
    earlier.length = passage.before.countP (Reference.bound setting) ∧
    alone.routed.length = passage.references.countP (Reference.bound setting)

/-- Along some references a walk has settled some tables. Their passages became those of the walked tree, of which
    only the queries count. -/
structure Composed (setting : Setting) (references : List Reference) (passages : List Passage)
    (tables : List RoutedTable) (walked : List Passage) : Prop where
  length : tables.length = references.countP (Reference.bound setting)
  parts : List.Forall₂ (fun passage rewritten => passage.Part setting references tables rewritten.query)
    passages walked

namespace Composed

variable {references references' passed : List Reference} {passages passages' : List Passage}
  {tables tables' : List RoutedTable} {walked walked' : List Passage} {around : List Reference}

theorem nil : Composed setting [] [] [] [] := ⟨rfl, .nil⟩

/-- More references and tables behind a walk take nothing from its parts. -/
theorem extend (h : Composed setting references passages tables walked)
    (hlength : tables'.length = references'.countP (Reference.bound setting)) :
    Composed setting (references ++ references') passages (tables ++ tables') walked where
  length := by rw [List.length_append, List.countP_append, h.length, hlength]
  parts := h.parts.imp fun passage rewritten ⟨after, earlier, later, alone, hbefore, hrun, htables, hparts⟩ =>
    ⟨after ++ references', earlier, later ++ tables', alone, by simp [hbefore], hrun, by simp [htables], hparts⟩

/-- References and tables before a walk come before its parts. -/
theorem after (h : Composed setting references' passages' tables' walked')
    (hlength : tables.length = references.countP (Reference.bound setting)) :
    Composed setting (references ++ references') (behind references passages') (tables ++ tables')
      (behind around walked') where
  length := by rw [List.length_append, List.countP_append, h.length, hlength]
  parts := by
    refine List.forall₂_map_left_iff.mpr (List.forall₂_map_right_iff.mpr (h.parts.imp ?_))
    rintro passage rewritten ⟨after, earlier, later, alone, hbefore, hrun, htables, hearlier, hown⟩
    refine ⟨after, tables ++ earlier, later, alone, ?_, hrun, ?_, ?_, hown⟩
    · simp [hbefore, Passage.references]
    · simp [htables]
    · rw [List.length_append, List.countP_append, hlength, hearlier]

theorem append (h : Composed setting references passages tables walked)
    (h' : Composed setting references' passages' tables' walked') :
    Composed setting (references ++ references') (passages ++ behind references passages') (tables ++ tables')
      (walked ++ behind around walked') where
  length := (h.extend h'.length).length
  parts := List.rel_append (h.extend h'.length).parts (h'.after h.length).parts

/-- What the walk passes over settles nothing. -/
theorem skip (h : Composed setting references passages tables walked) :
    Composed setting (aside passed ++ references) (behind (aside passed) passages) tables (behind around walked) := by
  have hnone : (aside passed).countP (Reference.bound setting) = 0 := by
    refine List.countP_eq_zero.mpr fun reference hreference => ?_
    obtain ⟨_, -, rfl⟩ := List.mem_map.mp hreference
    exact Bool.false_ne_true
  have hlength : ([] : List RoutedTable).length = (aside passed).countP (Reference.bound setting) := hnone.symm
  exact h.after hlength

/-- A tree that is only printed. -/
theorem printed : Composed setting (aside passed) [] [] [] := by
  have h : Composed setting (aside passed ++ []) (behind (aside passed) []) [] (behind [] []) := nil.skip
  rwa [List.append_nil] at h

/-- The tables of a scope settle one by one. -/
theorem closed (h : Composed setting references passages tables walked) {sites : List Site}
    (reference : Site → Reference) (hname : ∀ site, (reference site).name = site.name)
    (hwalked : ∀ site, (reference site).walked = true) {bindings : List Binding} {closed : List RoutedTable}
    (hsame : bindings.map Binding.identity = (sites.filterMap (Site.binding? setting)).map Binding.identity)
    (hsettles : List.Forall₂ (Settles setting) bindings closed) :
    Composed setting (references ++ sites.map reference) passages (tables ++ closed) walked := by
  refine h.extend ?_
  have hbound : (Reference.bound setting) ∘ reference = fun site => (Site.binding? setting site).isSome :=
    funext fun site => Site.bound_eq setting site (hname site) (hwalked site)
  calc closed.length = bindings.length := hsettles.length_eq.symm
    _ = (sites.filterMap (Site.binding? setting)).length := by simpa using congrArg List.length hsame
    _ = sites.countP fun site => (Site.binding? setting site).isSome := List.length_filterMap_eq_countP
    _ = (sites.map reference).countP (Reference.bound setting) := by rw [List.countP_map, hbound]

theorem factors (h : Composed setting references passages tables walked) (common : List Ident) {fs : List Factor}
    {bindings : List Binding} {closed : List RoutedTable}
    (hsame : bindings.map Binding.identity =
      ((Factor.sites 0 fs).filterMap (Site.binding? setting)).map Binding.identity)
    (hsettles : List.Forall₂ (Settles setting) bindings closed) :
    Composed setting (references ++ fs.map (Factor.reference common)) passages (tables ++ closed) walked := by
  rw [← Factor.references_sites common 0]
  exact h.closed (fun site => .ofName common site.name) (fun _ => rfl) (fun _ => rfl) hsame hsettles

/-- A query is the outermost of its own passages. -/
theorem whole {query rewritten : Query} {common common' : List Ident} {alone : Progress}
    (hrun : walkQuery setting 0 query {} = .ok rewritten alone)
    (h : Composed setting (query.references common) (query.passages common).tail alone.routed
      (rewritten.passages common').tail) :
    Composed setting (query.references common) (query.passages common) alone.routed
      (rewritten.passages common') where
  length := h.length
  parts := by
    rw [query.passages_eq, rewritten.passages_eq]
    exact .cons ⟨[], [], [], alone, by simp [Passage.references], hrun, by simp, rfl, h.length⟩ h.parts

end Composed

/-! ### Trees -/

namespace Walk

/-- A query settles the same tables alone, with the same result. -/
theorem Yields.alone {query : Query} {depth : Nat} {post : Query → List RoutedTable → Prop}
    (inner : Query → List RoutedTable → Prop) (h : Yields (walkQuery setting depth query) inner)
    (hpost : ∀ rewritten alone, walkQuery setting 0 query {} = .ok rewritten alone → inner rewritten alone.routed →
      post rewritten alone.routed) : Yields (walkQuery setting depth query) post := by
  intro p rewritten q hrun
  obtain ⟨hbindings, tables, hrouted, hinner⟩ := h p rewritten q hrun
  obtain ⟨alone, halone, hrouted'⟩ := walkQuery_alone hrun
  obtain rfl : tables = alone.routed := List.append_cancel_left (hrouted.symm.trans hrouted')
  exact ⟨hbindings, alone.routed, hrouted, hpost rewritten alone halone hinner⟩

/-- The passages in the clauses behind a body. -/
def Tail.passages (common : List Ident) (tail : Tail) : List Passage :=
  Expr.allPassages common tail.orderBy ++ behind (Expr.allReferences common tail.orderBy)
    (Expr.optionalPassages common tail.limit ++ behind (Expr.optionalReferences common tail.limit)
    (Expr.allPassages common tail.limitBy ++ behind (Expr.allReferences common tail.limitBy)
    (Expr.optionalPassages common tail.offset ++ behind (Expr.optionalReferences common tail.offset)
      (Expr.optionalPassages common tail.fetch))))

mutual

theorem walkExpr_composed : ∀ (e : Expr) (common : List Ident) (depth : Nat) (underNot : Bool),
    Yields (walkExpr setting depth underNot e) fun walked tables => ∀ other,
      Composed setting (e.references common) (e.passages common) tables (walked.passages other)
  | .ident _, _, _, _ => .pure fun _ => .nil
  | .column _, _, _, _ => .pure fun _ => .nil
  | .literal _, _, _, _ => .pure fun _ => .nil
  | .typed _ _, _, _, _ => .pure fun _ => .nil
  | .nested operand, common, depth, underNot => (walkExpr_composed operand common depth underNot).map fun _ _ h => h
  | .not operand, common, depth, _ => (walkExpr_composed operand common depth true).map fun _ _ h => h
  | .sign _ operand, common, depth, underNot => (walkExpr_composed operand common depth underNot).map fun _ _ h => h
  | .binary left _ right, common, depth, underNot =>
    .first depth (onPredicate_runs underNot _) (ownSteps_flat underNot _) fun _ =>
      (walkExpr_composed left common depth underNot).bind fun _ _ hleft =>
        (walkExpr_composed right common depth underNot).map fun _ _ hright other => (hleft other).append (hright other)
  | .inList left _ items, common, depth, underNot =>
    .first depth (onPredicate_runs underNot _) (ownSteps_flat underNot _) fun _ =>
      (walkExpr_composed left common depth underNot).bind fun _ _ hleft =>
        (walkExprs_composed items common depth underNot).map fun _ _ hitems other =>
          (hleft other).append (hitems other)
  | .between left _ low high, common, depth, underNot =>
    .first depth (onPredicate_runs underNot _) (ownSteps_flat underNot _) fun _ =>
      (walkExpr_composed left common depth underNot).bind fun _ _ hleft =>
        (walkExpr_composed low common depth underNot).bind fun _ _ hlow =>
          (walkExpr_composed high common depth underNot).map fun _ _ hhigh other =>
            (hleft other).append ((hlow other).append (hhigh other))
  | .test left _ _ right, common, depth, underNot =>
    .first depth (onPredicate_runs underNot _) (ownSteps_flat underNot _) fun _ =>
      (walkExpr_composed left common depth underNot).bind fun _ _ hleft =>
        (walkExpr_composed right common depth underNot).map fun _ _ hright other => (hleft other).append (hright other)
  | .isNull operand, common, depth, underNot =>
    .first depth (onPredicate_runs underNot _) (ownSteps_flat underNot _) fun _ =>
      (walkExpr_composed operand common depth underNot).map fun _ _ h => h
  | .subquery query, common, depth, _ => (walkQuery_composed query common depth).map fun _ _ h => h
  | .trim _ what subject, common, depth, underNot =>
    (walkExpr_composed subject common depth underNot).bind fun _ _ hsubject =>
      (walkExpr_composed what common depth underNot).map fun _ _ hwhat other => (hsubject other).append (hwhat other)
  | .call _ pieces, common, depth, underNot => (walkPieces_composed pieces common depth underNot).map fun _ _ h => h
  | .form pieces, common, depth, underNot => (walkPieces_composed pieces common depth underNot).map fun _ _ h => h

theorem walkExprs_composed : ∀ (es : List Expr) (common : List Ident) (depth : Nat) (underNot : Bool),
    Yields (walkExprs setting depth underNot es) fun walked tables => ∀ other,
      Composed setting (Expr.allReferences common es) (Expr.allPassages common es) tables
        (Expr.allPassages other walked)
  | [], _, _, _ => .pure fun _ => .nil
  | e :: es, common, depth, underNot => (walkExpr_composed e common depth underNot).bind fun _ _ hfirst =>
    (walkExprs_composed es common depth underNot).map fun _ _ hrest other => (hfirst other).append (hrest other)

theorem walkOptional_composed : ∀ (e : Option Expr) (common : List Ident) (depth : Nat) (underNot : Bool),
    Yields (walkOptional setting depth underNot e) fun walked tables => ∀ other,
      Composed setting (Expr.optionalReferences common e) (Expr.optionalPassages common e) tables
        (Expr.optionalPassages other walked)
  | none, _, _, _ => .pure fun _ => .nil
  | some e, common, depth, underNot => (walkExpr_composed e common depth underNot).map fun _ _ h => h

theorem walkRows_composed : ∀ (rows : List (List Expr)) (common : List Ident) (depth : Nat),
    Yields (walkRows setting depth rows) fun walked tables => ∀ other,
      Composed setting (Expr.rowReferences common rows) (Expr.rowPassages common rows) tables
        (Expr.rowPassages other walked)
  | [], _, _ => .pure fun _ => .nil
  | row :: rows, common, depth => (walkExprs_composed row common depth false).bind fun _ _ hfirst =>
    (walkRows_composed rows common depth).map fun _ _ hrest other => (hfirst other).append (hrest other)

theorem walkPieces_composed : ∀ (pieces : List Piece) (common : List Ident) (depth : Nat) (underNot : Bool),
    Yields (walkPieces setting depth underNot pieces) fun walked tables => ∀ other,
      Composed setting (Piece.allReferences common pieces) (Piece.allPassages common pieces) tables
        (Piece.allPassages other walked)
  | [], _, _, _ => .pure fun _ => .nil
  | piece :: pieces, common, depth, underNot => (walkPiece_composed piece common depth underNot).bind
    fun _ _ hfirst => (walkPieces_composed pieces common depth underNot).map fun _ _ hrest other =>
      (hfirst other).append (hrest other)

theorem walkPiece_composed : ∀ (piece : Piece) (common : List Ident) (depth : Nat) (underNot : Bool),
    Yields (walkPiece setting depth underNot piece) fun walked tables => ∀ other,
      Composed setting (piece.references common) (piece.passages common) tables (walked.passages other)
  | .words _, _, _, _ => .pure fun _ => .nil
  | .part operand, common, depth, underNot => (walkExpr_composed operand common depth underNot).map fun _ _ h => h
  | .aside _, _, _, _ => .pure fun _ => .printed

theorem walkQuery_composed : ∀ (query : Query) (common : List Ident) (depth : Nat),
    Yields (walkQuery setting depth query) fun walked tables => ∀ other,
      Composed setting (query.references common) (query.passages common) tables (walked.passages other)
  | { recursive, ctes, body, orderBy, limit, offset, limitBy, settings, fetch, ending }, common, depth => by
    refine .alone (fun walked tables => ∀ other, Composed setting _ _ tables (walked.passages other).tail)
      ((walkCtes_composed ctes _ depth).bind fun _ _ hctes =>
        (walkBody_composed body _ depth _ _ _ Tail.passages fun depth =>
          (walkExprs_composed orderBy _ depth false).bind fun _ _ horderBy =>
          (walkOptional_composed limit _ depth false).bind fun _ _ hlimit =>
          (walkExprs_composed limitBy _ depth false).bind fun _ _ hlimitBy =>
          (walkOptional_composed offset _ depth false).bind fun _ _ hoffset =>
          (walkOptional_composed fetch _ depth false).map fun _ _ hfetch other => (horderBy other).append
            ((hlimit other).append ((hlimitBy other).append ((hoffset other).append (hfetch other))))).map
        fun _ _ hbody other => ((hctes _).append (hbody _)).skip)
      fun rewritten alone hrun h other => .whole hrun (h other)

theorem walkCte_composed : ∀ (cte : Cte) (common : List Ident) (depth : Nat),
    Yields (walkCte setting depth cte) fun walked tables => ∀ other,
      Composed setting (cte.references common) (cte.passages common) tables (walked.passages other)
  | { alias_ := _, keyword := _, query, source := _ }, common, depth =>
    (walkQuery_composed query common depth).map fun _ _ h => h

theorem walkCtes_composed : ∀ (ctes : List Cte) (common : List Ident) (depth : Nat),
    Yields (walkCtes setting depth ctes) fun walked tables => ∀ other,
      Composed setting (Cte.allReferences common ctes) (Cte.allPassages common ctes) tables
        (Cte.allPassages other walked)
  | [], _, _ => .pure fun _ => .nil
  | cte :: ctes, common, depth => (walkCte_composed cte common depth).bind fun _ _ hfirst =>
    (walkCtes_composed ctes _ depth).map fun _ _ hrest other => (hfirst other).append (hrest _)

theorem walkBody_composed : ∀ (body : Body) (common : List Ident) (depth : Nat) (walkTail : Nat → Walk Tail)
    (references : List Reference) (passages : List Passage) (tail : List Ident → Tail → List Passage),
    (∀ depth, Yields (walkTail depth) fun walked tables => ∀ other,
      Composed setting references passages tables (tail other walked)) →
        Yields (walkBody setting depth walkTail body) fun walked tables => ∀ other,
          Composed setting (body.references common references) (body.passages common passages) tables
            (walked.1.passages other (tail other walked.2))
  | .select select, common, depth, walkTail, references, passages, tail, htail =>
    (walkSelect_composed select common depth walkTail references passages tail htail).map fun _ _ h => h
  | .query query, common, depth, _, _, _, _, htail => (walkQuery_composed query common depth).bind fun _ _ h =>
    (htail depth).map fun _ _ ht other => (h other).append (ht other)
  | .setOperation left _ right, common, depth, _, _, _, _, htail =>
    (walkBody_composed left common depth (fun _ => pure {}) [] [] (fun _ _ => []) fun _ => .pure fun _ => .nil).bind
      fun _ _ hleft =>
        (walkBody_composed right common depth (fun _ => pure {}) [] [] (fun _ _ => [])
          fun _ => .pure fun _ => .nil).bind fun _ _ hright =>
            (htail depth).map fun _ _ ht other => (hleft other).append ((hright other).append (ht other))
  | .values _ rows, common, depth, _, _, _, _, htail => (walkRows_composed rows common depth).bind fun _ _ h =>
    (htail depth).map fun _ _ ht other => (h other).append (ht other)
  | .table _ _, _, depth, _, _, _, _, htail => (htail depth).map fun _ _ ht other => (ht other).skip
  | .statement statement, common, depth, _, _, _, _, htail =>
    (walkStatement_composed statement common depth).bind fun _ _ h =>
      (htail depth).map fun _ _ ht other => (h other).append (ht other)

theorem walkSelect_composed : ∀ (select : Select) (common : List Ident) (depth : Nat) (walkTail : Nat → Walk Tail)
    (references : List Reference) (passages : List Passage) (tail : List Ident → Tail → List Passage),
    (∀ depth, Yields (walkTail depth) fun walked tables => ∀ other,
      Composed setting references passages tables (tail other walked)) →
        Yields (walkSelect setting depth walkTail select) fun walked tables => ∀ other,
          Composed setting (select.references common references) (select.passages common passages) tables
            (walked.1.passages other (tail other walked.2))
  | { head, projection, into, from_, views, prewhere, selection, groupBy, groupTail, clusterBy, distributeBy,
      sortBy, having, windowsBefore, qualify, windowsAfter, connectBy }, common, depth, walkTail, references,
      passages, tail, htail => by
    refine .scope (fun walked tables => ∀ other, Composed setting _ _ tables
        (walked.1.inside other (tail other walked.2)))
      (Factor.sites 0 (factors from_)) (bindFactors_eq setting (depth + 1) (factors from_) 0)
      ((walkTables_composed from_ common (depth + 1)).bind fun _ _ hfrom =>
        (walkExprs_composed projection common (depth + 1) false).bind fun _ _ hprojection =>
        (walkOptional_composed prewhere common (depth + 1) false).bind fun _ _ hprewhere =>
        (walkOptional_composed selection common (depth + 1) false).bind fun _ _ hselection =>
        (walkExprs_composed groupBy common (depth + 1) false).bind fun _ _ hgroupBy =>
        (walkOptional_composed having common (depth + 1) false).bind fun _ _ hhaving =>
        (walkOptional_composed qualify common (depth + 1) false).bind fun _ _ hqualify =>
        (walkExprs_composed clusterBy common (depth + 1) false).bind fun _ _ hclusterBy =>
        (walkExprs_composed distributeBy common (depth + 1) false).bind fun _ _ hdistributeBy =>
        (walkExprs_composed sortBy common (depth + 1) false).bind fun _ _ hsortBy =>
        (htail (depth + 1)).map fun _ _ ht other => (hfrom other).append <| (hprojection other).append <|
          (hprewhere other).append <| (hselection other).append <| (hgroupBy other).append <|
          (hhaving other).append <| (hqualify other).append <| (hclusterBy other).append <|
          (hdistributeBy other).append <| (hsortBy other).append (ht other))
      (fun _ _ => rfl) fun walked settled bindings closed h hsame hsettles other => ?_
    rw [Select.passages_relocated]
    exact ((h other).factors common hsame hsettles).skip

theorem walkTable_composed : ∀ (table : TableRef) (common : List Ident) (depth : Nat),
    Yields (walkTable setting depth table) fun walked tables => ∀ other,
      Composed setting (table.inner common) (table.passages common) tables (walked.passages other)
  | .table .., _, _ => .pure fun _ => .printed
  | .derived _ query _, common, depth => (walkQuery_composed query common depth).map fun _ _ h => h
  | .nested inner _, common, depth => (walkTable_composed inner common depth).map fun _ _ h => h
  | .join left _ right matching on _, common, depth => (walkTable_composed left common depth).bind fun _ _ hleft =>
    (walkTable_composed right common depth).bind fun _ _ hright =>
      (walkOptional_composed matching common depth false).bind fun _ _ hmatching =>
        (walkOptional_composed on common depth false).map fun _ _ hon other =>
          (hleft other).append ((hright other).append ((hmatching other).append (hon other)))
  | .turned .., _, _ => .pure fun _ => .printed
  | .other .., _, _ => .pure fun _ => .printed

theorem walkTables_composed : ∀ (tables : List TableRef) (common : List Ident) (depth : Nat),
    Yields (walkTables setting depth tables) fun walked settled => ∀ other,
      Composed setting (TableRef.allInner common tables) (TableRef.allPassages common tables) settled
        (TableRef.allPassages other walked)
  | [], _, _ => .pure fun _ => .nil
  | table :: tables, common, depth => (walkTable_composed table common depth).bind fun _ _ hfirst =>
    (walkTables_composed tables common depth).map fun _ _ hrest other => (hfirst other).append (hrest other)

theorem walkInsert_composed : ∀ (insert : Insert) (common : List Ident) (depth : Nat),
    Yields (walkInsert setting depth insert) fun walked tables => ∀ other,
      Composed setting (insert.references common) (insert.passages common) tables (walked.passages other)
  | { head := _, target, alias_ := _, columns := _, middle := _, source := some query, trailer := _ }, common,
      depth =>
    .scope (fun walked tables => ∃ after, walked = some after ∧ ∀ other,
        Composed setting (query.references common) (query.passages common) tables (after.passages other))
      [⟨.target, target, none⟩] (bind_pure _).symm
      (.first (depth + 1) (onRows_runs _) (insert_ownSteps_flat _) fun _ =>
        (walkQuery_composed query common (depth + 1)).map fun _ _ h => ⟨_, rfl, h⟩)
      (fun _ _ => rfl) fun _ _ _ _ ⟨_, hafter, h⟩ hsame hsettles other => by
        subst hafter
        exact ((h other).closed (fun site => { name := site.name }) (fun _ => rfl) (fun _ => rfl) hsame
          hsettles).skip
  | { head := _, target, alias_ := _, columns := _, middle := _, source := none, trailer := _ }, common, depth =>
    .scope (fun walked tables => walked = none ∧ tables = []) [⟨.target, target, none⟩] (bind_pure _).symm
      (.first (depth + 1) (onRows_runs _) (insert_ownSteps_flat _) fun _ => .pure ⟨rfl, rfl⟩)
      (fun _ _ => rfl) fun _ _ _ _ ⟨hnone, hnothing⟩ hsame hsettles other => by
        subst hnone hnothing
        exact (Composed.nil.closed (fun site => { name := site.name }) (fun _ => rfl) (fun _ => rfl) hsame
          hsettles).skip

theorem walkUpdate_composed : ∀ (update : Update) (common : List Ident) (depth : Nat),
    Yields (walkUpdate setting depth update) fun walked tables => ∀ other,
      Composed setting (update.references common) (update.passages common) tables (walked.passages other)
  | { conflict, table, fromBefore, assignments, fromAfter, selection, returning }, common, depth => by
    refine .scope (fun walked tables => ∀ other, Composed setting _ _ tables
        (walked.1.passages other ++ behind (walked.1.inner other)
          (Expr.allPassages other walked.2.1 ++ behind (Expr.allReferences other walked.2.1)
            (Expr.optionalPassages other walked.2.2))))
      (Factor.sites 0 (tableFactors table)) (bindFactors_eq setting (depth + 1) (tableFactors table) 0)
      ((walkTable_composed table common (depth + 1)).bind fun _ _ htable =>
        (walkExprs_composed assignments common (depth + 1) false).bind fun _ _ hassignments =>
        (walkOptional_composed selection common (depth + 1) false).map fun _ _ hselection other =>
          (htable other).append ((hassignments other).append (hselection other)))
      (fun _ _ => rfl) fun walked settled bindings closed h hsame hsettles other => ?_
    simp only [Update.passages, passages_relocateTable, inner_relocateTable]
    exact ((h other).factors common hsame hsettles).skip

theorem walkDelete_composed : ∀ (delete : Delete) (common : List Ident) (depth : Nat),
    Yields (walkDelete setting depth delete) fun walked tables => ∀ other,
      Composed setting (delete.references common) (delete.passages common) tables (walked.passages other)
  | { targets, fromKeyword, from_, using_ := some tables, selection, returning, orderBy, limit }, common, depth => by
    refine .scope (fun walked settled => ∀ other, Composed setting _ _ settled
        (Delete.inside other walked.1 walked.2.1 walked.2.2.1 walked.2.2.2.1 walked.2.2.2.2))
      (Factor.sites 0 (factors from_ ++ factors tables))
      (bindFactors_eq setting (depth + 1) (factors from_ ++ factors tables) 0)
      ((walkTables_composed from_ common (depth + 1)).bind fun _ _ hfrom =>
        (walkTables_composed tables common (depth + 1)).bind fun _ _ husing => .given <|
        (walkOptional_composed selection common (depth + 1) false).bind fun _ _ hselection =>
        (walkExprs_composed orderBy common (depth + 1) false).bind fun _ _ horderBy =>
        (walkOptional_composed limit common (depth + 1) false).map fun _ _ hlimit other =>
          (hfrom other).append ((husing other).append ((hselection other).append
            ((horderBy other).append (hlimit other)))))
      (fun _ _ => rfl) fun walked settled bindings closed h hsame hsettles other => ?_
    rw [Delete.passages_relocated]
    exact ((h other).factors common hsame hsettles).skip
  | { targets, fromKeyword, from_, using_ := none, selection, returning, orderBy, limit }, common, depth => by
    refine .scope (fun walked settled => ∀ other, Composed setting _ _ settled
        (Delete.inside other walked.1 walked.2.1 walked.2.2.1 walked.2.2.2.1 walked.2.2.2.2))
      (Factor.sites 0 (factors from_ ++ [])) (bindFactors_eq setting (depth + 1) (factors from_ ++ []) 0)
      ((walkTables_composed from_ common (depth + 1)).bind fun _ _ hfrom => .given <|
        (walkOptional_composed selection common (depth + 1) false).bind fun _ _ hselection =>
        (walkExprs_composed orderBy common (depth + 1) false).bind fun _ _ horderBy =>
        (walkOptional_composed limit common (depth + 1) false).map fun _ _ hlimit other =>
          (hfrom other).append (Composed.nil.append ((hselection other).append
            ((horderBy other).append (hlimit other)))))
      (fun _ _ => rfl) fun walked settled bindings closed h hsame hsettles other => ?_
    rw [Delete.passages_relocated]
    exact ((h other).factors common hsame hsettles).skip

theorem walkStatement_composed : ∀ (statement : Statement) (common : List Ident) (depth : Nat),
    Yields (walkStatement setting depth statement) fun walked tables => ∀ other,
      Composed setting (statement.references common) (statement.passages common) tables (walked.passages other)
  | .query query, common, depth => (walkQuery_composed query common depth).map fun _ _ h => h
  | .insert insert, common, depth => (walkInsert_composed insert common depth).map fun _ _ h => h
  | .update update, common, depth => (walkUpdate_composed update common depth).map fun _ _ h => h
  | .delete delete, common, depth => (walkDelete_composed delete common depth).map fun _ _ h => h
  | .other, _, _ => .pure fun _ => .nil

end

end Walk

/-! ### Statements -/

theorem routeStatement_composed {statement : Statement} {routed : Routed}
    (h : (Router.routeStatement setting statement).result = .ok routed) :
    Composed setting (statement.references []) (statement.passages []) routed.tables
      (routed.statement.passages []) := by
  obtain ⟨tree, p, hwalk, rfl⟩ := Outcome.ofWalk_iff.mp h
  obtain ⟨-, tables, hrouted, hcomposed⟩ := walkStatement_composed statement [] 0 {} tree p hwalk
  rw [List.nil_append] at hrouted
  exact hrouted ▸ hcomposed []

/-- Every query that is walked inside a routed statement goes through alone. It becomes the query that stands in its
    place, and the tables that it has alone are those that it has in the statement: as many as there are bound
    references in it, behind as many as there are before it. -/
theorem passages_routed_alone {statement : Statement} {routed : Routed}
    (h : (Router.routeStatement setting statement).result = .ok routed) :
    (routed.statement.passages []).length = (statement.passages []).length ∧
      ∀ (i : Nat) (passage : Passage), (statement.passages [])[i]? = some passage →
        ∃ rewritten alone after, (routed.statement.passages [])[i]? = some rewritten ∧
          (Router.routeStatement setting (.query passage.query)).result = .ok alone ∧
          alone.statement = .query rewritten.query ∧
          statement.references [] = passage.before ++ (passage.references ++ after) ∧
          alone.tables = (routed.tables.drop (passage.before.countP (Reference.bound setting))).take
            (passage.references.countP (Reference.bound setting)) := by
  have hparts := (routeStatement_composed h).parts
  refine ⟨hparts.length_eq.symm, fun i passage hi => ?_⟩
  obtain ⟨hlength, hpassage⟩ := List.getElem?_eq_some_iff.mp hi
  have hlength' : i < (routed.statement.passages []).length := hparts.length_eq ▸ hlength
  have hpart := hparts.get hlength hlength'
  rw [List.get_eq_getElem, List.get_eq_getElem, hpassage] at hpart
  obtain ⟨after, earlier, later, alone, hbefore, hrun, htables, hearlier, hown⟩ := hpart
  have hwalk : walkStatement setting 0 (.query passage.query) {} = .ok _ alone :=
    map_iff.mpr ⟨_, hrun, rfl⟩
  refine ⟨_, _, after, List.getElem?_eq_getElem hlength', Outcome.ofWalk_iff.mpr ⟨_, alone, hwalk, rfl⟩, rfl,
    hbefore, ?_⟩
  rw [htables, ← hearlier, ← hown, List.drop_left, List.take_left]

theorem passages_routed_alone_beside :
    ∃ routed, (Router.routeStatement (Sample.under []) Sample.beside).result = .ok routed ∧
      (routed.statement.passages []).length = 2 ∧
      ∃ rewritten alone, (routed.statement.passages [])[1]? = some rewritten ∧
        (Router.routeStatement (Sample.under []) (.query (Sample.ofKey "1"))).result = .ok alone ∧
        alone.statement = .query rewritten.query ∧ alone.tables = routed.tables.take 1 := by
  obtain ⟨routed, h⟩ : ∃ routed, (Router.routeStatement (Sample.under []) Sample.beside).result = .ok routed :=
    ⟨_, rfl⟩
  obtain ⟨hlength, hpassages⟩ := passages_routed_alone h
  obtain ⟨rewritten, alone, -, hrewritten, halone, hstatement, -, htables⟩ := hpassages 1 _ rfl
  exact ⟨routed, h, hlength, rewritten, alone, hrewritten, halone, hstatement, htables⟩

end ShardRouting
