import ShardRouting.Proofs.Erasure
import ShardRouting.Proofs.Placement
import ShardRouting.Proofs.Yielding
import Mathlib.Data.List.Nodup

/-! The frame of a routing. A routed statement is the statement it was made from, but for the names of its sharded
    tables, the aliases that these get, and the names in the list of a deletion. -/

namespace ShardRouting
open Sql Walk

variable {α β : Type} {setting : Setting}

/-! ### Agreement after erasure -/

/-- Two trees are the same once they are erased by some marks, which takes up all of these. -/
def Agree (marks : List Mark) (x y : Erasing α) : Prop :=
  ∀ rest, ∃ a, x.run (marks ++ rest) = (a, rest) ∧ y.run (marks ++ rest) = (a, rest)

namespace Agree

variable {marks more : List Mark} {x y : Erasing α} {f g : α → Erasing β}

theorem pure (a : α) : Agree [] (Pure.pure a) (Pure.pure a) := fun _ => ⟨a, rfl, rfl⟩

theorem bind (h : Agree marks x y) (hrest : ∀ a, Agree more (f a) (g a)) :
    Agree (marks ++ more) (x >>= f) (y >>= g) := by
  intro rest
  obtain ⟨a, hx, hy⟩ := h (more ++ rest)
  obtain ⟨b, hf, hg⟩ := hrest a rest
  refine ⟨b, ?_, ?_⟩
  · rw [StateT.run_bind, List.append_assoc, hx]
    exact hf
  · rw [StateT.run_bind, List.append_assoc, hy]
    exact hg

/-- What is erased may be put into a tree at the end. -/
theorem map (h : Agree marks x y) (f : α → β) :
    Agree marks (x >>= fun a => Pure.pure (f a)) (y >>= fun a => Pure.pure (f a)) := by
  have hbind := h.bind fun a => pure (f a)
  rwa [List.append_nil] at hbind

theorem given {a : α} (h : Agree more (f a) (g a)) : Agree more (Pure.pure a >>= f) (Pure.pure a >>= g) := h

/-- A mark decides on what is left at its place. -/
theorem mark {f g : Mark → Erasing β} {mark : Mark} (h : Agree more (f mark) (g mark)) :
    Agree (mark :: more) (nextMark >>= f) (nextMark >>= g) := h

/-- All names in the list of a deletion may change. -/
theorem names (rename : ObjectName → ObjectName) : ∀ names : List ObjectName,
    Agree (names.map fun _ => Mark.renamed) (eraseNames names) (eraseNames (names.map rename))
  | [] => pure []
  | _ :: rest => mark ((Agree.names rename rest).map ([] :: ·))

end Agree

/-! ### Fair relocations -/

/-- Relocations meet only sites of sharded tables, and give aliases only where `aliases` is set, to tables
    that have none. -/
def Fair (setting : Setting) (aliases : Bool) (relocations : List Relocation) (sites : List Site) : Prop :=
  ∀ site ∈ sites, ∀ relocation, relocations.find? (·.slot = site.slot) = some relocation →
    Reference.sharded setting { name := site.name } = true ∧
      (relocation.alias_.isSome = true → aliases = true ∧ site.alias_ = none)

theorem Fair.left {aliases : Bool} {relocations : List Relocation} {sites others : List Site}
    (h : Fair setting aliases relocations (sites ++ others)) : Fair setting aliases relocations sites :=
  fun site hsite => h site (List.mem_append_left _ hsite)

theorem Fair.right {aliases : Bool} {relocations : List Relocation} {sites others : List Site}
    (h : Fair setting aliases relocations (sites ++ others)) : Fair setting aliases relocations others :=
  fun site hsite => h site (List.mem_append_right _ hsite)

theorem Site.binding?_alias {site : Site} {binding : Binding} (h : site.binding? setting = some binding) :
    binding.alias_ = site.alias_ := by
  unfold binding? at h
  split at h
  · cases h
  · obtain ⟨key, -, rfl⟩ := Option.map_eq_some_iff.mp h
    rfl

theorem mem_zipWith_left {γ : Type} {f : α → β → γ} {l : List α} {m : List β} {c : γ} (h : c ∈ List.zipWith f l m) :
    ∃ a ∈ l, ∃ b, c = f a b := by
  induction l generalizing m with
  | nil => cases h
  | cons a l ih =>
    cases m with
    | nil => cases h
    | cons b m =>
      rcases List.mem_cons.mp h with rfl | h
      · exact ⟨a, List.mem_cons_self, b, rfl⟩
      · obtain ⟨a', ha', b', rfl⟩ := ih h
        exact ⟨a', List.mem_cons_of_mem _ ha', b', rfl⟩

/-- Only a table without alias gets one. -/
theorem alias_of_relocationFor {aliases : Bool} {binding : Binding} {table : RoutedTable}
    (h : (relocationFor setting aliases binding table).alias_.isSome = true) :
    aliases = true ∧ binding.alias_ = none := by
  cases aliases with
  | false => cases h
  | true =>
    refine ⟨rfl, ?_⟩
    simp only [relocationFor, if_true, aliasFor] at h
    split at h
    · rename_i hnone
      simp only [Bool.and_eq_true, Option.isNone_iff_eq_none] at hnone
      exact hnone.1.1
    · cases h

/-- The relocations of a closed scope are fair to its sites. -/
theorem fair_of_closed (aliases : Bool) {sites : List Site} {bindings : List Binding} {tables : List RoutedTable}
    (hslots : (sites.map Site.slot).Nodup)
    (hsame : bindings.map Binding.identity = (sites.filterMap (Site.binding? setting)).map Binding.identity) :
    Fair setting aliases (List.zipWith (relocationFor setting aliases) bindings tables) sites := by
  intro site hsite relocation hfind
  have hslot : relocation.slot = site.slot := by simpa using List.find?_some hfind
  obtain ⟨binding, hbinding, table, rfl⟩ := mem_zipWith_left (List.mem_of_find?_eq_some hfind)
  -- the binding was made at a site, and that can only be this one
  have hidentity : binding.identity ∈ (sites.filterMap (Site.binding? setting)).map Binding.identity :=
    hsame ▸ List.mem_map_of_mem hbinding
  obtain ⟨made, hmade, heq⟩ := List.mem_map.mp hidentity
  obtain ⟨other, hother, hfound⟩ := List.mem_filterMap.mp hmade
  obtain ⟨hslot', -, -, halias, -⟩ := Binding.mk.inj heq
  have hslots' : other.slot = site.slot := (Site.binding?_some hfound).1.symm.trans (hslot'.trans hslot)
  obtain rfl : other = site := List.inj_on_of_nodup_map hslots hother hsite hslots'
  refine ⟨?_, fun hgiven => ?_⟩
  · have hbound : Reference.bound setting { name := other.name } = _ := Site.bound_eq setting other rfl rfl
    rw [hfound] at hbound
    exact hbound
  · obtain ⟨haliases, hnone⟩ := alias_of_relocationFor hgiven
    exact ⟨haliases, (Site.binding?_alias hfound).symm.trans (halias.trans hnone)⟩

/-! ### Tables -/

/-- Fair relocations change a table only as its mark says. -/
theorem agree_relocated {aliases : Bool} {relocations : List Relocation} {index : Nat} (name : ObjectName)
    (arguments : List Piece) (alias_ : Option TableAlias) (hints : List Piece)
    (h : Fair setting aliases relocations (Factor.sites index [⟨name, alias_⟩])) :
    Agree (TableRef.marks setting aliases (.table name arguments alias_ hints))
      (TableRef.erase (.table name arguments alias_ hints))
      (TableRef.erase (relocateTable setting.options.defaultSchema relocations index
        (.table name arguments alias_ hints))) := by
  simp only [relocateTable]
  cases hfind : relocationAt? relocations index with
  | none => exact .mark (.pure _)
  | some relocation =>
    obtain ⟨hsharded, hgiven⟩ := h _ List.mem_cons_self relocation hfind
    simp only [TableRef.marks, Factor.mark, if_pos hsharded]
    cases hnew : relocation.alias_ with
    | none =>
      split <;> exact .mark (.pure _)
    | some given =>
      obtain ⟨rfl, hnone⟩ := hgiven (by simp [hnew])
      obtain rfl : alias_ = none := Option.map_eq_none_iff.mp hnone
      exact .mark (.pure _)

/-- The name that rows are inserted into changes only if its table is sharded. -/
theorem name_relocateTarget {relocations : List Relocation} {target : ObjectName}
    (h : Fair setting false relocations [⟨.target, target, none⟩]) :
    (target.mark setting).name (relocateTarget setting.options.defaultSchema relocations target) =
      (target.mark setting).name target := by
  unfold relocateTarget
  cases hfind : relocations.find? (·.slot = .target) with
  | none => rfl
  | some relocation =>
    obtain ⟨hsharded, -⟩ := h _ List.mem_cons_self relocation hfind
    rw [ObjectName.mark, if_pos hsharded]
    rfl

/-- A table and what a walk has made of it: relocations that are fair to its own tables bring the two into
    agreement. -/
structure TableFrame (setting : Setting) (table walked : TableRef) : Prop where
  numbered : tableFactors walked = tableFactors table
  agree : ∀ aliases relocations index, Fair setting aliases relocations (Factor.sites index (tableFactors table)) →
    Agree (table.marks setting aliases) table.erase
      (relocateTable setting.options.defaultSchema relocations index walked).erase

/-- Several tables and what a walk has made of them. -/
structure TablesFrame (setting : Setting) (tables walked : List TableRef) : Prop where
  numbered : factors walked = factors tables
  agree : ∀ aliases relocations index, Fair setting aliases relocations (Factor.sites index (factors tables)) →
    Agree (TableRef.allMarks setting aliases tables) (TableRef.eraseAll tables)
      (TableRef.eraseAll (relocateTables setting.options.defaultSchema relocations index walked))

theorem TablesFrame.nil : TablesFrame setting [] [] := ⟨rfl, fun _ _ _ _ => .pure []⟩

theorem TablesFrame.cons {table walked : TableRef} {tables rest : List TableRef} (h : TableFrame setting table walked)
    (hrest : TablesFrame setting tables rest) : TablesFrame setting (table :: tables) (walked :: rest) where
  numbered := congrArg₂ (· ++ ·) h.numbered hrest.numbered
  agree aliases relocations index hfair := by
    have hsites : Factor.sites index (factors (table :: tables)) =
        Factor.sites index (tableFactors table) ++
          Factor.sites (index + (tableFactors table).length) (factors tables) :=
      Factor.sites_append index (tableFactors table) (factors tables)
    rw [hsites] at hfair
    rw [relocateTables, h.numbered]
    exact (h.agree aliases relocations index hfair.left).bind fun _ =>
      (hrest.agree aliases relocations _ hfair.right).map _

/-- A join of two tables, with its conditions. -/
theorem TableFrame.join {left right walkedLeft walkedRight : TableRef}
    {matching on walkedMatching walkedOn : Option Expr} (words : String) (using_ : List ObjectName)
    (hleft : TableFrame setting left walkedLeft) (hright : TableFrame setting right walkedRight)
    (hmatching : Agree (Expr.optionalMarks setting matching) (Expr.eraseOptional matching)
      (Expr.eraseOptional walkedMatching))
    (hon : Agree (Expr.optionalMarks setting on) (Expr.eraseOptional on) (Expr.eraseOptional walkedOn)) :
    TableFrame setting (.join left words right matching on using_)
      (.join walkedLeft words walkedRight walkedMatching walkedOn using_) where
  numbered := congrArg₂ (· ++ ·) hleft.numbered hright.numbered
  agree aliases relocations index hfair := by
    rw [tableFactors, Factor.sites_append] at hfair
    rw [relocateTable, hleft.numbered]
    exact (hleft.agree aliases relocations index hfair.left).bind fun _ =>
      (hright.agree aliases relocations _ hfair.right).bind fun _ => hmatching.bind fun _ => hon.map _

/-- The clauses behind a body and what a walk has made of them. -/
structure TailFrame (setting : Setting) (tail walked : Tail) : Prop where
  orderBy : Agree (Expr.allMarks setting tail.orderBy) (Expr.eraseAll tail.orderBy) (Expr.eraseAll walked.orderBy)
  limit : Agree (Expr.optionalMarks setting tail.limit) (Expr.eraseOptional tail.limit)
    (Expr.eraseOptional walked.limit)
  limitBy : Agree (Expr.allMarks setting tail.limitBy) (Expr.eraseAll tail.limitBy) (Expr.eraseAll walked.limitBy)
  offset : Agree (Expr.optionalMarks setting tail.offset) (Expr.eraseOptional tail.offset)
    (Expr.eraseOptional walked.offset)
  fetch : Agree (Expr.optionalMarks setting tail.fetch) (Expr.eraseOptional tail.fetch)
    (Expr.eraseOptional walked.fetch)

/-- A selection and what a walk has made of it before its scope closes. -/
def SelectFrame (setting : Setting) (select walked : Select) : Prop :=
  ∀ relocations, Fair setting true relocations (Factor.sites 0 (factors select.from_)) →
    Agree (select.marks setting) select.erase
      (Select.erase { walked with
        from_ := relocateTables setting.options.defaultSchema relocations 0 walked.from_ })

/-! ### Trees -/

namespace Walk

mutual

theorem walkExpr_frame : ∀ (e : Expr) (depth : Nat) (underNot : Bool),
    Yields (walkExpr setting depth underNot e) fun walked _ => Agree (e.marks setting) e.erase walked.erase
  | .ident _, _, _ => .pure (.pure _)
  | .column _, _, _ => .pure (.pure _)
  | .literal _, _, _ => .pure (.pure _)
  | .typed _ _, _, _ => .pure (.pure _)
  | .nested operand, depth, underNot => (walkExpr_frame operand depth underNot).map fun _ _ h => h.map _
  | .not operand, depth, _ => (walkExpr_frame operand depth true).map fun _ _ h => h.map _
  | .sign _ operand, depth, underNot => (walkExpr_frame operand depth underNot).map fun _ _ h => h.map _
  | .binary left _ right, depth, underNot =>
    .first depth (onPredicate_runs underNot _) (ownSteps_flat underNot _) fun _ =>
      (walkExpr_frame left depth underNot).bind fun _ _ hleft =>
        (walkExpr_frame right depth underNot).map fun _ _ hright => hleft.bind fun _ => hright.map _
  | .inList left _ items, depth, underNot =>
    .first depth (onPredicate_runs underNot _) (ownSteps_flat underNot _) fun _ =>
      (walkExpr_frame left depth underNot).bind fun _ _ hleft =>
        (walkExprs_frame items depth underNot).map fun _ _ hitems => hleft.bind fun _ => hitems.map _
  | .between left _ low high, depth, underNot =>
    .first depth (onPredicate_runs underNot _) (ownSteps_flat underNot _) fun _ =>
      (walkExpr_frame left depth underNot).bind fun _ _ hleft =>
        (walkExpr_frame low depth underNot).bind fun _ _ hlow =>
          (walkExpr_frame high depth underNot).map fun _ _ hhigh =>
            hleft.bind fun _ => hlow.bind fun _ => hhigh.map _
  | .test left _ _ right, depth, underNot =>
    .first depth (onPredicate_runs underNot _) (ownSteps_flat underNot _) fun _ =>
      (walkExpr_frame left depth underNot).bind fun _ _ hleft =>
        (walkExpr_frame right depth underNot).map fun _ _ hright => hleft.bind fun _ => hright.map _
  | .isNull operand, depth, underNot =>
    .first depth (onPredicate_runs underNot _) (ownSteps_flat underNot _) fun _ =>
      (walkExpr_frame operand depth underNot).map fun _ _ h => h.map _
  | .subquery query, depth, _ => (walkQuery_frame query depth).map fun _ _ h => h.map _
  | .trim _ what subject, depth, underNot =>
    (walkExpr_frame subject depth underNot).bind fun _ _ hsubject =>
      (walkExpr_frame what depth underNot).map fun _ _ hwhat => hwhat.bind fun _ => hsubject.map _
  | .call _ pieces, depth, underNot => (walkPieces_frame pieces depth underNot).map fun _ _ h => h.map _
  | .form pieces, depth, underNot => (walkPieces_frame pieces depth underNot).map fun _ _ h => h.map _

theorem walkExprs_frame : ∀ (es : List Expr) (depth : Nat) (underNot : Bool),
    Yields (walkExprs setting depth underNot es) fun walked _ =>
      Agree (Expr.allMarks setting es) (Expr.eraseAll es) (Expr.eraseAll walked)
  | [], _, _ => .pure (.pure [])
  | e :: es, depth, underNot => (walkExpr_frame e depth underNot).bind fun _ _ hfirst =>
    (walkExprs_frame es depth underNot).map fun _ _ hrest => hfirst.bind fun _ => hrest.map _

theorem walkOptional_frame : ∀ (e : Option Expr) (depth : Nat) (underNot : Bool),
    Yields (walkOptional setting depth underNot e) fun walked _ =>
      Agree (Expr.optionalMarks setting e) (Expr.eraseOptional e) (Expr.eraseOptional walked)
  | none, _, _ => .pure (.pure none)
  | some e, depth, underNot => (walkExpr_frame e depth underNot).map fun _ _ h => h.map _

theorem walkRows_frame : ∀ (rows : List (List Expr)) (depth : Nat),
    Yields (walkRows setting depth rows) fun walked _ =>
      Agree (Expr.rowMarks setting rows) (Expr.eraseRows rows) (Expr.eraseRows walked)
  | [], _ => .pure (.pure [])
  | row :: rows, depth => (walkExprs_frame row depth false).bind fun _ _ hfirst =>
    (walkRows_frame rows depth).map fun _ _ hrest => hfirst.bind fun _ => hrest.map _

theorem walkPieces_frame : ∀ (pieces : List Piece) (depth : Nat) (underNot : Bool),
    Yields (walkPieces setting depth underNot pieces) fun walked _ =>
      Agree (Piece.allMarks setting pieces) (Piece.eraseAll pieces) (Piece.eraseAll walked)
  | [], _, _ => .pure (.pure [])
  | piece :: pieces, depth, underNot => (walkPiece_frame piece depth underNot).bind fun _ _ hfirst =>
    (walkPieces_frame pieces depth underNot).map fun _ _ hrest => hfirst.bind fun _ => hrest.map _

theorem walkPiece_frame : ∀ (piece : Piece) (depth : Nat) (underNot : Bool),
    Yields (walkPiece setting depth underNot piece) fun walked _ =>
      Agree (piece.marks setting) piece.erase walked.erase
  | .words _, _, _ => .pure (.pure _)
  | .part operand, depth, underNot => (walkExpr_frame operand depth underNot).map fun _ _ h => h.map _
  | .aside _, _, _ => .pure (.pure _)

theorem walkQuery_frame : ∀ (query : Query) (depth : Nat),
    Yields (walkQuery setting depth query) fun walked _ => Agree (query.marks setting) query.erase walked.erase
  | { recursive := _, ctes, body, orderBy, limit, offset, limitBy, settings := _, fetch, ending := _ }, depth =>
    (walkCtes_frame ctes depth).bind fun _ _ hctes =>
      (walkBody_frame body depth _ (TailFrame setting ⟨orderBy, limit, limitBy, offset, fetch⟩) fun depth =>
        (walkExprs_frame orderBy depth false).bind fun _ _ horderBy =>
        (walkOptional_frame limit depth false).bind fun _ _ hlimit =>
        (walkExprs_frame limitBy depth false).bind fun _ _ hlimitBy =>
        (walkOptional_frame offset depth false).bind fun _ _ hoffset =>
        (walkOptional_frame fetch depth false).map fun _ _ hfetch =>
          ⟨horderBy, hlimit, hlimitBy, hoffset, hfetch⟩).map fun _ _ ⟨hbody, htail⟩ =>
      hctes.bind fun _ => hbody.bind fun _ => htail.orderBy.bind fun _ => htail.limit.bind fun _ =>
        htail.offset.bind fun _ => htail.limitBy.bind fun _ => htail.fetch.map _

theorem walkCte_frame : ∀ (cte : Cte) (depth : Nat),
    Yields (walkCte setting depth cte) fun walked _ => Agree (cte.marks setting) cte.erase walked.erase
  | { alias_ := _, keyword := _, query, source := _ }, depth =>
    (walkQuery_frame query depth).map fun _ _ h => h.map _

theorem walkCtes_frame : ∀ (ctes : List Cte) (depth : Nat),
    Yields (walkCtes setting depth ctes) fun walked _ =>
      Agree (Cte.allMarks setting ctes) (Cte.eraseAll ctes) (Cte.eraseAll walked)
  | [], _ => .pure (.pure [])
  | cte :: ctes, depth => (walkCte_frame cte depth).bind fun _ _ hfirst =>
    (walkCtes_frame ctes depth).map fun _ _ hrest => hfirst.bind fun _ => hrest.map _

theorem walkBody_frame : ∀ (body : Body) (depth : Nat) (walkTail : Nat → Walk Tail) (tail : Tail → Prop),
    (∀ depth, Yields (walkTail depth) fun walked _ => tail walked) →
      Yields (walkBody setting depth walkTail body) fun walked _ =>
        Agree (body.marks setting) body.erase walked.1.erase ∧ tail walked.2
  | .select select, depth, walkTail, tail, htail =>
    (walkSelect_frame select depth walkTail tail htail).map fun _ _ ⟨h, ht⟩ => ⟨h.map _, ht⟩
  | .query query, depth, _, _, htail => (walkQuery_frame query depth).bind fun _ _ h =>
    (htail depth).map fun _ _ ht => ⟨h.map _, ht⟩
  | .setOperation left _ right, depth, _, _, htail =>
    (walkBody_frame left depth (fun _ => pure {}) (fun _ => True) fun _ => .pure trivial).bind fun _ _ ⟨hleft, _⟩ =>
      (walkBody_frame right depth (fun _ => pure {}) (fun _ => True) fun _ => .pure trivial).bind
        fun _ _ ⟨hright, _⟩ => (htail depth).map fun _ _ ht => ⟨hleft.bind fun _ => hright.map _, ht⟩
  | .values _ rows, depth, _, _, htail => (walkRows_frame rows depth).bind fun _ _ h =>
    (htail depth).map fun _ _ ht => ⟨h.map _, ht⟩
  | .table _ _, depth, _, _, htail => (htail depth).map fun _ _ ht => ⟨.pure _, ht⟩
  | .statement statement, depth, _, _, htail => (walkStatement_frame statement depth).bind fun _ _ h =>
    (htail depth).map fun _ _ ht => ⟨h.map _, ht⟩

theorem walkSelect_frame : ∀ (select : Select) (depth : Nat) (walkTail : Nat → Walk Tail) (tail : Tail → Prop),
    (∀ depth, Yields (walkTail depth) fun walked _ => tail walked) →
      Yields (walkSelect setting depth walkTail select) fun walked _ =>
        Agree (select.marks setting) select.erase walked.1.erase ∧ tail walked.2
  | { head, projection, into, from_, views, prewhere, selection, groupBy, groupTail, clusterBy, distributeBy,
      sortBy, having, windowsBefore, qualify, windowsAfter, connectBy }, depth, walkTail, tail, htail => by
    refine .scope (fun walked _ => SelectFrame setting
        ⟨head, projection, into, from_, views, prewhere, selection, groupBy, groupTail, clusterBy, distributeBy,
          sortBy, having, windowsBefore, qualify, windowsAfter, connectBy⟩ walked.1 ∧ tail walked.2)
      (Factor.sites 0 (factors from_)) (bindFactors_eq setting (depth + 1) (factors from_) 0)
      ((walkTables_frame from_ (depth + 1)).bind fun _ _ hfrom =>
        (walkExprs_frame projection (depth + 1) false).bind fun _ _ hprojection =>
        (walkOptional_frame prewhere (depth + 1) false).bind fun _ _ hprewhere =>
        (walkOptional_frame selection (depth + 1) false).bind fun _ _ hselection =>
        (walkExprs_frame groupBy (depth + 1) false).bind fun _ _ hgroupBy =>
        (walkOptional_frame having (depth + 1) false).bind fun _ _ hhaving =>
        (walkOptional_frame qualify (depth + 1) false).bind fun _ _ hqualify =>
        (walkExprs_frame clusterBy (depth + 1) false).bind fun _ _ hclusterBy =>
        (walkExprs_frame distributeBy (depth + 1) false).bind fun _ _ hdistributeBy =>
        (walkExprs_frame sortBy (depth + 1) false).bind fun _ _ hsortBy =>
        (htail (depth + 1)).map fun _ _ ht => ⟨fun relocations hfair => ?_, ht⟩)
      (fun _ _ => rfl) ?_
    · exact hprojection.bind fun _ => (hfrom.agree true relocations 0 hfair).bind fun _ => hprewhere.bind fun _ =>
        hselection.bind fun _ => hgroupBy.bind fun _ => hclusterBy.bind fun _ => hdistributeBy.bind fun _ =>
        hsortBy.bind fun _ => hhaving.bind fun _ => hqualify.map _
    · rintro ⟨walked, _⟩ _ bindings closed ⟨hframe, ht⟩ hsame -
      exact ⟨hframe _ (fair_of_closed true (Factor.slots_nodup 0 _) hsame), ht⟩

theorem walkTable_frame : ∀ (table : TableRef) (depth : Nat),
    Yields (walkTable setting depth table) fun walked _ => TableFrame setting table walked
  | .table name arguments alias_ hints, _ =>
    .pure ⟨rfl, fun _ _ _ hfair => agree_relocated name arguments alias_ hints hfair⟩
  | .derived _ query _, depth => (walkQuery_frame query depth).map fun _ _ h => ⟨rfl, fun _ _ _ _ => h.map _⟩
  | .nested inner _, depth => (walkTable_frame inner depth).map fun _ _ h =>
    ⟨h.numbered, fun aliases relocations index hfair => (h.agree aliases relocations index hfair).map _⟩
  | .join left words right matching on using_, depth => (walkTable_frame left depth).bind fun _ _ hleft =>
    (walkTable_frame right depth).bind fun _ _ hright =>
      (walkOptional_frame matching depth false).bind fun _ _ hmatching =>
        (walkOptional_frame on depth false).map fun _ _ hon => hleft.join words using_ hright hmatching hon
  | .turned .., _ => .pure ⟨rfl, fun _ _ _ _ => .pure _⟩
  | .other .., _ => .pure ⟨rfl, fun _ _ _ _ => .pure _⟩

theorem walkTables_frame : ∀ (tables : List TableRef) (depth : Nat),
    Yields (walkTables setting depth tables) fun walked _ => TablesFrame setting tables walked
  | [], _ => .pure .nil
  | table :: tables, depth => (walkTable_frame table depth).bind fun _ _ hfirst =>
    (walkTables_frame tables depth).map fun _ _ hrest => hrest.cons hfirst

theorem walkInsert_frame : ∀ (insert : Insert) (depth : Nat),
    Yields (walkInsert setting depth insert) fun walked _ => Agree (insert.marks setting) insert.erase walked.erase
  | { head := _, target, alias_ := _, columns := _, middle := _, source := some query, trailer := _ }, depth => by
    refine .scope (fun walked _ => ∃ after, walked = some after ∧ Agree (query.marks setting) query.erase after.erase)
      [⟨.target, target, none⟩] (bind_pure _).symm
      (.first (depth + 1) (onRows_runs _) (insert_ownSteps_flat _) fun _ =>
        (walkQuery_frame query (depth + 1)).map fun _ _ h => ⟨_, rfl, h⟩)
      (fun _ _ => rfl) ?_
    rintro _ _ bindings closed ⟨after, rfl, h⟩ hsame -
    refine .mark ?_
    rw [name_relocateTarget (fair_of_closed false (List.nodup_singleton _) hsame)]
    exact h.map _
  | { head := _, target, alias_ := _, columns := _, middle := _, source := none, trailer := _ }, depth => by
    refine .scope (fun walked _ => walked = none) [⟨.target, target, none⟩] (bind_pure _).symm
      (.first (depth + 1) (onRows_runs _) (insert_ownSteps_flat _) fun _ => .pure rfl)
      (fun _ _ => rfl) ?_
    rintro _ _ bindings closed rfl hsame -
    refine .mark ?_
    rw [name_relocateTarget (fair_of_closed false (List.nodup_singleton _) hsame)]
    exact .pure _

theorem walkUpdate_frame : ∀ (update : Update) (depth : Nat),
    Yields (walkUpdate setting depth update) fun walked _ => Agree (update.marks setting) update.erase walked.erase
  | { conflict := _, table, fromBefore := _, assignments, fromAfter := _, selection, returning := _ }, depth => by
    refine .scope (fun walked _ => TableFrame setting table walked.1 ∧
        Agree (Expr.allMarks setting assignments) (Expr.eraseAll assignments) (Expr.eraseAll walked.2.1) ∧
        Agree (Expr.optionalMarks setting selection) (Expr.eraseOptional selection) (Expr.eraseOptional walked.2.2))
      (Factor.sites 0 (tableFactors table)) (bindFactors_eq setting (depth + 1) (tableFactors table) 0)
      ((walkTable_frame table (depth + 1)).bind fun _ _ htable =>
        (walkExprs_frame assignments (depth + 1) false).bind fun _ _ hassignments =>
        (walkOptional_frame selection (depth + 1) false).map fun _ _ hselection =>
          ⟨htable, hassignments, hselection⟩)
      (fun _ _ => rfl) ?_
    rintro ⟨_, _, _⟩ _ bindings closed ⟨htable, hassignments, hselection⟩ hsame -
    have hfair : Fair setting true (List.zipWith (relocationFor setting true) bindings closed)
        (Factor.sites 0 (tableFactors table)) := fair_of_closed true (Factor.slots_nodup 0 _) hsame
    exact (htable.agree true _ 0 hfair).bind fun _ => hassignments.bind fun _ => hselection.map _

theorem walkDelete_frame : ∀ (delete : Delete) (depth : Nat),
    Yields (walkDelete setting depth delete) fun walked _ => Agree (delete.marks setting) delete.erase walked.erase
  | { targets, fromKeyword := _, from_, using_ := some tables, selection, returning := _, orderBy, limit },
      depth => by
    refine .scope (fun walked _ => TablesFrame setting from_ walked.1 ∧
        (∃ after, walked.2.1 = some after ∧ TablesFrame setting tables after) ∧
        Agree (Expr.optionalMarks setting selection) (Expr.eraseOptional selection)
          (Expr.eraseOptional walked.2.2.1) ∧
        Agree (Expr.allMarks setting orderBy) (Expr.eraseAll orderBy) (Expr.eraseAll walked.2.2.2.1) ∧
        Agree (Expr.optionalMarks setting limit) (Expr.eraseOptional limit) (Expr.eraseOptional walked.2.2.2.2))
      (Factor.sites 0 (factors from_ ++ factors tables))
      (bindFactors_eq setting (depth + 1) (factors from_ ++ factors tables) 0)
      ((walkTables_frame from_ (depth + 1)).bind fun _ _ hfrom =>
        (walkTables_frame tables (depth + 1)).bind fun _ _ husing => .given <|
        (walkOptional_frame selection (depth + 1) false).bind fun _ _ hselection =>
        (walkExprs_frame orderBy (depth + 1) false).bind fun _ _ horderBy =>
        (walkOptional_frame limit (depth + 1) false).map fun _ _ hlimit =>
          ⟨hfrom, ⟨_, rfl, husing⟩, hselection, horderBy, hlimit⟩)
      (fun _ _ => rfl) ?_
    rintro ⟨_, _, _, _, _⟩ _ bindings closed ⟨hfrom, ⟨after, rfl, husing⟩, hselection, horderBy, hlimit⟩ hsame -
    have hfair : Fair setting false (List.zipWith (relocationFor setting false) bindings closed)
        (Factor.sites 0 (factors from_ ++ factors tables)) := fair_of_closed false (Factor.slots_nodup 0 _) hsame
    rw [Factor.sites_append] at hfair
    have husing' := husing.agree false _ _ hfair.right
    rw [Nat.zero_add, ← hfrom.numbered] at husing'
    exact (Agree.names _ targets).bind fun _ => (hfrom.agree false _ 0 hfair.left).bind fun _ =>
      husing'.bind fun _ => .given <| hselection.bind fun _ => horderBy.bind fun _ => hlimit.map _
  | { targets, fromKeyword := _, from_, using_ := none, selection, returning := _, orderBy, limit }, depth => by
    refine .scope (fun walked _ => TablesFrame setting from_ walked.1 ∧ walked.2.1 = none ∧
        Agree (Expr.optionalMarks setting selection) (Expr.eraseOptional selection)
          (Expr.eraseOptional walked.2.2.1) ∧
        Agree (Expr.allMarks setting orderBy) (Expr.eraseAll orderBy) (Expr.eraseAll walked.2.2.2.1) ∧
        Agree (Expr.optionalMarks setting limit) (Expr.eraseOptional limit) (Expr.eraseOptional walked.2.2.2.2))
      (Factor.sites 0 (factors from_ ++ [])) (bindFactors_eq setting (depth + 1) (factors from_ ++ []) 0)
      ((walkTables_frame from_ (depth + 1)).bind fun _ _ hfrom => .given <|
        (walkOptional_frame selection (depth + 1) false).bind fun _ _ hselection =>
        (walkExprs_frame orderBy (depth + 1) false).bind fun _ _ horderBy =>
        (walkOptional_frame limit (depth + 1) false).map fun _ _ hlimit =>
          ⟨hfrom, rfl, hselection, horderBy, hlimit⟩)
      (fun _ _ => rfl) ?_
    rintro ⟨_, _, _, _, _⟩ _ bindings closed ⟨hfrom, rfl, hselection, horderBy, hlimit⟩ hsame -
    have hfair : Fair setting false (List.zipWith (relocationFor setting false) bindings closed)
        (Factor.sites 0 (factors from_ ++ [])) := fair_of_closed false (Factor.slots_nodup 0 _) hsame
    rw [Factor.sites_append] at hfair
    exact (Agree.names _ targets).bind fun _ => (hfrom.agree false _ 0 hfair.left).bind fun _ =>
      .given <| hselection.bind fun _ => horderBy.bind fun _ => hlimit.map _

/-- The walk of a statement changes only what is marked. -/
theorem walkStatement_frame : ∀ (statement : Statement) (depth : Nat),
    Yields (walkStatement setting depth statement) fun walked _ =>
      Agree (statement.marks setting) statement.erase walked.erase
  | .query query, depth => (walkQuery_frame query depth).map fun _ _ h => h.map _
  | .insert insert, depth => (walkInsert_frame insert depth).map fun _ _ h => h.map _
  | .update update, depth => (walkUpdate_frame update depth).map fun _ _ h => h.map _
  | .delete delete, depth => (walkDelete_frame delete depth).map fun _ _ h => h.map _
  | .other, _ => .pure (.pure _)

end
end Walk

/-! ### Statements -/

/-- A routed statement and the one it was made from are the same once all that may change is erased from both:
    the names of bound tables and of the tables in the list of a deletion, and the aliases of bound tables of a
    selection or an update that had none. -/
theorem erased_routed {statement : Statement} {routed : Routed}
    (h : (Router.routeStatement setting statement).result = .ok routed) :
    ∃ erased, statement.erased (statement.marks setting) = (erased, []) ∧
      routed.statement.erased (statement.marks setting) = (erased, []) := by
  obtain ⟨tree, p, hwalk, rfl⟩ := Outcome.ofWalk_iff.mp h
  obtain ⟨-, -, -, hagree⟩ := walkStatement_frame statement 0 {} tree p hwalk
  have hall := hagree []
  rwa [List.append_nil] at hall

theorem erased_routed_beside :
    ∃ routed, (Router.routeStatement (Sample.under []) Sample.beside).result = .ok routed ∧
      Sample.beside.marks (Sample.under []) = [.kept, .aliased, .aliased] ∧
      ∃ erased, Sample.beside.erased [.kept, .aliased, .aliased] = (erased, []) ∧
        routed.statement.erased [.kept, .aliased, .aliased] = (erased, []) := by
  obtain ⟨routed, h⟩ : ∃ routed, (Router.routeStatement (Sample.under []) Sample.beside).result = .ok routed :=
    ⟨_, rfl⟩
  exact ⟨routed, h, rfl, erased_routed h⟩

end ShardRouting
