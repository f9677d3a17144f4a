import ShardRouting.Proofs.Schemas
import ShardRouting.Proofs.Writing
import ShardRouting.Proofs.Yielding
import Mathlib.Data.List.Nodup

/-! The walk writes. What a walk leaves of a tree is the tree with the routes of the tables that it settles
    written into it. The relocations of a closed scope, which go by the numbers of its tables, write the same as
    routes that are taken up one by one. -/

namespace ShardRouting
open Sql Walk

variable {setting : Setting} {aliases : Bool} {relocations : List Relocation}

/-! ### Relocations along the tables of a scope -/

theorem Setting.naming_sharded (setting : Setting) (site : Site) :
    setting.naming.sharded site.name = (site.binding? setting).isSome := by
  have hbound : Reference.bound setting { name := site.name } = (site.binding? setting).isSome :=
    Site.bound_eq setting site rfl rfl
  rwa [Reference.bound, Bool.true_and] at hbound

/-- The relocations of a closed scope, met along its places: that of a sharded table sends it to the route of the
    next settled table. -/
inductive Placed (setting : Setting) (aliases : Bool) (relocations : List Relocation) :
    List Site → List RoutedTable → Prop
  | nil : Placed setting aliases relocations [] []
  | kept {site : Site} {sites : List Site} {tables : List RoutedTable} (h : site.binding? setting = none)
    (hfind : relocations.find? (·.slot = site.slot) = none)
    (hrest : Placed setting aliases relocations sites tables) :
    Placed setting aliases relocations (site :: sites) tables
  | moved {site : Site} {sites : List Site} {binding : Binding} {table : RoutedTable} {tables : List RoutedTable}
    (h : site.binding? setting = some binding)
    (hfind : relocations.find? (·.slot = site.slot) = some (relocationFor setting aliases binding table))
    (hrest : Placed setting aliases relocations sites tables) :
    Placed setting aliases relocations (site :: sites) (table :: tables)

namespace Placed

variable {sites others : List Site} {tables : List RoutedTable}

theorem split (h : Placed setting aliases relocations (sites ++ others) tables) :
    ∃ first rest, tables = first ++ rest ∧ Placed setting aliases relocations sites first ∧
      Placed setting aliases relocations others rest := by
  induction sites generalizing tables with
  | nil => exact ⟨[], tables, rfl, .nil, h⟩
  | cons site sites ih =>
    cases h with
    | kept hbinding hfind hrest =>
      obtain ⟨first, rest, rfl, hfirst, hothers⟩ := ih hrest
      exact ⟨first, rest, rfl, .kept hbinding hfind hfirst, hothers⟩
    | @moved _ _ binding table _ hbinding hfind hrest =>
      obtain ⟨first, rest, rfl, hfirst, hothers⟩ := ih hrest
      exact ⟨table :: first, rest, rfl, .moved hbinding hfind hfirst, hothers⟩

/-- A relocation of another place changes nothing. -/
theorem cons (h : Placed setting aliases relocations sites tables) {relocation : Relocation}
    (hslot : relocation.slot ∉ sites.map Site.slot) :
    Placed setting aliases (relocation :: relocations) sites tables := by
  induction h with
  | nil => exact .nil
  | @kept site sites _ hbinding hfind _ ih =>
    rw [List.map_cons, List.mem_cons, not_or] at hslot
    obtain ⟨hne, hothers⟩ := hslot
    exact .kept hbinding (by rw [List.find?_cons_of_neg (by simpa using hne), hfind]) (ih hothers)
  | @moved site sites _ _ _ hbinding hfind _ ih =>
    rw [List.map_cons, List.mem_cons, not_or] at hslot
    obtain ⟨hne, hothers⟩ := hslot
    exact .moved hbinding (by rw [List.find?_cons_of_neg (by simpa using hne), hfind]) (ih hothers)

/-- Only what the place of a binding says of it has a part in its relocation. -/
theorem relocationFor_congr {binding made : Binding} (hsame : binding.identity = made.identity)
    (table : RoutedTable) :
    relocationFor setting aliases binding table = relocationFor setting aliases made table := by
  obtain ⟨hslot, -, htable, halias, -⟩ := Binding.mk.inj hsame
  have hslot' : binding.slot = made.slot := hslot
  have htable' : binding.table = made.table := htable
  have halias' : binding.alias_ = made.alias_ := halias
  simp only [relocationFor, aliasFor, hslot', htable', halias']

theorem of_closed (aliases : Bool) {bindings : List Binding} (hslots : (sites.map Site.slot).Nodup)
    (hsame : bindings.map Binding.identity = (sites.filterMap (Site.binding? setting)).map Binding.identity)
    (hsettles : List.Forall₂ (Settles setting) bindings tables) :
    Placed setting aliases (List.zipWith (relocationFor setting aliases) bindings tables) sites tables := by
  induction sites generalizing bindings tables with
  | nil =>
    cases List.map_eq_nil_iff.mp hsame
    cases hsettles
    exact .nil
  | cons site sites ih =>
    obtain ⟨hfresh, hrest⟩ := List.nodup_cons.mp hslots
    cases hfound : site.binding? setting with
    | none =>
      rw [List.filterMap_cons_none hfound] at hsame
      refine .kept hfound ?_ (ih hrest hsame hsettles)
      rw [List.find?_eq_none]
      intro relocation hrelocation heq
      rw [decide_eq_true_iff] at heq
      exact hfresh (heq ▸ slot_mem_sites hsame (slot_of_relocationFor hrelocation))
    | some made =>
      rw [List.filterMap_cons_some hfound] at hsame
      cases hsettles with
      | nil => cases hsame
      | @cons binding table bindings tables hfirst hsettles =>
        obtain ⟨hhead, htail⟩ := List.cons.inj hsame
        have hslot : made.slot = site.slot := (Site.binding?_some hfound).1
        rw [List.zipWith_cons_cons, relocationFor_congr hhead]
        refine .moved hfound (List.find?_cons_of_pos (decide_eq_true hslot)) ((ih hrest htail hsettles).cons ?_)
        exact fun hmem => hfresh (hslot ▸ hmem)

theorem length_sharded {fs : List Factor} {index : Nat}
    (h : Placed setting aliases relocations (Factor.sites index fs) tables) :
    (fs.filter fun factor => setting.naming.sharded factor.name).length = tables.length := by
  induction fs generalizing index tables with
  | nil =>
    cases h
    rfl
  | cons factor fs ih =>
    let site : Site := ⟨.factor index, factor.name, factor.alias_.map fun alias_ => alias_.name.value⟩
    have hsharded : setting.naming.sharded factor.name = (site.binding? setting).isSome :=
      setting.naming_sharded site
    have hplaced : Placed setting aliases relocations (site :: Factor.sites (index + 1) fs) tables := h
    cases hplaced with
    | kept hbinding _ hrest =>
      rw [hbinding, Option.isSome_none] at hsharded
      simp only [List.filter_cons, hsharded]
      exact ih hrest
    | moved hbinding _ hrest =>
      rw [hbinding, Option.isSome_some] at hsharded
      simp only [List.filter_cons, hsharded, if_true, List.length_cons, ih hrest]

end Placed

/-! ### Settling the tables of a scope -/

theorem Site.binding?_table {slot : Slot} {name : ObjectName} {alias_ : Option TableAlias} {binding : Binding}
    (h : Site.binding? setting ⟨slot, name, alias_.map fun alias_ => alias_.name.value⟩ = some binding)
    (route : Destination) : (((aliasFor setting.scan binding route).map fun name => { name }).or alias_ :
      Option TableAlias) = setting.naming.aliasFor name alias_ route := by
  unfold Site.binding? at h
  unfold Naming.aliasFor aliasFor
  cases hsplit : name.split? with
  | none => simp [hsplit] at h
  | some parts =>
    simp only [hsplit] at h
    obtain ⟨key, -, rfl⟩ := Option.map_eq_some_iff.mp h
    cases alias_ with
    | some given => simp
    | none =>
      simp only [Option.map_none, Option.isNone_none, Bool.true_and, Setting.naming]
      split <;> rfl

theorem settle_relocateTable (aliases : Bool) (relocations : List Relocation) :
    ∀ (table : TableRef) (index : Nat) {tables : List RoutedTable},
      Placed setting aliases relocations (Factor.sites index (tableFactors table)) tables →
        Writes (table.settle setting.naming aliases) tables
          (relocateTable setting.options.defaultSchema relocations index table)
  | .table name arguments alias_ hints, index, tables, h => by
    let site : Site := ⟨.factor index, name, alias_.map fun alias_ => alias_.name.value⟩
    have hsharded : setting.naming.sharded name = (site.binding? setting).isSome := setting.naming_sharded site
    have hplaced : Placed setting aliases relocations [site] tables := h
    unfold TableRef.settle relocateTable relocationAt?
    cases hplaced with
    | kept hbinding hfind hrest =>
      cases hrest
      have hkept : relocations.find? (·.slot = .factor index) = none := hfind
      rw [hbinding, Option.isSome_none] at hsharded
      rw [hsharded, if_neg Bool.false_ne_true, hkept]
      exact .pure _
    | @moved _ _ binding table _ hbinding hfind hrest =>
      cases hrest
      have hmoved : relocations.find? (·.slot = .factor index) = some (relocationFor setting aliases binding table) :=
        hfind
      rw [hbinding, Option.isSome_some] at hsharded
      rw [if_pos hsharded, hmoved]
      refine .next ?_
      have halias := Site.binding?_table hbinding table.route
      cases aliases with
      | false => exact .pure _
      | true =>
        simp only [if_true, relocationFor, ← halias]
        exact .pure _
  | .nested inner alias_, index, _, h => (settle_relocateTable aliases relocations inner index h).map _
  | .join left words right matching on using_, index, _, h => by
    rw [tableFactors, Factor.sites_append] at h
    obtain ⟨first, rest, rfl, hleft, hright⟩ := h.split
    exact (settle_relocateTable aliases relocations left index hleft).bind
      ((settle_relocateTable aliases relocations right _ hright).map _)
  | .derived .., _, _, h => by
    cases h
    exact .pure _
  | .turned .., _, _, h => by
    cases h
    exact .pure _
  | .other .., _, _, h => by
    cases h
    exact .pure _

theorem settleAll_relocateTables (aliases : Bool) (relocations : List Relocation) (trees : List TableRef)
    (index : Nat) {tables : List RoutedTable}
    (h : Placed setting aliases relocations (Factor.sites index (factors trees)) tables) :
    Writes (TableRef.settleAll setting.naming aliases trees) tables
      (relocateTables setting.options.defaultSchema relocations index trees) := by
  induction trees generalizing index tables with
  | nil =>
    cases h
    exact .pure _
  | cons tree trees ih =>
    rw [factors, List.flatMap_cons, Factor.sites_append] at h
    obtain ⟨first, rest, rfl, hfirst, hrest⟩ := h.split
    exact (settle_relocateTable aliases relocations tree index hfirst).bind ((ih _ hrest).map _)

theorem Site.target_nodup (target : ObjectName) : ([(⟨.target, target, none⟩ : Site)].map Site.slot).Nodup :=
  List.nodup_singleton _

theorem settle_relocateTarget {target : ObjectName} {tables : List RoutedTable}
    (h : Placed setting aliases relocations [⟨.target, target, none⟩] tables) :
    Writes (target.settle setting.naming) tables
      (relocateTarget setting.options.defaultSchema relocations target) := by
  let site : Site := ⟨.target, target, none⟩
  have hsharded : setting.naming.sharded target = (site.binding? setting).isSome := setting.naming_sharded site
  have hplaced : Placed setting aliases relocations [site] tables := h
  unfold ObjectName.settle relocateTarget
  cases hplaced with
  | kept hbinding hfind hrest =>
    cases hrest
    have hkept : relocations.find? (·.slot = .target) = none := hfind
    rw [hbinding, Option.isSome_none] at hsharded
    rw [hsharded, if_neg Bool.false_ne_true, hkept]
    exact .pure _
  | @moved _ _ binding table _ hbinding hfind hrest =>
    cases hrest
    have hmoved : relocations.find? (·.slot = .target) = some (relocationFor setting aliases binding table) := hfind
    rw [hbinding, Option.isSome_some] at hsharded
    rw [if_pos hsharded, hmoved]
    exact .next (.pure _)

/-! ### The list of a deletion -/

/-- What is found first in two lists that go together gives the same. -/
theorem find?_elim {α β γ : Type} {R : α → β → Prop} {l : List α} {m : List β} {p : α → Bool} {q : β → Bool}
    {f : α → γ} {g : β → γ} (h : List.Forall₂ R l m) (hfound : ∀ a b, R a b → p a = q b ∧ f a = g b) (c : γ) :
    (l.find? p).elim c f = (m.find? q).elim c g := by
  induction h with
  | nil => rfl
  | @cons a b l m hab _ ih =>
    obtain ⟨hsame, hresult⟩ := hfound a b hab
    rw [List.find?_cons, List.find?_cons, hsame]
    cases q b with
    | true => exact hresult
    | false => exact ih

/-- The relocations of a scope with numbered tables are those of its sharded tables, one by one. -/
theorem relocations_homes (aliases : Bool) {all : List Factor} (fs : List Factor) (index : Nat)
    (hall : ∀ (i : Nat) (factor : Factor), fs[i]? = some factor → all[index + i]? = some factor)
    {bindings : List Binding} {tables : List RoutedTable}
    (hsame : bindings.map Binding.identity =
      ((Factor.sites index fs).filterMap (Site.binding? setting)).map Binding.identity)
    (hsettles : List.Forall₂ (Settles setting) bindings tables) :
    List.Forall₂ (fun relocation home => (∃ i, relocation.slot = .factor i ∧ all[i]? = some home.1) ∧
        relocation.route = home.2)
      (List.zipWith (relocationFor setting aliases) bindings tables)
      ((fs.filter fun factor => setting.naming.sharded factor.name).zip (tables.map RoutedTable.route)) := by
  induction fs generalizing index bindings tables with
  | nil =>
    cases List.map_eq_nil_iff.mp hsame
    exact .nil
  | cons factor fs ih =>
    let site : Site := ⟨.factor index, factor.name, factor.alias_.map fun alias_ => alias_.name.value⟩
    have hsharded : setting.naming.sharded factor.name = (site.binding? setting).isSome :=
      setting.naming_sharded site
    have hrest : ∀ (i : Nat) (other : Factor), fs[i]? = some other → all[index + 1 + i]? = some other := by
      intro i other hother
      rw [Nat.add_assoc, Nat.add_comm 1]
      exact hall (i + 1) other hother
    have hsites : bindings.map Binding.identity =
        ((site :: Factor.sites (index + 1) fs).filterMap (Site.binding? setting)).map Binding.identity := hsame
    cases hfound : site.binding? setting with
    | none =>
      rw [hfound, Option.isSome_none] at hsharded
      rw [List.filterMap_cons_none hfound] at hsites
      rw [List.filter_cons_of_neg (by simp [hsharded])]
      exact ih (index + 1) hrest hsites hsettles
    | some made =>
      rw [hfound, Option.isSome_some] at hsharded
      rw [List.filterMap_cons_some hfound] at hsites
      cases hsettles with
      | nil => cases hsites
      | @cons binding table bindings tables hfirst hsettles =>
        obtain ⟨hhead, htail⟩ := List.cons.inj hsites
        have hslot : binding.slot = .factor index :=
          (Binding.mk.inj hhead).1.trans (Site.binding?_some hfound).1
        have hfactor : all[index]? = some factor := hall 0 factor rfl
        rw [List.filter_cons_of_pos (by simp [hsharded])]
        exact .cons ⟨⟨index, hslot, hfactor⟩, rfl⟩ (ih (index + 1) hrest htail hsettles)

/-- A relocation of the first table without alias that a name means. -/
def Relocation.meant (fs : List Factor) (name : ObjectName) (relocation : Relocation) : Bool :=
  match relocation.slot with
  | .factor index => match fs[index]? with
    | some factor => factor.alias_.isNone && names name factor.name
    | none => false
  | .target => false

theorem relocateListed_eq (defaultSchema : Option String) (relocations : List Relocation) (fs : List Factor)
    (name : ObjectName) : relocateListed defaultSchema relocations fs name =
      (relocations.find? (Relocation.meant fs name)).elim name fun relocation =>
        rename defaultSchema relocation.route name := by
  unfold relocateListed
  extract_lets means
  have hmeans : means = Relocation.meant fs name := rfl
  rw [hmeans]
  cases relocations.find? (Relocation.meant fs name) <;> rfl

theorem relocateListed_follow (aliases : Bool) {fs : List Factor} {bindings : List Binding}
    {tables : List RoutedTable}
    (hsame : bindings.map Binding.identity =
      ((Factor.sites 0 fs).filterMap (Site.binding? setting)).map Binding.identity)
    (hsettles : List.Forall₂ (Settles setting) bindings tables) :
    relocateListed setting.options.defaultSchema (List.zipWith (relocationFor setting aliases) bindings tables) fs =
      setting.naming.follow ((fs.filter fun factor => setting.naming.sharded factor.name).zip
        (tables.map RoutedTable.route)) := by
  funext name
  have hall : ∀ (i : Nat) (factor : Factor), fs[i]? = some factor → fs[0 + i]? = some factor := by
    intro i factor hfactor
    rwa [Nat.zero_add]
  rw [relocateListed_eq]
  refine find?_elim (relocations_homes aliases fs 0 hall hsame hsettles) ?_ name
  rintro relocation ⟨factor, route⟩ ⟨⟨i, hslot, hfactor⟩, hroute⟩
  simp only [Relocation.meant, hslot, hfactor, hroute, Setting.naming, and_self]

theorem Writes.homes {fs : List Factor} {tables : List RoutedTable} {β : Type}
    {f : List (Factor × Destination) → Writing β} {b : β}
    (hlength : (fs.filter fun factor => setting.naming.sharded factor.name).length = tables.length)
    (h : Writes (f ((fs.filter fun factor => setting.naming.sharded factor.name).zip
      (tables.map RoutedTable.route))) tables b) :
    Writes (Sql.homes setting.naming fs >>= f) tables b := by
  intro rest
  have hzip : (fs.filter fun factor => setting.naming.sharded factor.name).zip
      (tables.map RoutedTable.route ++ rest) =
      (fs.filter fun factor => setting.naming.sharded factor.name).zip (tables.map RoutedTable.route) := by
    have hroutes : (fs.filter fun factor => setting.naming.sharded factor.name).length =
        (tables.map RoutedTable.route).length := by rw [hlength, List.length_map]
    have happend : (_ ++ []).zip (tables.map RoutedTable.route ++ rest) = _ := List.zip_append hroutes
    rwa [List.append_nil, List.zip_nil_left, List.append_nil] at happend
  have hall := h rest
  rw [← hzip] at hall
  exact hall

namespace Walk

/-! ### Trees -/

/-- What a walk has made of a table reference, and the tables that are numbered in it still. -/
structure TableWritten (setting : Setting) (tree walked : TableRef) (tables : List RoutedTable) : Prop where
  numbered : tableFactors walked = tableFactors tree
  writes : Writes (tree.write setting.naming) tables walked

structure TablesWritten (setting : Setting) (trees walked : List TableRef) (tables : List RoutedTable) : Prop where
  numbered : factors walked = factors trees
  writes : Writes (TableRef.writeAll setting.naming trees) tables walked

theorem TablesWritten.cons {tree walked : TableRef} {trees others : List TableRef}
    {first rest : List RoutedTable} (h : TableWritten setting tree walked first)
    (h' : TablesWritten setting trees others rest) :
    TablesWritten setting (tree :: trees) (walked :: others) (first ++ rest) := by
  have hnumbered := h'.numbered
  simp only [factors] at hnumbered
  refine ⟨?_, h.writes.bind (h'.writes.map _)⟩
  simp only [factors, List.flatMap_cons, h.numbered, hnumbered]

/-- The tables of a deletion before its scope closes, those behind `USING` among them. -/
structure UsingWritten (setting : Setting) (trees walked : Option (List TableRef)) (tables : List RoutedTable) :
    Prop where
  numbered : factors (walked.getD []) = factors (trees.getD [])
  writes : Writes (TableRef.writeOptional setting.naming trees) tables walked

/-- A deletion before its scope closes: when the routes of its own tables follow, it is all written. -/
structure DeleteWritten (setting : Setting) (delete : Delete)
    (walked : List TableRef × Option (List TableRef) × Option Expr × List Expr × Option Expr)
    (tables : List RoutedTable) : Prop where
  numbered : factors walked.1 = factors delete.from_
  numberedUsing : factors (walked.2.1.getD []) = factors (delete.using_.getD [])
  writes : ∀ first rest from_ using_,
    ((factors walked.1 ++ factors (walked.2.1.getD [])).filter fun factor =>
      setting.naming.sharded factor.name).length = (first ++ rest).length →
    Writes (TableRef.settleAll setting.naming false walked.1) first from_ →
    Writes (TableRef.settleOptional setting.naming false walked.2.1) rest using_ →
    Writes (delete.write setting.naming) (tables ++ (first ++ rest)) { delete with
      targets := delete.targets.map (setting.naming.follow (((factors walked.1 ++
        factors (walked.2.1.getD [])).filter fun factor => setting.naming.sharded factor.name).zip
          ((first ++ rest).map RoutedTable.route)))
      from_
      using_
      selection := walked.2.2.1
      orderBy := walked.2.2.2.1
      limit := walked.2.2.2.2 }

theorem DeleteWritten.clauses {depth : Nat} {targets : List ObjectName} {fromKeyword : Bool} {from_ : List TableRef}
    {using_ : Option (List TableRef)} {selection : Option Expr} {returning : List Piece} {orderBy : List Expr}
    {limit : Option Expr} {walked : List TableRef} {other : Option (List TableRef)}
    {first second : List RoutedTable} (hfrom : TablesWritten setting from_ walked first)
    (husing : UsingWritten setting using_ other second)
    (hselection : Yields (walkOptional setting depth false selection) fun walked tables =>
      Writes (Expr.writeOptional setting.naming selection) tables walked)
    (horderBy : Yields (walkExprs setting depth false orderBy) fun walked tables =>
      Writes (Expr.writeAll setting.naming orderBy) tables walked)
    (hlimit : Yields (walkOptional setting depth false limit) fun walked tables =>
      Writes (Expr.writeOptional setting.naming limit) tables walked) :
    Yields (do
      let selection ← walkOptional setting depth false selection
      let orderBy ← walkExprs setting depth false orderBy
      let limit ← walkOptional setting depth false limit
      return (walked, other, selection, orderBy, limit))
      fun walked more => DeleteWritten setting
        ⟨targets, fromKeyword, from_, using_, selection, returning, orderBy, limit⟩ walked
        (first ++ (second ++ more)) := by
  refine hselection.bind fun _ _ hselection => horderBy.bind fun _ _ horderBy => hlimit.map fun _ _ hlimit => ?_
  refine ⟨hfrom.numbered, husing.numbered, fun first rest settled others hlength hfirst hrest => ?_⟩
  rw [List.append_assoc, List.append_assoc, List.append_assoc, List.append_assoc]
  refine hfrom.writes.bind (husing.writes.bind (hselection.bind (horderBy.bind (hlimit.bind
    (.homes hlength ?_)))))
  exact hfirst.bind (hrest.map _)

/-- The routes of the tables of a deletion are taken up when its scope closes. -/
theorem DeleteWritten.close {delete : Delete}
    {walked : List TableRef × Option (List TableRef) × Option Expr × List Expr × Option Expr}
    {tables closed : List RoutedTable} {bindings : List Binding} (h : DeleteWritten setting delete walked tables)
    (hsame : bindings.map Binding.identity =
      ((Factor.sites 0 (factors delete.from_ ++ factors (delete.using_.getD []))).filterMap
        (Site.binding? setting)).map Binding.identity)
    (hsettles : List.Forall₂ (Settles setting) bindings closed) :
    Writes (delete.write setting.naming) (tables ++ closed)
      { delete with
        targets := delete.targets.map (relocateListed setting.options.defaultSchema
          (List.zipWith (relocationFor setting false) bindings closed)
          (factors walked.1 ++ factors (walked.2.1.getD [])))
        from_ := relocateTables setting.options.defaultSchema
          (List.zipWith (relocationFor setting false) bindings closed) 0 walked.1
        using_ := walked.2.1.map (relocateTables setting.options.defaultSchema
          (List.zipWith (relocationFor setting false) bindings closed) (factors walked.1).length)
        selection := walked.2.2.1
        orderBy := walked.2.2.2.1
        limit := walked.2.2.2.2 } := by
  rw [← h.numbered, ← h.numberedUsing] at hsame
  have hplaced := Placed.of_closed false (Factor.slots_nodup 0 _) hsame hsettles
  have hlength := hplaced.length_sharded
  rw [relocateListed_follow false hsame hsettles]
  rw [Factor.sites_append, Nat.zero_add] at hplaced
  obtain ⟨first, rest, rfl, hfirst, hrest⟩ := hplaced.split
  refine h.writes first rest _ _ hlength (settleAll_relocateTables false _ walked.1 0 hfirst) ?_
  cases hother : walked.2.1 with
  | none =>
    rw [hother] at hrest
    cases hrest
    exact .pure none
  | some others =>
    rw [hother] at hrest
    exact (settleAll_relocateTables false _ others _ hrest).map some

mutual

theorem walkExpr_writes : ∀ (e : Expr) (depth : Nat) (underNot : Bool),
    Yields (walkExpr setting depth underNot e) fun walked tables => Writes (e.write setting.naming) tables walked
  | .ident _, _, _ => .pure (.pure _)
  | .column _, _, _ => .pure (.pure _)
  | .literal _, _, _ => .pure (.pure _)
  | .typed _ _, _, _ => .pure (.pure _)
  | .nested operand, depth, underNot => (walkExpr_writes operand depth underNot).map fun _ _ h => h.map _
  | .not operand, depth, _ => (walkExpr_writes operand depth true).map fun _ _ h => h.map _
  | .sign _ operand, depth, underNot => (walkExpr_writes operand depth underNot).map fun _ _ h => h.map _
  | .binary left _ right, depth, underNot => by
    refine .first depth (onPredicate_runs underNot _) (ownSteps_flat underNot _) fun _ => ?_
    refine (walkExpr_writes left depth underNot).bind fun _ _ hleft => ?_
    exact (walkExpr_writes right depth underNot).map fun _ _ hright => hleft.bind (hright.map _)
  | .inList left _ items, depth, underNot => by
    refine .first depth (onPredicate_runs underNot _) (ownSteps_flat underNot _) fun _ => ?_
    refine (walkExpr_writes left depth underNot).bind fun _ _ hleft => ?_
    exact (walkExprs_writes items depth underNot).map fun _ _ hitems => hleft.bind (hitems.map _)
  | .between left _ low high, depth, underNot => by
    refine .first depth (onPredicate_runs underNot _) (ownSteps_flat underNot _) fun _ => ?_
    refine (walkExpr_writes left depth underNot).bind fun _ _ hleft => ?_
    refine (walkExpr_writes low depth underNot).bind fun _ _ hlow => ?_
    exact (walkExpr_writes high depth underNot).map fun _ _ hhigh => hleft.bind (hlow.bind (hhigh.map _))
  | .test left _ _ right, depth, underNot => by
    refine .first depth (onPredicate_runs underNot _) (ownSteps_flat underNot _) fun _ => ?_
    refine (walkExpr_writes left depth underNot).bind fun _ _ hleft => ?_
    exact (walkExpr_writes right depth underNot).map fun _ _ hright => hleft.bind (hright.map _)
  | .isNull operand, depth, underNot => by
    refine .first depth (onPredicate_runs underNot _) (ownSteps_flat underNot _) fun _ => ?_
    exact (walkExpr_writes operand depth underNot).map fun _ _ h => h.map _
  | .subquery query, depth, _ => (walkQuery_writes query depth).map fun _ _ h => h.map _
  | .trim _ what subject, depth, underNot => by
    refine (walkExpr_writes subject depth underNot).bind fun _ _ hsubject => ?_
    exact (walkExpr_writes what depth underNot).map fun _ _ hwhat => hsubject.bind (hwhat.map _)
  | .call _ pieces, depth, underNot => (walkPieces_writes pieces depth underNot).map fun _ _ h => h.map _
  | .form pieces, depth, underNot => (walkPieces_writes pieces depth underNot).map fun _ _ h => h.map _

theorem walkExprs_writes : ∀ (es : List Expr) (depth : Nat) (underNot : Bool),
    Yields (walkExprs setting depth underNot es) fun walked tables =>
      Writes (Expr.writeAll setting.naming es) tables walked
  | [], _, _ => .pure (.pure [])
  | e :: es, depth, underNot => (walkExpr_writes e depth underNot).bind fun _ _ hfirst =>
    (walkExprs_writes es depth underNot).map fun _ _ hrest => hfirst.bind (hrest.map _)

theorem walkOptional_writes : ∀ (e : Option Expr) (depth : Nat) (underNot : Bool),
    Yields (walkOptional setting depth underNot e) fun walked tables =>
      Writes (Expr.writeOptional setting.naming e) tables walked
  | none, _, _ => .pure (.pure none)
  | some e, depth, underNot => (walkExpr_writes e depth underNot).map fun _ _ h => h.map _

theorem walkRows_writes : ∀ (rows : List (List Expr)) (depth : Nat),
    Yields (walkRows setting depth rows) fun walked tables =>
      Writes (Expr.writeRows setting.naming rows) tables walked
  | [], _ => .pure (.pure [])
  | row :: rows, depth => (walkExprs_writes row depth false).bind fun _ _ hfirst =>
    (walkRows_writes rows depth).map fun _ _ hrest => hfirst.bind (hrest.map _)

theorem walkPieces_writes : ∀ (pieces : List Piece) (depth : Nat) (underNot : Bool),
    Yields (walkPieces setting depth underNot pieces) fun walked tables =>
      Writes (Piece.writeAll setting.naming pieces) tables walked
  | [], _, _ => .pure (.pure [])
  | piece :: pieces, depth, underNot => (walkPiece_writes piece depth underNot).bind fun _ _ hfirst =>
    (walkPieces_writes pieces depth underNot).map fun _ _ hrest => hfirst.bind (hrest.map _)

theorem walkPiece_writes : ∀ (piece : Piece) (depth : Nat) (underNot : Bool),
    Yields (walkPiece setting depth underNot piece) fun walked tables =>
      Writes (piece.write setting.naming) tables walked
  | .words _, _, _ => .pure (.pure _)
  | .part operand, depth, underNot => (walkExpr_writes operand depth underNot).map fun _ _ h => h.map _
  | .aside _, _, _ => .pure (.pure _)

theorem walkQuery_writes : ∀ (query : Query) (depth : Nat),
    Yields (walkQuery setting depth query) fun walked tables => Writes (query.write setting.naming) tables walked
  | { recursive := _, ctes, body, orderBy, limit, offset, limitBy, settings := _, fetch, ending := _ }, depth => by
    refine (walkCtes_writes ctes depth).bind fun _ _ hctes => ?_
    refine (walkBody_writes body depth _ _ fun depth => ?_).map fun _ _ hbody => hctes.bind (hbody.map _)
    refine (walkExprs_writes orderBy depth false).bind fun _ _ horderBy => ?_
    refine (walkOptional_writes limit depth false).bind fun _ _ hlimit => ?_
    refine (walkExprs_writes limitBy depth false).bind fun _ _ hlimitBy => ?_
    refine (walkOptional_writes offset depth false).bind fun _ _ hoffset => ?_
    refine (walkOptional_writes fetch depth false).map fun _ _ hfetch => ?_
    exact horderBy.bind (hlimit.bind (hlimitBy.bind (hoffset.bind (hfetch.map _))))

theorem walkCte_writes : ∀ (cte : Cte) (depth : Nat),
    Yields (walkCte setting depth cte) fun walked tables => Writes (cte.write setting.naming) tables walked
  | { alias_ := _, keyword := _, query, source := _ }, depth =>
    (walkQuery_writes query depth).map fun _ _ h => h.map _

theorem walkCtes_writes : ∀ (ctes : List Cte) (depth : Nat),
    Yields (walkCtes setting depth ctes) fun walked tables =>
      Writes (Cte.writeAll setting.naming ctes) tables walked
  | [], _ => .pure (.pure [])
  | cte :: ctes, depth => (walkCte_writes cte depth).bind fun _ _ hfirst =>
    (walkCtes_writes ctes depth).map fun _ _ hrest => hfirst.bind (hrest.map _)

theorem walkBody_writes : ∀ (body : Body) (depth : Nat) (walkTail : Nat → Walk Tail) (writeTail : Writing Tail),
    (∀ depth, Yields (walkTail depth) fun walked tables => Writes writeTail tables walked) →
      Yields (walkBody setting depth walkTail body) fun walked tables =>
        Writes (body.write setting.naming writeTail) tables walked
  | .select select, depth, walkTail, writeTail, htail =>
    (walkSelect_writes select depth walkTail writeTail htail).map fun _ _ h => h.map _
  | .query query, depth, _, _, htail => (walkQuery_writes query depth).bind fun _ _ h =>
    (htail depth).map fun _ _ ht => h.bind (ht.map _)
  | .setOperation left _ right, depth, _, _, htail => by
    have hnone : ∀ depth : Nat, Yields ((fun _ => pure {}) depth) fun (walked : Tail) tables =>
      Writes (pure {}) tables walked := fun _ => .pure (.pure _)
    refine (walkBody_writes left depth _ _ hnone).bind fun _ _ hleft => ?_
    refine (walkBody_writes right depth _ _ hnone).bind fun _ _ hright => ?_
    exact (htail depth).map fun _ _ ht => hleft.bind (hright.bind (ht.map _))
  | .values _ rows, depth, _, _, htail => (walkRows_writes rows depth).bind fun _ _ h =>
    (htail depth).map fun _ _ ht => h.bind (ht.map _)
  | .table _ _, depth, _, _, htail => (htail depth).map fun _ _ ht => ht.map _
  | .statement statement, depth, _, _, htail => (walkStatement_writes statement depth).bind fun _ _ h =>
    (htail depth).map fun _ _ ht => h.bind (ht.map _)

theorem walkSelect_writes : ∀ (select : Select) (depth : Nat) (walkTail : Nat → Walk Tail) (writeTail : Writing Tail),
    (∀ depth, Yields (walkTail depth) fun walked tables => Writes writeTail tables walked) →
      Yields (walkSelect setting depth walkTail select) fun walked tables =>
        Writes (select.write setting.naming writeTail) tables walked
  | { head, projection, into, from_, views, prewhere, selection, groupBy, groupTail, clusterBy, distributeBy,
      sortBy, having, windowsBefore, qualify, windowsAfter, connectBy }, depth, walkTail, writeTail, htail => by
    refine .scope (fun walked tables => factors walked.1.from_ = factors from_ ∧
        ∀ closed settled, Writes (TableRef.settleAll setting.naming true walked.1.from_) closed settled →
          Writes (Select.write setting.naming writeTail
            ⟨head, projection, into, from_, views, prewhere, selection, groupBy, groupTail, clusterBy, distributeBy,
              sortBy, having, windowsBefore, qualify, windowsAfter, connectBy⟩) (tables ++ closed)
            ({ walked.1 with from_ := settled }, walked.2))
      (Factor.sites 0 (factors from_)) (bindFactors_eq setting (depth + 1) (factors from_) 0) ?_
      (fun _ _ => rfl) ?_
    · refine (walkTables_writes from_ (depth + 1)).bind fun _ _ hfrom => ?_
      refine (walkExprs_writes projection (depth + 1) false).bind fun _ _ hprojection => ?_
      refine (walkOptional_writes prewhere (depth + 1) false).bind fun _ _ hprewhere => ?_
      refine (walkOptional_writes selection (depth + 1) false).bind fun _ _ hselection => ?_
      refine (walkExprs_writes groupBy (depth + 1) false).bind fun _ _ hgroupBy => ?_
      refine (walkOptional_writes having (depth + 1) false).bind fun _ _ hhaving => ?_
      refine (walkOptional_writes qualify (depth + 1) false).bind fun _ _ hqualify => ?_
      refine (walkExprs_writes clusterBy (depth + 1) false).bind fun _ _ hclusterBy => ?_
      refine (walkExprs_writes distributeBy (depth + 1) false).bind fun _ _ hdistributeBy => ?_
      refine (walkExprs_writes sortBy (depth + 1) false).bind fun _ _ hsortBy => ?_
      refine (htail (depth + 1)).map fun _ _ ht => ⟨hfrom.numbered, fun closed settled hsettled => ?_⟩
      simp only [List.append_assoc]
      exact hfrom.writes.bind (hprojection.bind (hprewhere.bind (hselection.bind (hgroupBy.bind (hhaving.bind
        (hqualify.bind (hclusterBy.bind (hdistributeBy.bind (hsortBy.bind (ht.bind (hsettled.map _)))))))))))
    · rintro ⟨walked, _⟩ tables bindings closed ⟨hnumbered, hwrites⟩ hsame hsettles
      have hplaced := Placed.of_closed true (Factor.slots_nodup 0 _) hsame hsettles
      rw [← hnumbered] at hplaced
      exact hwrites closed _ (settleAll_relocateTables true _ walked.from_ 0 hplaced)

theorem walkTable_writes : ∀ (table : TableRef) (depth : Nat),
    Yields (walkTable setting depth table) fun walked tables => TableWritten setting table walked tables
  | .table .., _ => .pure ⟨rfl, .pure _⟩
  | .derived _ query _, depth => (walkQuery_writes query depth).map fun _ _ h => ⟨rfl, h.map _⟩
  | .nested inner _, depth => (walkTable_writes inner depth).map fun _ _ h => ⟨h.numbered, h.writes.map _⟩
  | .join left _ right matching on _, depth => by
    refine (walkTable_writes left depth).bind fun _ _ hleft => ?_
    refine (walkTable_writes right depth).bind fun _ _ hright => ?_
    refine (walkOptional_writes matching depth false).bind fun _ _ hmatching => ?_
    refine (walkOptional_writes on depth false).map fun _ _ hon => ⟨?_, ?_⟩
    · exact congrArg₂ (· ++ ·) hleft.numbered hright.numbered
    · exact hleft.writes.bind (hright.writes.bind (hmatching.bind (hon.map _)))
  | .turned .., _ => .pure ⟨rfl, .pure _⟩
  | .other .., _ => .pure ⟨rfl, .pure _⟩

theorem walkTables_writes : ∀ (trees : List TableRef) (depth : Nat),
    Yields (walkTables setting depth trees) fun walked tables => TablesWritten setting trees walked tables
  | [], _ => .pure ⟨rfl, .pure _⟩
  | tree :: trees, depth => (walkTable_writes tree depth).bind fun _ _ hfirst =>
    (walkTables_writes trees depth).map fun _ _ hrest => .cons hfirst hrest

theorem walkInsert_writes : ∀ (insert : Insert) (depth : Nat),
    Yields (walkInsert setting depth insert) fun walked tables => Writes (insert.write setting.naming) tables walked
  | { head := _, target, alias_ := _, columns := _, middle := _, source := some query, trailer := _ }, depth => by
    refine .scope (fun walked tables => Writes (Query.writeOptional setting.naming (some query)) tables walked)
      [⟨.target, target, none⟩] (bind_pure _).symm ?_ (fun _ _ => rfl) ?_
    · refine .first (depth + 1) (onRows_runs _) (insert_ownSteps_flat _) fun _ => ?_
      exact (walkQuery_writes query (depth + 1)).map fun _ _ h => h.map some
    · intro walked tables bindings closed h hsame hsettles
      exact h.bind ((settle_relocateTarget (.of_closed false (Site.target_nodup target) hsame hsettles)).map _)
  | { head := _, target, alias_ := _, columns := _, middle := _, source := none, trailer := _ }, depth => by
    refine .scope (fun walked tables => Writes (Query.writeOptional setting.naming none) tables walked)
      [⟨.target, target, none⟩] (bind_pure _).symm ?_ (fun _ _ => rfl) ?_
    · exact .first (depth + 1) (onRows_runs _) (insert_ownSteps_flat _) fun _ => .pure (.pure none)
    · intro walked tables bindings closed h hsame hsettles
      exact h.bind ((settle_relocateTarget (.of_closed false (Site.target_nodup target) hsame hsettles)).map _)

theorem walkUpdate_writes : ∀ (update : Update) (depth : Nat),
    Yields (walkUpdate setting depth update) fun walked tables => Writes (update.write setting.naming) tables walked
  | { conflict, table, fromBefore, assignments, fromAfter, selection, returning }, depth => by
    refine .scope (fun walked tables => tableFactors walked.1 = tableFactors table ∧
        ∀ closed settled, Writes (walked.1.settle setting.naming true) closed settled →
          Writes (Update.write setting.naming ⟨conflict, table, fromBefore, assignments, fromAfter, selection,
            returning⟩) (tables ++ closed)
            ⟨conflict, settled, fromBefore, walked.2.1, fromAfter, walked.2.2, returning⟩)
      (Factor.sites 0 (tableFactors table)) (bindFactors_eq setting (depth + 1) (tableFactors table) 0) ?_
      (fun _ _ => rfl) ?_
    · refine (walkTable_writes table (depth + 1)).bind fun _ _ htable => ?_
      refine (walkExprs_writes assignments (depth + 1) false).bind fun _ _ hassignments => ?_
      refine (walkOptional_writes selection (depth + 1) false).map fun _ _ hselection =>
        ⟨htable.numbered, fun closed settled hsettled => ?_⟩
      simp only [List.append_assoc]
      exact htable.writes.bind (hassignments.bind (hselection.bind (hsettled.map _)))
    · rintro ⟨walked, _, _⟩ tables bindings closed ⟨hnumbered, hwrites⟩ hsame hsettles
      have hplaced := Placed.of_closed true (Factor.slots_nodup 0 _) hsame hsettles
      rw [← hnumbered] at hplaced
      exact hwrites closed _ (settle_relocateTable true _ walked 0 hplaced)

theorem walkDelete_writes : ∀ (delete : Delete) (depth : Nat),
    Yields (walkDelete setting depth delete) fun walked tables => Writes (delete.write setting.naming) tables walked
  | { targets, fromKeyword, from_, using_ := some others, selection, returning, orderBy, limit }, depth => by
    refine .scope (DeleteWritten setting
        ⟨targets, fromKeyword, from_, some others, selection, returning, orderBy, limit⟩)
      (Factor.sites 0 (factors from_ ++ factors others))
      (bindFactors_eq setting (depth + 1) (factors from_ ++ factors others) 0) ?_ (fun _ _ => rfl) ?_
    · refine (walkTables_writes from_ (depth + 1)).bind fun walked first hfrom => ?_
      refine (walkTables_writes others (depth + 1)).bind fun after second husing => .given ?_
      exact DeleteWritten.clauses hfrom ⟨husing.numbered, husing.writes.map some⟩
        (walkOptional_writes selection (depth + 1) false) (walkExprs_writes orderBy (depth + 1) false)
        (walkOptional_writes limit (depth + 1) false)
    · exact fun walked tables bindings closed hwritten hsame hsettles => hwritten.close hsame hsettles
  | { targets, fromKeyword, from_, using_ := none, selection, returning, orderBy, limit }, depth => by
    refine .scope (DeleteWritten setting
        ⟨targets, fromKeyword, from_, none, selection, returning, orderBy, limit⟩)
      (Factor.sites 0 (factors from_ ++ []))
      (bindFactors_eq setting (depth + 1) (factors from_ ++ []) 0) ?_ (fun _ _ => rfl) ?_
    · refine (walkTables_writes from_ (depth + 1)).bind fun walked first hfrom => .given ?_
      have husing : UsingWritten setting none none [] := ⟨rfl, .pure none⟩
      exact DeleteWritten.clauses hfrom husing
        (walkOptional_writes selection (depth + 1) false) (walkExprs_writes orderBy (depth + 1) false)
        (walkOptional_writes limit (depth + 1) false)
    · exact fun walked tables bindings closed hwritten hsame hsettles => hwritten.close hsame hsettles

/-- The walk of a statement writes the routes of the tables that it settles. -/
theorem walkStatement_writes : ∀ (statement : Statement) (depth : Nat),
    Yields (walkStatement setting depth statement) fun walked tables =>
      Writes (statement.write setting.naming) tables walked
  | .query query, depth => (walkQuery_writes query depth).map fun _ _ h => h.map _
  | .insert insert, depth => (walkInsert_writes insert depth).map fun _ _ h => h.map _
  | .update update, depth => (walkUpdate_writes update depth).map fun _ _ h => h.map _
  | .delete delete, depth => (walkDelete_writes delete depth).map fun _ _ h => h.map _
  | .other, _ => .pure (.pure _)

end
end Walk

/-! ### Statements -/

variable {statement : Statement} {routed again : Routed}

/-- A routed statement is the statement with the routes of its tables written into it. -/
theorem routeStatement_written
    (h : (Router.routeStatement setting statement).result = .ok routed) :
    routed.statement = statement.written setting.naming routed.tables := by
  obtain ⟨tree, p, hwalk, rfl⟩ := Outcome.ofWalk_iff.mp h
  obtain ⟨-, tables, hrouted, hwrites⟩ := walkStatement_writes statement 0 {} tree p hwalk
  have htables : p.routed = tables := hrouted.trans (List.nil_append tables)
  rw [← htables] at hwrites
  exact hwrites.result.symm

theorem Routed.eq_of (hstatement : again.statement = routed.statement) (hschemas : again.schemas = routed.schemas)
    (htables : again.tables = routed.tables) : again = routed := by
  cases again
  cases routed
  exact Routed.mk.injEq .. ▸ ⟨hstatement, hschemas, htables⟩

/-- A routed statement is determined by its tables. -/
theorem routeStatement_unique {setting setting' : Setting} (hnaming : setting'.naming = setting.naming)
    (h : (Router.routeStatement setting statement).result = .ok routed)
    (h' : (Router.routeStatement setting' statement).result = .ok again) (htables : again.tables = routed.tables) :
    again = routed := by
  have hstatement : again.statement = routed.statement := by
    rw [routeStatement_written h, routeStatement_written h', hnaming, htables]
  have hschemas : again.schemas = routed.schemas := by
    rw [routeStatement_schemas h, routeStatement_schemas h', htables]
  exact Routed.eq_of hstatement hschemas htables

end ShardRouting
