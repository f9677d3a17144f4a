import ShardRouting.Proofs.Qualifiers

/-! Aliases in one scope. A renamed table that columns are qualified with keeps its name as alias, whatever the other
    tables of its scope are called. As long as the tables of a scope can be told apart, by their schemas at least,
    and no written alias is taken, two aliases clash only where two tables of one name both keep it. -/

namespace ShardRouting
open Sql Walk

/-! ### Tables that can be told apart -/

/-- The last part of the name of a table. -/
def Site.table? (site : Site) : Option String := site.name.split?.map fun (_, table) => table.value

/-- Two tables have one name, whatever the case. -/
def Site.Namesakes (site other : Site) : Prop :=
  ∃ table table', site.table? = some table ∧ other.table? = some table' ∧ Text.lower table = Text.lower table'

/-- Two tables do not have both their name and their schema in common. -/
def Site.Distinct (defaultSchema : Option String) (site other : Site) : Prop :=
  ¬(site.Namesakes other ∧
    (site.schema? defaultSchema).map Text.lower = (other.schema? defaultSchema).map Text.lower)

/-- Two aliases are one, whatever the case. -/
def Site.Clashes (site other : Site) : Prop :=
  ∃ alias_ alias', site.alias_ = some alias_ ∧ other.alias_ = some alias' ∧ Text.lower alias_ = Text.lower alias'

/-- If one of two tables has an alias, they go by different names. -/
def Site.Told (site other : Site) : Prop :=
  site.alias_.isSome = true ∨ other.alias_.isSome = true → site.exposed?.map Text.lower ≠ other.exposed?.map Text.lower

/-- A table without alias is called otherwise after it has moved, and its name qualifies a column in the text. -/
structure Site.Kept (lexemes : List Lexeme) (site after : Site) : Prop where
  unaliased : site.alias_ = none
  renamed : ∃ table table', site.table? = some table ∧ after.table? = some table' ∧
    Text.sameAscii table' table = false ∧ Qualified lexemes table

variable {setting : Setting} {naming : Naming} {home : Site → Option Destination} {lexemes : List Lexeme}
  {site other : Site}

/-! ### Aliases after a move -/

theorem alias_moved_some {alias_ : String} (h : site.alias_ = some alias_) :
    (site.moved naming home true).alias_ = some alias_ := by
  unfold Site.moved
  cases home site with
  | none => exact h
  | some route =>
    simp only [if_true, Site.aliasFor]
    split
    · simp only [h, Option.isNone_some, Bool.false_and, Bool.false_eq_true, if_false]
    · exact h

/-- The table of a site after it has moved is that of its route. -/
theorem table_moved {route : Destination} {table : String} (h : site.table? = some table)
    (hhome : home site = some route) : (site.moved naming home true).table? = some route.table := by
  obtain ⟨parts, hsplit, -⟩ := Option.map_eq_some_iff.mp h
  obtain ⟨schema, table', hrenamed, htable', -⟩ :=
    rename_addresses naming.defaultSchema route (ne_nil_of_split? hsplit)
  simp only [Site.table?, Site.moved, hhome, hrenamed, Option.map_some, htable']

/-- A table without alias gets its old name as alias exactly when it is called otherwise now and its name qualifies a
    column. -/
theorem alias_moved_none (hscan : naming.scan = .ofLexemes lexemes) (h : site.alias_ = none) {alias_ : String} :
    (site.moved naming home true).alias_ = some alias_ ↔
      site.table? = some alias_ ∧ site.Kept lexemes (site.moved naming home true) := by
  constructor
  · intro hmoved
    unfold Site.moved at hmoved
    cases hhome : home site with
    | none => simp [hhome, h] at hmoved
    | some route =>
      simp only [hhome, if_true, Site.aliasFor] at hmoved
      split at hmoved
      · rename_i schema table hsplit
        split at hmoved
        · rename_i hkept
          simp only [Bool.and_eq_true, Bool.not_eq_true'] at hkept
          have htable : site.table? = some table.value := by rw [Site.table?, hsplit, Option.map_some]
          cases hmoved
          refine ⟨htable, h, _, _, htable, table_moved htable hhome, hkept.1.2, ?_⟩
          rw [← isQualifier_ofLexemes, ← hscan]
          exact hkept.2
        · simp [h] at hmoved
      · simp [h] at hmoved
  · rintro ⟨htable, -, table, table', htable', hafter, hother, hqualified⟩
    cases htable.symm.trans htable'
    cases hhome : home site with
    | none =>
      have hstays : site.moved naming home true = site := by rw [Site.moved, hhome]
      rw [hstays, htable] at hafter
      cases hafter
      rw [Text.sameAscii_refl] at hother
      cases hother
    | some route =>
      cases (table_moved htable hhome).symm.trans hafter
      obtain ⟨⟨schema, name⟩, hsplit, rfl⟩ := Option.map_eq_some_iff.mp htable
      have hqualifies : naming.scan.isQualifier name.value = true := by
        rw [hscan]
        exact isQualifier_ofLexemes.mpr hqualified
      simp only [Site.moved, hhome, if_true, Site.aliasFor, hsplit, h, Option.isNone_none, hother, hqualifies,
        Bool.not_false, Bool.and_self]

/-- The alias of a table that has moved is a name that it went by before. -/
theorem exposed_of_alias (hscan : naming.scan = .ofLexemes lexemes) {alias_ : String}
    (h : (site.moved naming home true).alias_ = some alias_) : site.exposed? = some alias_ := by
  cases hbefore : site.alias_ with
  | some written =>
    cases (alias_moved_some hbefore).symm.trans h
    rw [Site.exposed?, hbefore, Option.some_or]
  | none =>
    have htable : site.table? = some alias_ := ((alias_moved_none hscan hbefore).mp h).1
    rw [Site.exposed?, hbefore, Option.none_or]
    exact htable

/-- Tables that were told apart clash exactly when both keep one name. -/
theorem clashes_moved (hscan : naming.scan = .ofLexemes lexemes) (htold : site.Told other) :
    (site.moved naming home true).Clashes (other.moved naming home true) ↔
      site.Kept lexemes (site.moved naming home true) ∧ other.Kept lexemes (other.moved naming home true) ∧
        site.Namesakes other := by
  constructor
  · rintro ⟨alias_, alias', hsite, hother, hsame⟩
    have hnot : ¬(site.alias_.isSome = true ∨ other.alias_.isSome = true) := by
      intro hwritten
      refine htold hwritten ?_
      rw [exposed_of_alias hscan hsite, exposed_of_alias hscan hother, Option.map_some, Option.map_some, hsame]
    simp only [not_or, Option.not_isSome_iff_eq_none] at hnot
    obtain ⟨htable, hkept⟩ := (alias_moved_none hscan hnot.1).mp hsite
    obtain ⟨htable', hkept'⟩ := (alias_moved_none hscan hnot.2).mp hother
    exact ⟨hkept, hkept', alias_, alias', htable, htable', hsame⟩
  · rintro ⟨hkept, hkept', table, table', htable, htable', hsame⟩
    exact ⟨table, table', (alias_moved_none hscan hkept.unaliased).mpr ⟨htable, hkept⟩,
      (alias_moved_none hscan hkept'.unaliased).mpr ⟨htable', hkept'⟩, hsame⟩

/-! ### Routed statements -/

variable {statement : Statement} {routed : Routed} {i : Nat} {block : Block}

/-- In a selection or an update at any depth whose tables can be told apart, no two tables have the same alias after
    routing exactly when no two tables of one name, which lie in different schemas then, both keep it. -/
theorem aliases_apart_iff (hscan : setting.scan = .ofLexemes lexemes)
    (h : (Router.routeStatement setting statement).result = .ok routed)
    (hblock : statement.blocks[i]? = some block) (haliases : block.aliases = true)
    (hdistinct : block.sites.Pairwise (Site.Distinct setting.options.defaultSchema))
    (htold : block.sites.Pairwise Site.Told) :
    ∃ moved, routed.statement.blocks[i]? = some moved ∧
      (moved.sites.Pairwise (fun after after' => ¬after.Clashes after') ↔
        (block.sites.zip moved.sites).Pairwise fun (site, after) (other, after') =>
          ¬(site.Kept lexemes after ∧ other.Kept lexemes after' ∧ site.Namesakes other ∧
            (site.schema? setting.options.defaultSchema).map Text.lower ≠
              (other.schema? setting.options.defaultSchema).map Text.lower)) := by
  obtain ⟨moved, hmoved, hshape⟩ := routed_block h hblock
  have hsites := hshape.sites
  rw [haliases] at hsites
  let after := Site.moved setting.naming (Site.home? setting block.steps) true
  have hpair (site other : Site) (hapart : site.Distinct setting.options.defaultSchema other)
      (hnames : site.Told other) : (after site).Clashes (after other) ↔
        site.Kept lexemes (after site) ∧ other.Kept lexemes (after other) ∧ site.Namesakes other ∧
          (site.schema? setting.options.defaultSchema).map Text.lower ≠
            (other.schema? setting.options.defaultSchema).map Text.lower := by
    rw [clashes_moved hscan hnames]
    constructor
    · exact fun ⟨hkept, hkept', hsame⟩ => ⟨hkept, hkept', hsame, fun hschema => hapart ⟨hsame, hschema⟩⟩
    · exact fun ⟨hkept, hkept', hsame, _⟩ => ⟨hkept, hkept', hsame⟩
  refine ⟨moved, hmoved, ?_⟩
  rw [hsites, ← List.map_prod_left_eq_zip, List.pairwise_map, List.pairwise_map]
  have htwo := hdistinct.and htold
  constructor
  · exact fun hapart => htwo.imp₂ (fun site other ⟨hdistinct, htold⟩ =>
      mt (hpair site other hdistinct htold).mpr) hapart
  · exact fun hkept => htwo.imp₂ (fun site other ⟨hdistinct, htold⟩ =>
      mt (hpair site other hdistinct htold).mp) hkept

namespace Sample

/-- `SELECT total FROM app.orders, shop.orders` with an alias behind, where `app.orders.id` is 4 and another column
    is 5. -/
def twoShops (alias_ : Option TableAlias) (column : List Ident) : Statement :=
  .query (query (.select (select
    [.table [⟨"app", none⟩, ⟨"orders", none⟩] [] none [], .table [⟨"shop", none⟩, ⟨"orders", none⟩] [] alias_ []]
    (.binary (.binary (.column [⟨"app", none⟩, ⟨"orders", none⟩, ⟨"id", none⟩]) .eq (literal "4")) .and
      (.binary (.column column) .eq (literal "5"))))))

/-- `SELECT total FROM app.orders, shop.orders AS sold WHERE app.orders.id = 4 AND sold.id = 5`. -/
def sold : Statement := twoShops (some { name := ⟨"sold", none⟩ }) [⟨"sold", none⟩, ⟨"id", none⟩]

/-- The tokens of `sold`. -/
def soldTokens : List Lexeme :=
  [word "SELECT" 1, word "total" 8, word "FROM" 14, word "app" 19, sign "." 22, word "orders" 23, sign "," 29,
    word "shop" 31, sign "." 35, word "orders" 36, word "AS" 43, word "sold" 46, word "WHERE" 51, word "app" 57,
    sign "." 60, word "orders" 61, sign "." 67, word "id" 68, sign "=" 71, Token.at (.number "4" false) ⟨1, 73⟩,
    word "AND" 75, word "sold" 79, sign "." 83, word "id" 84, sign "=" 87, Token.at (.number "5" false) ⟨1, 89⟩]

/-- `SELECT total FROM app.orders, shop.orders WHERE app.orders.id = 4 AND shop.orders.id = 5`. -/
def unsold : Statement := twoShops none [⟨"shop", none⟩, ⟨"orders", none⟩, ⟨"id", none⟩]

/-- The tokens of `unsold`. -/
def unsoldTokens : List Lexeme :=
  [word "SELECT" 1, word "total" 8, word "FROM" 14, word "app" 19, sign "." 22, word "orders" 23, sign "," 29,
    word "shop" 31, sign "." 35, word "orders" 36, word "WHERE" 43, word "app" 49, sign "." 52, word "orders" 53,
    sign "." 59, word "id" 60, sign "=" 63, Token.at (.number "4" false) ⟨1, 65⟩, word "AND" 67, word "shop" 71,
    sign "." 75, word "orders" 76, sign "." 82, word "id" 83, sign "=" 86, Token.at (.number "5" false) ⟨1, 88⟩]

example : tokens? .generic "SELECT total FROM app.orders, shop.orders WHERE app.orders.id = 4 AND shop.orders.id = 5" =
    some unsoldTokens := by
  decide +kernel

/-- What a statement with these tokens is routed with. -/
def spelledWith (lexemes : List Lexeme) : Setting := router.setting [] .empty (.ofLexemes lexemes) .empty

end Sample

/-- The written alias keeps the orders of two shops apart. -/
theorem aliases_apart_sold :
    ∃ routed moved, (Router.routeStatement (Sample.spelledWith Sample.soldTokens) Sample.sold).result = .ok routed ∧
      routed.statement.blocks[0]? = some moved ∧ moved.sites.Pairwise fun after after' => ¬after.Clashes after' := by
  obtain ⟨routed, h, -⟩ : ∃ routed,
      (Router.routeStatement (Sample.spelledWith Sample.soldTokens) Sample.sold).result = .ok routed ∧
        routed.tables.length = 2 := exists_ok_of_map (by decide +kernel)
  obtain ⟨block, hblock, haliases, hsites⟩ : ∃ block, Sample.sold.blocks[0]? = some block ∧ block.aliases = true ∧
      block.sites = [⟨.factor 0, [⟨"app", none⟩, ⟨"orders", none⟩], none⟩,
        ⟨.factor 1, [⟨"shop", none⟩, ⟨"orders", none⟩], some "sold"⟩] := ⟨_, rfl, rfl, rfl⟩
  have hdistinct : block.sites.Pairwise (Site.Distinct none) := by
    rw [hsites, List.pairwise_pair]
    exact fun ⟨_, hschema⟩ => absurd hschema (by decide +kernel)
  have htold : block.sites.Pairwise Site.Told := by
    rw [hsites, List.pairwise_pair]
    exact fun _ => by decide +kernel
  obtain ⟨moved, hmoved, hapart⟩ := aliases_apart_iff rfl h hblock haliases hdistinct htold
  refine ⟨routed, moved, h, hmoved, hapart.mpr ?_⟩
  rw [hsites]
  match moved.sites with
  | [] => exact .nil
  | [_] => exact List.pairwise_singleton _ _
  | first :: second :: rest =>
    rw [List.zip_cons_cons, List.zip_cons_cons, List.zip_nil_left, List.pairwise_pair]
    exact fun ⟨_, hkept, _⟩ => absurd hkept.unaliased (Option.some_ne_none _)

/-- Without written alias the orders of both shops keep their name. -/
theorem aliases_clash :
    ∃ routed block moved,
      (Router.routeStatement (Sample.spelledWith Sample.unsoldTokens) Sample.unsold).result = .ok routed ∧
      Sample.unsold.blocks[0]? = some block ∧ block.aliases = true ∧
      block.sites.Pairwise (Site.Distinct none) ∧ block.sites.Pairwise Site.Told ∧
      routed.statement.blocks[0]? = some moved ∧ moved.sites.map Site.alias_ = [some "orders", some "orders"] := by
  obtain ⟨routed, h, hrouted⟩ : ∃ routed,
      (Router.routeStatement (Sample.spelledWith Sample.unsoldTokens) Sample.unsold).result = .ok routed ∧
        routed.statement.blocks[0]?.map (fun moved => moved.sites.map Site.alias_) =
          some [some "orders", some "orders"] := exists_ok_of_map (by decide +kernel)
  obtain ⟨moved, hmoved, haliases⟩ := Option.map_eq_some_iff.mp hrouted
  refine ⟨routed, _, moved, h, rfl, rfl, ?_, ?_, hmoved, haliases⟩
  · exact List.pairwise_pair.mpr fun ⟨_, hschema⟩ => absurd hschema (by decide +kernel)
  · exact List.pairwise_pair.mpr fun hwritten => absurd hwritten (by decide)

end ShardRouting
