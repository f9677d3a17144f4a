import ShardRouting.Proofs.Blocks
import ShardRouting.Proofs.Casing

/-! Columns behind the names of their tables. A table that is renamed keeps its name as alias when some word of the
    text that spells it has a point behind it, so columns behind that name go on meaning the table. The schema before
    the name gets no such help: it goes on meaning the table only if the route stays in that schema. -/

namespace ShardRouting
open Sql Walk

/-! ### Qualifiers in a text -/

/-- Some word that spells a name, whatever its case, has a point behind it. -/
def Qualified (lexemes : List Lexeme) (name : String) : Prop :=
  ∃ (i : Nat) (word point : Lexeme) (value : String) (quote : Option Char),
    lexemes[i]? = some word ∧ lexemes[i + 1]? = some point ∧ word.token = .word value quote ∧
      point.token = .symbol "." ∧ Text.lower value = Text.lower name

theorem qualified_cons {lexeme : Lexeme} {rest : List Lexeme} {name : String} :
    Qualified (lexeme :: rest) name ↔
      (∃ point value quote, rest.head? = some point ∧ lexeme.token = .word value quote ∧
        point.token = .symbol "." ∧ Text.lower value = Text.lower name) ∨ Qualified rest name := by
  constructor
  · rintro ⟨i, word, point, value, quote, hword, hpoint, hspelled, hsymbol, hname⟩
    cases i with
    | zero =>
      obtain rfl : lexeme = word := Option.some.inj hword
      refine .inl ⟨point, value, quote, ?_, hspelled, hsymbol, hname⟩
      rw [List.head?_eq_getElem?]
      exact hpoint
    | succ i => exact .inr ⟨i, word, point, value, quote, hword, hpoint, hspelled, hsymbol, hname⟩
  · rintro (⟨point, value, quote, hpoint, hspelled, hsymbol, hname⟩ |
      ⟨i, word, point, value, quote, hword, hpoint, hspelled, hsymbol, hname⟩)
    · rw [List.head?_eq_getElem?] at hpoint
      exact ⟨0, lexeme, point, value, quote, rfl, hpoint, hspelled, hsymbol, hname⟩
    · exact ⟨i + 1, word, point, value, quote, hword, hpoint, hspelled, hsymbol, hname⟩

theorem mem_qualifiersOf {lexemes : List Lexeme} {name : String} :
    Text.lower name ∈ Scan.qualifiersOf lexemes ↔ Qualified lexemes name := by
  induction lexemes with
  | nil => exact iff_of_false (List.not_mem_nil) fun ⟨_, _, _, _, _, hword, _⟩ => nomatch hword
  | cons lexeme rest ih =>
    rw [qualified_cons, ← ih, Scan.qualifiersOf]
    split
    · rename_i value quote hspelled hpoint
      obtain ⟨point, hhead, hsymbol⟩ := Option.map_eq_some_iff.mp hpoint
      rw [List.mem_cons]
      refine or_congr_left ⟨fun hname => ⟨point, value, quote, hhead, hspelled, hsymbol, hname.symm⟩, ?_⟩
      rintro ⟨_, value', _, -, hspelled', -, hname⟩
      cases hspelled.symm.trans hspelled'
      exact hname.symm
    · rename_i hnot
      refine (or_iff_right ?_).symm
      rintro ⟨point, value, quote, hhead, hspelled, hsymbol, -⟩
      exact hnot value quote hspelled (by rw [hhead, Option.map_some, hsymbol])

theorem isQualifier_ofLexemes {lexemes : List Lexeme} {name : String} :
    (Scan.ofLexemes lexemes).isQualifier name = true ↔ Qualified lexemes name := by
  rw [Scan.isQualifier, List.contains_iff_mem]
  exact mem_qualifiersOf

/-- A name in the quotes of a string is no word, so it goes unseen. -/
example : (tokens? .generic "app.'orders'.id").map Scan.qualifiersOf = some ["app"] := by decide +kernel

/-! ### What a table answers to -/

/-- The name that columns of a table are qualified with. -/
def Site.exposed? (site : Site) : Option String := site.alias_.or (site.name.split?.map fun (_, table) => table.value)

/-- The schema that a table is written with, or the default schema. -/
def Site.schema? (defaultSchema : Option String) (site : Site) : Option String :=
  site.name.split?.bind fun (schema, _) => (schema.map Ident.value).or defaultSchema

/-- A column behind the name of a table, and of its schema perhaps, means that table, whatever the case. -/
def Site.Answers (defaultSchema : Option String) (site : Site) : List Ident → Prop
  | [table, _] => site.exposed?.map Text.lower = some (Text.lower table.value)
  | [schema, table, _] =>
    site.exposed?.map Text.lower = some (Text.lower table.value) ∧
      (site.schema? defaultSchema).map Text.lower = some (Text.lower schema.value)
  | _ => False

/-- Another table answers to a column that a table answers to if it goes by its name and, for a column with a
    schema, lies in its schema. -/
theorem Site.Answers.iff {defaultSchema : Option String} {site other : Site} {column : List Ident}
    (h : site.Answers defaultSchema column) :
    other.Answers defaultSchema column ↔ other.exposed?.map Text.lower = site.exposed?.map Text.lower ∧
      (column.length = 3 →
        (other.schema? defaultSchema).map Text.lower = (site.schema? defaultSchema).map Text.lower) := by
  match column, h with
  | [table, _], h => simp [Answers, show site.exposed?.map Text.lower = _ from h]
  | [schema, table, _], ⟨htable, hschema⟩ => simp [Answers, htable, hschema]

/-! ### Tables that are sent home -/

theorem schema_of_addresses {defaultSchema : Option String} {site : Site} {route : Destination}
    (h : Addresses defaultSchema site.name route) :
    (site.schema? defaultSchema).map Text.lower = some (Text.lower route.schema) := by
  obtain ⟨schema, table, hsplit, -, hschema⟩ := h
  simp only [Site.schema?, hsplit, Option.bind_some]
  cases schema with
  | some schema =>
    simp only at hschema
    rw [Option.map_some, Option.some_or, Option.map_some, hschema]
  | none =>
    obtain ⟨default, rfl, hsame⟩ := hschema
    rw [Option.map_none, Option.none_or, Option.map_some, Text.lower_of_sameAscii hsame]

/-- A table without alias that is sent home goes by its old name exactly when it keeps that name or gets it as its
    alias. -/
theorem exposed_moved {naming : Naming} {home : Site → Option Destination} {site : Site} {route : Destination}
    {schema : Option Ident} {table : Ident} (hsplit : site.name.split? = some (schema, table))
    (halias : site.alias_ = none) (hhome : home site = some route)
    (haddresses : Addresses naming.defaultSchema (rename naming.defaultSchema route site.name) route) :
    (site.moved naming home true).exposed?.map Text.lower = site.exposed?.map Text.lower ↔
      naming.scan.isQualifier table.value = true ∨ Text.lower route.table = Text.lower table.value := by
  obtain ⟨schema', table', hrenamed, htable', -⟩ := haddresses
  have hbefore : site.exposed? = some table.value := by
    rw [Site.exposed?, halias, hsplit, Option.none_or, Option.map_some]
  have hafter : (site.moved naming home true).exposed? =
      some (if !Text.sameAscii route.table table.value && naming.scan.isQualifier table.value then table.value
        else route.table) := by
    simp only [Site.moved, hhome, Site.exposed?, if_true, Site.aliasFor, hsplit, halias, Option.isNone_none,
      Bool.true_and, hrenamed, Option.map_some, htable']
    split <;> rfl
  rw [hbefore, hafter, Option.map_some, Option.map_some, Option.some_inj]
  cases hsame : Text.sameAscii route.table table.value with
  | true => simp [Text.lower_of_sameAscii hsame]
  | false => cases naming.scan.isQualifier table.value <;> simp

/-! ### Columns of routed statements -/

variable {setting : Setting} {statement : Statement} {routed : Routed} {lexemes : List Lexeme} {i j : Nat}
  {block : Block} {site : Site} {column : List Ident}

/-- A sharded table of a block stands in its place in the routed statement, sent to the route of a routed table. -/
theorem routed_site (h : (Router.routeStatement setting statement).result = .ok routed)
    (hblock : statement.blocks[i]? = some block) (hsite : block.sites[j]? = some site)
    (hsharded : Reference.sharded setting { name := site.name } = true) :
    ∃ moved table schema name, routed.statement.blocks[i]? = some moved ∧
      moved.sites[j]? = some (site.moved setting.naming (Site.home? setting block.steps) block.aliases) ∧
      table ∈ routed.tables ∧ site.name.split? = some (schema, name) ∧
      table.schema = (schema.map Ident.value).or setting.options.defaultSchema ∧ table.table = name.value ∧
      Site.home? setting block.steps site = some table.route := by
  obtain ⟨made, hmade⟩ := Option.isSome_iff_exists.mp ((setting.naming_sharded site).symm.trans hsharded)
  obtain ⟨-, schema, hsplit, hlogical, -⟩ := Site.binding?_some hmade
  obtain ⟨moved, hmoved, hshape⟩ := routed_block h hblock
  have hplain : setting.bindingOf? site.name site.alias_ = some made.plain := by
    rw [setting.bindingOf?_eq, hmade, Option.map_some]
  obtain ⟨table, htable, hschema, hname, hhome⟩ :=
    home?_of_routed h (List.mem_of_getElem? hblock) (List.mem_of_getElem? hsite) hplain
  refine ⟨moved, table, schema, made.table, hmoved, ?_, htable, hsplit, hschema.trans hlogical.symm, hname, hhome⟩
  rw [hshape.sites, List.getElem?_map, hsite, Option.map_some]

/-- A column that means a sharded table without alias, in a selection or an update at any depth, goes on meaning it
    exactly when its name is kept, or spelled in front of a point somewhere in the text, and the schema that the
    column may have is the one that the table is sent to. -/
theorem qualified_columns_stay_iff (hscan : setting.scan = .ofLexemes lexemes)
    (h : (Router.routeStatement setting statement).result = .ok routed)
    (hblock : statement.blocks[i]? = some block) (haliases : block.aliases = true)
    (hsite : block.sites[j]? = some site) (halias : site.alias_ = none)
    (hsharded : Reference.sharded setting { name := site.name } = true)
    (hcolumn : site.Answers setting.options.defaultSchema column) :
    ∃ moved after table, routed.statement.blocks[i]? = some moved ∧ moved.sites[j]? = some after ∧
      table ∈ routed.tables ∧
      Reference.logical? setting.options.defaultSchema { name := site.name } = some (table.schema, table.table) ∧
      Addresses setting.options.defaultSchema after.name table.route ∧
      (after.Answers setting.options.defaultSchema column ↔
        (Qualified lexemes table.table ∨ Text.lower table.route.table = Text.lower table.table) ∧
          (column.length = 3 → table.schema.map Text.lower = some (Text.lower table.route.schema))) := by
  obtain ⟨moved, table, schema, name, hmoved, hafter, htable, hsplit, hschema, hname, hhome⟩ :=
    routed_site h hblock hsite hsharded
  rw [haliases] at hafter
  have hnil : site.name ≠ [] := by
    intro hnil
    rw [hnil] at hsplit
    cases hsplit
  have haddresses := rename_addresses setting.options.defaultSchema table.route hnil
  have hrenamed : (site.moved setting.naming (Site.home? setting block.steps) true).name =
      rename setting.options.defaultSchema table.route site.name := by
    rw [Site.moved, hhome]
    rfl
  have hbefore : site.schema? setting.options.defaultSchema = table.schema := by
    rw [Site.schema?, hsplit, Option.bind_some, hschema]
  refine ⟨moved, _, table, hmoved, hafter, htable, ?_, hrenamed ▸ haddresses, ?_⟩
  · rw [Reference.logical?, hsplit, Option.map_some, hschema, hname]
  · have hexposed : (site.moved setting.naming (Site.home? setting block.steps) true).exposed?.map Text.lower =
        site.exposed?.map Text.lower ↔ setting.naming.scan.isQualifier name.value = true ∨
          Text.lower table.route.table = Text.lower name.value := exposed_moved hsplit halias hhome haddresses
    have hqualifies : setting.naming.scan.isQualifier name.value = true ↔ Qualified lexemes name.value := by
      rw [← isQualifier_ofLexemes, ← hscan]
      rfl
    rw [Site.Answers.iff hcolumn, hexposed, hqualifies, hname, hbefore, schema_of_addresses (hrenamed ▸ haddresses)]
    exact and_congr_right' (imp_congr_right fun _ => eq_comm)

namespace Sample

def word (value : String) (column : Nat) : Lexeme := Token.at (.word value none) ⟨1, column⟩

def sign (text : String) (column : Nat) : Lexeme := Token.at (.symbol text) ⟨1, column⟩

/-- The tokens of `SELECT total FROM shop.orders WHERE shop.orders.id = 4`. -/
def spelled : List Lexeme :=
  [word "SELECT" 1, word "total" 8, word "FROM" 14, word "shop" 19, sign "." 23, word "orders" 24, word "WHERE" 31,
    word "shop" 37, sign "." 41, word "orders" 42, sign "." 48, word "id" 49, sign "=" 52,
    Token.at (.number "4" false) ⟨1, 54⟩]

example : tokens? .generic "SELECT total FROM shop.orders WHERE shop.orders.id = 4" = some spelled := by
  decide +kernel

/-- `shop.orders.id`. -/
def schemaColumn : List Ident := [⟨"shop", none⟩, ⟨"orders", none⟩, ⟨"id", none⟩]

/-- `SELECT total FROM shop.orders WHERE shop.orders.id = 4`. -/
def shop : Statement :=
  .query (query (.select (select [.table [⟨"shop", none⟩, ⟨"orders", none⟩] [] none []]
    (.binary (.column schemaColumn) .eq (literal "4")))))

/-- `shop.orders` in `shop`. -/
def shopOrders : Site := ⟨.factor 0, [⟨"shop", none⟩, ⟨"orders", none⟩], none⟩

/-- What `shop` is routed with. -/
def shopped : Setting := router.setting [] .empty (.ofLexemes spelled) .empty

end Sample

/-- A column behind the mere name of the orders goes on meaning them. -/
theorem qualified_columns_stay_iff_shop :
    ∃ routed moved after, (Router.routeStatement Sample.shopped Sample.shop).result = .ok routed ∧
      routed.statement.blocks[0]? = some moved ∧ moved.sites[0]? = some after ∧
      after.Answers none [⟨"orders", none⟩, ⟨"id", none⟩] := by
  obtain ⟨routed, h⟩ : ∃ routed, (Router.routeStatement Sample.shopped Sample.shop).result = .ok routed := ⟨_, rfl⟩
  obtain ⟨block, hblock, haliases, hsite⟩ : ∃ block, Sample.shop.blocks[0]? = some block ∧ block.aliases = true ∧
      block.sites[0]? = some Sample.shopOrders := ⟨_, rfl, rfl, rfl⟩
  have hcolumn : Sample.shopOrders.Answers none [⟨"orders", none⟩, ⟨"id", none⟩] := rfl
  obtain ⟨moved, after, table, hmoved, hafter, -, hlogical, -, hstays⟩ :=
    qualified_columns_stay_iff rfl h hblock haliases hsite rfl rfl hcolumn
  refine ⟨routed, moved, after, h, hmoved, hafter, hstays.mpr ⟨.inl ?_, fun hlength => absurd hlength (by decide)⟩⟩
  have hname : table.table = "orders" := (congrArg Prod.snd (Option.some.inj hlogical)).symm
  rw [hname]
  exact ⟨9, _, _, _, _, rfl, rfl, rfl, rfl, rfl⟩

/-- A column with a schema means the orders before, and nothing once they are sent to another schema. -/
theorem schema_column_lost :
    ∃ routed block moved after, (Router.routeStatement Sample.shopped Sample.shop).result = .ok routed ∧
      Sample.shop.blocks[0]? = some block ∧ block.aliases = true ∧ block.sites[0]? = some Sample.shopOrders ∧
      Sample.shopOrders.alias_ = none ∧
      Reference.sharded Sample.shopped { name := Sample.shopOrders.name } = true ∧
      Sample.shopOrders.Answers none Sample.schemaColumn ∧
      routed.statement.blocks[0]? = some moved ∧ moved.sites[0]? = some after ∧
      after.name = [⟨"main", none⟩, ⟨"orders_even", none⟩] ∧ after.alias_ = some "orders" ∧
      ¬after.Answers none Sample.schemaColumn := by
  refine ⟨_, _, _, _, rfl, rfl, rfl, rfl, rfl, rfl, ⟨rfl, rfl⟩, rfl, rfl, rfl, rfl, ?_⟩
  rintro ⟨-, hschema⟩
  exact absurd hschema (by decide)

end ShardRouting
