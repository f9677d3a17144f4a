import ShardRouting.Proofs.Construction
import ShardRouting.Proofs.Rendering
import ShardRouting.Proofs.Stranding

/-! Sets of rules over whole runs. Rules are added one after the other, some in vain, and a set never gives up a rule
    that it has taken. So of all rules with one key the first stands, whatever comes behind it, and a table finds the
    first rule of its own schema before the first that holds in every schema. What a set answers for a table without a
    value it answers for every value. -/

namespace ShardRouting

/-! ### Rules as they are built -/

namespace ShardRule

/-- A rule built for a schema and a table: made, or described by accepted settings, and changed since in any way. -/
inductive BuiltFor (schema : Option String) (table : String) : ShardRule → Prop
  | make (shardKey : Option String) (tableShards : Nat) :
    BuiltFor schema table (ShardRule.make schema table shardKey tableShards)
  | settings {settings : RuleSettings} {rule : ShardRule} (hschema : settings.schema = schema)
    (htable : settings.table = table) (h : ofSettings settings = .ok rule) : BuiltFor schema table rule
  | schemaShards {rule : ShardRule} (h : BuiltFor schema table rule) (schemaShards : Nat) :
    BuiltFor schema table (rule.withSchemaShards schemaShards)
  | formats {rule : ShardRule} (h : BuiltFor schema table rule) (tableFormat schemaFormat : String) :
    BuiltFor schema table (rule.withFormats tableFormat schemaFormat)
  | indexWidth {rule : ShardRule} (h : BuiltFor schema table rule) (indexWidth : Nat) :
    BuiltFor schema table (rule.withIndexWidth indexWidth)

theorem eq_describe {settings : RuleSettings} {rule : ShardRule} (h : ofSettings settings = .ok rule) :
    rule = describe settings := by
  unfold ofSettings at h
  obtain ⟨-, h⟩ := ensure_bind_iff.mp h
  obtain ⟨-, h⟩ := ensure_bind_iff.mp h
  obtain ⟨-, h⟩ := ensure_bind_iff.mp h
  exact (Except.ok.inj h).symm

/-- Building on a rule does not change its names, which were written small at first. -/
theorem BuiltFor.key_eq {schema : Option String} {table : String} {rule : ShardRule}
    (h : rule.BuiltFor schema table) : rule.key = tableKey schema table := by
  induction h with
  | make shardKey tableShards => rfl
  | settings hschema htable h =>
    rw [eq_describe h, ← hschema, ← htable]
    rfl
  | schemaShards _ _ ih => exact ih
  | formats _ _ _ ih => exact ih
  | indexWidth _ _ ih => exact ih

end ShardRule

/-- A rule with the schema and the table that it was built for. -/
structure BuiltRule where
  schema : Option String
  table : String
  rule : ShardRule
  built : rule.BuiltFor schema table

/-- The key that the rule is added under. -/
def BuiltRule.key (built : BuiltRule) : Option String × String := tableKey built.schema built.table

theorem BuiltRule.rule_key (built : BuiltRule) : built.rule.key = built.key := built.built.key_eq

namespace RuleSet

variable {set after : RuleSet} {rule : ShardRule}

/-! ### One rule -/

theorem add_ok_iff : set.add rule = .ok after ↔ set.at? rule.key = none ∧ after = { rules := set.rules ++ [rule] } := by
  unfold add
  cases set.at? rule.key with
  | none => simp [eq_comm]
  | some earlier => simp

theorem add_error_iff {fault : ShardingError} : set.add rule = .error fault ↔
    (∃ earlier, set.at? rule.key = some earlier) ∧ fault = .invalidRule (.duplicate rule.table) := by
  unfold add
  cases set.at? rule.key with
  | none => simp
  | some earlier => simp [eq_comm]

/-- An added rule is found under its key, and the rules before it stay where they are. -/
theorem at?_add (h : set.add rule = .ok after) (key : Option String × String) :
    after.at? key = (set.at? key).or (if rule.key = key then some rule else none) := by
  obtain ⟨-, rfl⟩ := add_ok_iff.mp h
  unfold at?
  rw [List.find?_append]
  by_cases hkey : rule.key = key
  · simp [hkey]
  · simp [hkey]

/-! ### Runs -/

/-- Adds rules one after the other; a refused one is passed over. -/
def addEach (set : RuleSet) : List ShardRule → RuleSet
  | [] => set
  | rule :: rules => match set.add rule with
    | .ok after => after.addEach rules
    | .error _ => set.addEach rules

theorem addEach_ok (h : set.add rule = .ok after) (rules : List ShardRule) :
    set.addEach (rule :: rules) = after.addEach rules := by
  rw [addEach, h]

theorem addEach_error {fault : ShardingError} (h : set.add rule = .error fault) (rules : List ShardRule) :
    set.addEach (rule :: rules) = set.addEach rules := by
  rw [addEach, h]

theorem addEach_append (set : RuleSet) (rules rest : List ShardRule) :
    set.addEach (rules ++ rest) = (set.addEach rules).addEach rest := by
  induction rules generalizing set with
  | nil => rfl
  | cons rule rules ih =>
    rw [List.cons_append]
    cases hadd : set.add rule with
    | ok after => rw [addEach_ok hadd, addEach_ok hadd, ih]
    | error fault => rw [addEach_error hadd, addEach_error hadd, ih]

/-- Of the rules with a key the first stands. -/
theorem at?_addEach (set : RuleSet) (rules : List ShardRule) (key : Option String × String) :
    (set.addEach rules).at? key = (set.at? key).or (rules.find? (·.key = key)) := by
  induction rules generalizing set with
  | nil => rw [addEach, List.find?_nil, Option.or_none]
  | cons rule rules ih =>
    by_cases hkey : rule.key = key
    · rw [List.find?_cons_of_pos (by simp [hkey])]
      cases hadd : set.add rule with
      | ok after =>
        rw [addEach_ok hadd, ih, at?_add hadd, if_pos hkey]
        cases set.at? key <;> rfl
      | error fault =>
        obtain ⟨⟨earlier, hearlier⟩, -⟩ := add_error_iff.mp hadd
        rw [hkey] at hearlier
        rw [addEach_error hadd, ih, hearlier]
        rfl
    · rw [List.find?_cons_of_neg (by simp [hkey])]
      cases hadd : set.add rule with
      | ok after => rw [addEach_ok hadd, ih, at?_add hadd, if_neg hkey, Option.or_none]
      | error fault => rw [addEach_error hadd, ih]

/-- The set that a run of rules comes to. -/
def ofRun (rules : List BuiltRule) : RuleSet := empty.addEach (rules.map BuiltRule.rule)

theorem at?_ofRun (rules : List BuiltRule) (key : Option String × String) :
    (ofRun rules).at? key = (rules.find? (·.key = key)).map BuiltRule.rule := by
  have hempty : empty.at? key = none := rfl
  have hkeys : (fun rule : ShardRule => decide (rule.key = key)) ∘ BuiltRule.rule =
      fun built => decide (built.key = key) := by
    funext built
    simp only [Function.comp_apply, built.rule_key]
  rw [ofRun, at?_addEach, hempty, Option.none_or, List.find?_map, hkeys]

theorem find?_ofRun (rules : List BuiltRule) (schema : Option String) (table : String) :
    (ofRun rules).find? schema table = ((rules.find? (·.key = tableKey schema table)).or
      (rules.find? (·.key = tableKey none table))).map BuiltRule.rule := by
  rw [Option.map_or, ← at?_ofRun, ← at?_ofRun]
  cases schema with
  | some schema => rfl
  | none => exact (Option.or_self).symm

/-- A rule is refused for an earlier one with its key. -/
theorem refused_iff (before : List BuiltRule) (call : BuiltRule) :
    (∃ fault, (ofRun before).add call.rule = .error fault) ↔ ∃ earlier ∈ before, earlier.key = call.key := by
  constructor
  · rintro ⟨fault, h⟩
    obtain ⟨⟨found, hfound⟩, -⟩ := add_error_iff.mp h
    rw [at?_ofRun, call.rule_key] at hfound
    obtain ⟨earlier, hearlier, -⟩ := Option.map_eq_some_iff.mp hfound
    have hkey : earlier.key = call.key := by simpa using List.find?_some hearlier
    exact ⟨earlier, List.mem_of_find?_eq_some hearlier, hkey⟩
  · rintro ⟨earlier, hmem, hkey⟩
    refine ⟨_, add_error_iff.mpr ⟨?_, rfl⟩⟩
    rw [at?_ofRun, call.rule_key]
    cases hfind : before.find? (·.key = call.key) with
    | some found => exact ⟨found.rule, rfl⟩
    | none => exact absurd (decide_eq_true hkey) (List.find?_eq_none.mp hfind earlier hmem)

/-- A run goes on behind a refused rule as if it had not been there. -/
theorem ofRun_refused {before : List BuiltRule} {call : BuiltRule} {fault : ShardingError}
    (h : (ofRun before).add call.rule = .error fault) (rest : List BuiltRule) :
    ofRun (before ++ call :: rest) = ofRun (before ++ rest) := by
  have hbefore : (empty.addEach (before.map BuiltRule.rule)).add call.rule = .error fault := h
  simp only [ofRun, List.map_append, List.map_cons, addEach_append, addEach_error hbefore]

/-! ### Settings -/

/-- All settings are accepted, no two have one key, and none has the key of a rule that is there already. -/
theorem addAll_iff {set : RuleSet} {settings : List RuleSettings} :
    (∃ after, set.addAll settings = .ok after) ↔
      (∀ entry ∈ settings, ∃ rule, ShardRule.ofSettings entry = .ok rule) ∧
        (settings.Pairwise fun entry other => tableKey entry.schema entry.table ≠ tableKey other.schema other.table) ∧
        ∀ entry ∈ settings, set.at? (tableKey entry.schema entry.table) = none := by
  induction settings generalizing set with
  | nil => simp [addAll]
  | cons entry rest ih =>
    rw [List.forall_mem_cons, List.forall_mem_cons, List.pairwise_cons]
    constructor
    · rintro ⟨last, h⟩
      obtain ⟨rule, hrule, h⟩ := bind_eq_ok_iff.mp h
      obtain ⟨between, hadd, hrest⟩ := bind_eq_ok_iff.mp h
      have hkey : rule.key = tableKey entry.schema entry.table := (ShardRule.BuiltFor.settings rfl rfl hrule).key_eq
      have hfresh := (add_ok_iff.mp hadd).1
      obtain ⟨haccepted, hapart, hfree⟩ := ih.mp ⟨last, hrest⟩
      have hothers : ∀ other ∈ rest, set.at? (tableKey other.schema other.table) = none ∧
          rule.key ≠ tableKey other.schema other.table := by
        intro other hother
        have hnone := hfree other hother
        rw [at?_add hadd, Option.or_eq_none_iff] at hnone
        refine ⟨hnone.1, fun hsame => ?_⟩
        rw [if_pos hsame] at hnone
        cases hnone.2
      rw [hkey] at hfresh hothers
      exact ⟨⟨⟨rule, hrule⟩, haccepted⟩, ⟨fun other hother => (hothers other hother).2, hapart⟩, hfresh,
        fun other hother => (hothers other hother).1⟩
    · rintro ⟨⟨⟨rule, hrule⟩, haccepted⟩, ⟨hdiffers, hapart⟩, hfresh, hfree⟩
      have hkey : rule.key = tableKey entry.schema entry.table := (ShardRule.BuiltFor.settings rfl rfl hrule).key_eq
      obtain ⟨between, hadd⟩ : ∃ between, set.add rule = .ok between :=
        ⟨_, add_ok_iff.mpr ⟨hkey ▸ hfresh, rfl⟩⟩
      have hothers : ∀ other ∈ rest, between.at? (tableKey other.schema other.table) = none := by
        intro other hother
        rw [at?_add hadd, hfree other hother, hkey, if_neg (hdiffers other hother)]
        rfl
      obtain ⟨last, hrest⟩ := ih.mpr ⟨haccepted, hapart, hothers⟩
      exact ⟨last, bind_eq_ok_iff.mpr ⟨rule, hrule, bind_eq_ok_iff.mpr ⟨between, hadd, hrest⟩⟩⟩

/-- Over a run of rules, some of them refused, a table finds the first rule of its schema, else the first without
    schema. A rule is refused exactly when one with its key came before it, and then the run goes on as without it. So
    settings make up a set exactly when each of them is accepted and no two have one key. -/
theorem first_rule_stands :
    (∀ (rules : List BuiltRule) (schema : Option String) (table : String),
      (ofRun rules).find? schema table = ((rules.find? (·.key = tableKey schema table)).or
        (rules.find? (·.key = tableKey none table))).map BuiltRule.rule) ∧
      (∀ (before : List BuiltRule) (call : BuiltRule),
        (∃ fault, (ofRun before).add call.rule = .error fault) ↔ ∃ earlier ∈ before, earlier.key = call.key) ∧
      (∀ (before rest : List BuiltRule) (call : BuiltRule) (fault : ShardingError),
        (ofRun before).add call.rule = .error fault → ∀ schema table,
          (ofRun (before ++ call :: rest)).find? schema table = (ofRun (before ++ rest)).find? schema table) ∧
      ∀ settings : List RuleSettings, (∃ set, ofSettings settings = .ok set) ↔
        (∀ entry ∈ settings, ∃ rule, ShardRule.ofSettings entry = .ok rule) ∧
          settings.Pairwise fun entry other =>
            tableKey entry.schema entry.table ≠ tableKey other.schema other.table := by
  refine ⟨find?_ofRun, refused_iff, fun before rest call fault h schema table => ?_, fun settings => ?_⟩
  · rw [ofRun_refused h]
  · have hempty : ∀ entry ∈ settings, empty.at? (tableKey entry.schema entry.table) = none := fun _ _ => rfl
    rw [ofSettings, addAll_iff]
    exact ⟨fun ⟨haccepted, hapart, _⟩ => ⟨haccepted, hapart⟩, fun ⟨haccepted, hapart⟩ => ⟨haccepted, hapart, hempty⟩⟩

end RuleSet

namespace Sample

/-- The orders of every schema, in two shards. -/
def everywhere : BuiltRule := ⟨none, "orders", .make none "orders" (some "uid") 2, .make _ _⟩

/-- The orders of the application, in four shards. -/
def application : BuiltRule := ⟨some "App", "Orders", .make (some "App") "Orders" (some "uid") 4, .make _ _⟩

/-- The same orders once more, in eight shards and with an index of two digits. -/
def again : BuiltRule :=
  ⟨some "app", "ORDERS", (ShardRule.make (some "app") "ORDERS" (some "uid") 8).withIndexWidth 2,
    .indexWidth (.make _ _) 2⟩

end Sample

/-- The orders of the application are found by their own rule, whatever their case and although it came second; the
    third rule is refused, and nothing is found by it. -/
theorem RuleSet.first_rule_stands_again :
    (ofRun [Sample.everywhere, Sample.application]).add Sample.again.rule =
        .error (.invalidRule (.duplicate "orders")) ∧
      (ofRun ([Sample.everywhere, Sample.application] ++ [Sample.again])).find? (some "APP") "ORDERS" =
        some Sample.application.rule ∧
      (ofRun ([Sample.everywhere, Sample.application] ++ [Sample.again])).find? (some "shop") "Orders" =
        some Sample.everywhere.rule := by
  obtain ⟨hfound, -, hrefused, -⟩ := RuleSet.first_rule_stands
  have hrule : (ofRun [Sample.everywhere, Sample.application]).add Sample.again.rule =
      .error (.invalidRule (.duplicate "orders")) := rfl
  have hwithout := hrefused [Sample.everywhere, Sample.application] [] Sample.again _ hrule
  refine ⟨hrule, ?_, ?_⟩
  · rw [hwithout, hfound]
    rfl
  · rw [hwithout, hfound]
    rfl

/-! ### Answers -/

/-- A rule with one destination does not look at the value. -/
theorem ShardRule.resolve_single {rule : ShardRule} (h : rule.isSingle = true) (schema : Option String)
    (table : String) (value : Option ShardValue) :
    rule.resolve schema table value = rule.resolve schema table none := by
  have hone : rule.tableShards = 1 := by
    unfold isSingle at h
    simp only [Bool.and_eq_true, decide_eq_true_eq] at h
    exact h.1
  have hshard : rule.shardOf value = rule.shardOf none := by
    cases value with
    | none => rfl
    | some value =>
      have hlt := value.bucket_lt rule.tableShards_pos
      simp only [shardOf]
      omega
  cases hschema : schema.or rule.schema with
  | none =>
    unfold resolve
    rw [hschema]
  | some own => rw [resolve_eq hschema, resolve_eq hschema, hshard]

namespace RuleSet

variable {set : RuleSet} {rule : ShardRule} {schema : Option String} {table : String} {route : Destination}

/-- Without value only a rule with one destination gives one. -/
theorem route_default (h : set.route schema table none = .ok (some route)) :
    ∃ rule, set.find? schema table = some rule ∧ rule.isSingle = true ∧
      rule.resolve schema table none = .ok route := by
  unfold RuleSet.route at h
  cases hfind : set.find? schema table with
  | none => simp [hfind] at h
  | some rule =>
    cases hsingle : rule.isSingle with
    | false => simp [hfind, hsingle] at h
    | true =>
      simp only [hfind, hsingle, Option.isNone_none, Bool.not_true, Bool.and_false, Bool.false_eq_true,
        if_false] at h
      obtain ⟨found, hfound, hsome⟩ := exists_ok_of_map h
      exact ⟨rule, rfl, hsingle, Option.some.inj hsome ▸ hfound⟩

/-- What a set answers for a table without value it answers for every value. It has no answer for a table that it has
    no rule for; with a rule and a schema it answers for every value, and without value exactly if the rule has one
    destination. -/
theorem default_route_stands (set : RuleSet) (context : RouteContext) (schema : Option String) (table : String) :
    (∀ route, set.engine.route context schema table none = .ok (some route) →
      ∀ value, set.engine.route context schema table (some value) = .ok (some route)) ∧
      (set.engine.config context schema table = none →
        ∀ value, set.engine.route context schema table value = .ok none) ∧
      ∀ config own, set.engine.config context schema table = some config → schema = some own →
        (∀ value, ∃ route, set.engine.route context schema table (some value) = .ok (some route)) ∧
          ∃ rule, set.find? schema table = some rule ∧ config = rule.config ∧
            ((∃ route, set.engine.route context schema table none = .ok (some route)) ↔
              rule.tableShards = 1 ∧ rule.schemaShards = 1) := by
  refine ⟨fun route h value => ?_, fun h value => ?_, ?_⟩
  · obtain ⟨rule, hfind, hsingle, hroute⟩ := route_default h
    have hvalue : rule.resolve schema table (some value) = .ok route := by
      rw [ShardRule.resolve_single hsingle, hroute]
    change set.route schema table (some value) = _
    simp only [RuleSet.route, hfind, Option.isNone_some, Bool.false_and, Bool.false_eq_true, if_false, hvalue]
    rfl
  · have hnone : set.find? schema table = none := Option.map_eq_none_iff.mp h
    change set.route schema table value = _
    rw [RuleSet.route, hnone]
  · rintro config own hconfig rfl
    obtain ⟨rule, hfind, rfl⟩ := Option.map_eq_some_iff.mp hconfig
    refine ⟨fun value => route_value hfind context value, rule, hfind, rfl, ?_⟩
    obtain ⟨found, hfound, hsome⟩ := route_none hfind context
    have hsingle : rule.isSingle = true ↔ rule.tableShards = 1 ∧ rule.schemaShards = 1 := by
      unfold ShardRule.isSingle
      simp
    rw [hfound, ← hsingle, ← hsome, Option.isSome_iff_exists]
    simp

end RuleSet

namespace Sample

/-- The regions are one table, the orders four. -/
def pair : RuleSet := .ofRun [application, ⟨some "app", "regions", .make (some "app") "regions" none 1, .make _ _⟩]

end Sample

/-- The regions lie in one place with and without a value. Every value of the orders has a place, but not the orders as
    a whole, and nothing is known of the audit. -/
theorem RuleSet.default_route_stands_regions :
    Sample.pair.engine.route [] (some "app") "regions" none = .ok (some ⟨"app", "regions"⟩) ∧
      Sample.pair.engine.route [] (some "app") "regions" (some (.text "north")) = .ok (some ⟨"app", "regions"⟩) ∧
      Sample.pair.engine.config [] (some "app") "audit" = none ∧
      Sample.pair.engine.route [] (some "app") "audit" (some (.int 5)) = .ok none ∧
      Sample.pair.engine.config [] (some "APP") "orders" = some (.sharded "uid") ∧
      (∃ route, Sample.pair.engine.route [] (some "APP") "orders" (some (.text "north")) = .ok (some route)) ∧
      ¬∃ route, Sample.pair.engine.route [] (some "APP") "orders" none = .ok (some route) := by
  obtain ⟨hdefault, -, -⟩ := RuleSet.default_route_stands Sample.pair [] (some "app") "regions"
  obtain ⟨-, hunknown, -⟩ := RuleSet.default_route_stands Sample.pair [] (some "app") "audit"
  obtain ⟨-, -, hknown⟩ := RuleSet.default_route_stands Sample.pair [] (some "APP") "orders"
  have hregions : Sample.pair.engine.route [] (some "app") "regions" none = .ok (some ⟨"app", "regions"⟩) := rfl
  have haudit : Sample.pair.engine.config [] (some "app") "audit" = none := rfl
  have horders : Sample.pair.engine.config [] (some "APP") "orders" = some (.sharded "uid") := rfl
  obtain ⟨hvalues, rule, hrule, -, hbare⟩ := hknown _ _ horders rfl
  have hfour : rule = Sample.application.rule := Option.some.inj (hrule.symm.trans rfl)
  refine ⟨hregions, hdefault _ hregions _, haudit, hunknown haudit _, horders, hvalues _, fun h => ?_⟩
  have hone : Sample.application.rule.tableShards = 1 := hfour ▸ (hbare.mp h).1
  exact absurd hone (by decide)

end ShardRouting
