import ShardRouting.Routing.Options
import ShardRouting.Shard.Override
import ShardRouting.Shard.Rule
import ShardRouting.Shard.Sequence

/-! From settings to what they describe. Settings are checked once as a whole, and once more wherever something is
    built from them. Sound settings name a dialect, describe rules and allocators of ids, and describe overrides if
    each physical table among them has a schema; whether it has one is seen only when the default schema is known. -/

namespace ShardRouting

/-! ### Checks in a row -/

theorem bind_eq_ok_iff {ε α β : Type} {x : Except ε α} {f : α → Except ε β} {b : β} :
    x >>= f = .ok b ↔ ∃ a, x = .ok a ∧ f a = .ok b := by
  cases x with
  | ok a =>
    constructor
    · exact fun h => ⟨a, rfl, h⟩
    · rintro ⟨_, ⟨⟩, h⟩
      exact h
  | error fault =>
    constructor
    · exact fun h => nomatch h
    · rintro ⟨_, ⟨⟩, _⟩

theorem ensure_bind_iff {ε β : Type} {condition : Bool} {fault : ε} {x : Except ε β} {b : β} :
    (ensure condition fault >>= fun _ => x) = .ok b ↔ condition = true ∧ x = .ok b := by
  simp only [bind_eq_ok_iff, ensure_eq_ok_iff, exists_and_left, exists_const]

theorem Settings.validateAll_iff {α : Type} {check : α → Except SettingsFault Unit} {items : List α} :
    validateAll check items = .ok () ↔ ∀ item ∈ items, check item = .ok () := by
  induction items with
  | nil => simp [validateAll]
  | cons item items ih =>
    rw [List.forall_mem_cons, ← ih]
    exact bind_eq_ok_iff.trans ⟨fun ⟨_, h, hrest⟩ => ⟨h, hrest⟩, fun ⟨h, hrest⟩ => ⟨(), h, hrest⟩⟩

/-! ### Dialects -/

theorem RouterOptions.ofSettings?_of_listed {settings : RouterSettings}
    (h : Settings.dialectNames.contains settings.dialect = true) :
    ∃ options, ofSettings? settings = some options := by
  obtain ⟨dialect, hdialect⟩ : ∃ dialect : Dialect, settings.dialect = dialect.name := by
    have hmem : settings.dialect ∈ ["mysql", "postgres", "generic", "sqlite"] := List.contains_iff_mem.mp h
    simp only [List.mem_cons, List.not_mem_nil, or_false] at hmem
    rcases hmem with hname | hname | hname | hname
    · exact ⟨.mysql, hname⟩
    · exact ⟨.postgres, hname⟩
    · exact ⟨.generic, hname⟩
    · exact ⟨.sqlite, hname⟩
  rw [ofSettings?, hdialect, Dialect.ofName?_name]
  exact ⟨_, rfl⟩

/-! ### Rules -/

/-- Whatever is asked of a rule when it is built is asked before. -/
theorem ShardRule.ofSettings_of_validate {settings : RuleSettings} (h : settings.validate = .ok ()) :
    ofSettings settings = .ok (describe settings) := by
  unfold RuleSettings.validate at h
  obtain ⟨hname, h⟩ := ensure_bind_iff.mp h
  obtain ⟨hshards, h⟩ := ensure_bind_iff.mp h
  have hkey : (settings.shardKey.isSome || (settings.tableShards ≤ 1 && settings.schemaShards ≤ 1)) = true := by
    cases hfound : settings.shardKey with
    | some key => rfl
    | none =>
      simp only [hfound] at h
      exact (ensure_bind_iff.mp h).1
  unfold ofSettings
  exact ensure_bind_iff.mpr ⟨hname, ensure_bind_iff.mpr ⟨hshards, ensure_bind_iff.mpr ⟨hkey, rfl⟩⟩⟩

namespace RuleSet

theorem add_run {set : RuleSet} {rule : ShardRule} (h : ∀ other ∈ set.rules, other.key ≠ rule.key) :
    set.add rule = .ok { rules := set.rules ++ [rule] } := by
  have hnone : set.at? rule.key = none := by
    rw [at?, List.find?_eq_none]
    intro other hother hsame
    exact h other hother (of_decide_eq_true hsame)
  rw [add, hnone]

/-- Sound rules go into a set whose keys were all seen when they were checked. -/
theorem addAll_run {seen : List (Option String × String)} {set : RuleSet} {rules : List RuleSettings}
    (h : Settings.validateRules seen rules = .ok ()) (hseen : ∀ rule ∈ set.rules, rule.key ∈ seen) :
    set.addAll rules = .ok { rules := set.rules ++ rules.map ShardRule.describe } := by
  induction rules generalizing seen set with
  | nil => simp [addAll]
  | cons settings rest ih =>
    rw [Settings.validateRules] at h
    obtain ⟨_, hsound, h⟩ := bind_eq_ok_iff.mp h
    obtain ⟨hfresh, h⟩ := ensure_bind_iff.mp h
    have hkey : (ShardRule.describe settings).key = tableKey settings.schema settings.table := rfl
    have hadd : set.add (ShardRule.describe settings) =
        .ok { rules := set.rules ++ [ShardRule.describe settings] } := by
      refine add_run fun other hother hsame => ?_
      have hmem : tableKey settings.schema settings.table ∈ seen := hkey ▸ hsame ▸ hseen other hother
      simp [hmem] at hfresh
    have hrest := @ih _ { rules := set.rules ++ [ShardRule.describe settings] } h (by
      intro rule hrule
      rcases List.mem_append.mp hrule with hrule | hrule
      · exact List.mem_cons_of_mem _ (hseen rule hrule)
      · rw [List.mem_singleton.mp hrule, hkey]
        exact List.mem_cons_self)
    rw [List.append_assoc] at hrest
    exact bind_eq_ok_iff.mpr ⟨_, ShardRule.ofSettings_of_validate hsound, bind_eq_ok_iff.mpr ⟨_, hadd, hrest⟩⟩

end RuleSet

/-! ### Overrides -/

/-- There is a schema for the physical table, if the entry names one. -/
def OverrideEntry.Grounded (defaultSchema : Option String) (entry : OverrideEntry) : Prop :=
  entry.physicalTable.isSome = true →
    entry.physicalSchema.isSome = true ∨ entry.schema.isSome = true ∨ defaultSchema.isSome = true

theorem OverrideEntry.one_of_validate {entry : OverrideEntry} (h : entry.validate = .ok ()) :
    entry.physicalTable.isSome ≠ entry.value.isSome := by
  unfold validate at h
  cases htable : entry.physicalTable with
  | none =>
    cases hvalue : entry.value with
    | none => simp [htable, hvalue] at h
    | some value => simp
  | some table =>
    cases hvalue : entry.value with
    | none => simp
    | some value => simp [htable, hvalue] at h

namespace OverrideStore

variable {defaultSchema : Option String}

theorem addEntry_iff (store : OverrideStore) {entry : OverrideEntry} :
    (∃ after, store.addEntry defaultSchema entry = .ok after) ↔
      entry.physicalTable.isSome ≠ entry.value.isSome ∧ entry.Grounded defaultSchema := by
  unfold addEntry OverrideEntry.Grounded
  cases entry.physicalTable with
  | none => cases entry.value <;> simp
  | some table =>
    cases entry.value with
    | some value => simp
    | none =>
      cases entry.physicalSchema with
      | some schema => simp
      | none => cases entry.schema <;> cases defaultSchema <;> simp

theorem addEntries_iff {store : OverrideStore} {entries : List OverrideEntry} :
    (∃ after, store.addEntries defaultSchema entries = .ok after) ↔
      ∀ entry ∈ entries, entry.physicalTable.isSome ≠ entry.value.isSome ∧ entry.Grounded defaultSchema := by
  induction entries generalizing store with
  | nil => simp [addEntries]
  | cons entry entries ih =>
    rw [List.forall_mem_cons, ← addEntry_iff store]
    constructor
    · rintro ⟨after, h⟩
      obtain ⟨between, hfirst, hrest⟩ := bind_eq_ok_iff.mp h
      exact ⟨⟨between, hfirst⟩, ih.mp ⟨after, hrest⟩⟩
    · rintro ⟨⟨between, hfirst⟩, hrest⟩
      obtain ⟨after, hrest⟩ := ih.mpr hrest
      exact ⟨after, bind_eq_ok_iff.mpr ⟨between, hfirst, hrest⟩⟩

end OverrideStore

/-! ### Sequences -/

theorem SequenceOptions.ofSettings_of_validate {settings : SequenceSettings} (h : settings.validate = .ok ()) :
    ∃ options, ofSettings settings = .ok options := by
  unfold SequenceSettings.validate at h
  obtain ⟨-, h⟩ := ensure_bind_iff.mp h
  obtain ⟨hstep, h⟩ := ensure_bind_iff.mp h
  obtain ⟨hdepth, h⟩ := ensure_bind_iff.mp h
  have htimeout := ensure_eq_ok_iff.mp h
  refine ⟨_, ensure_bind_iff.mpr ⟨?_, rfl⟩⟩
  rw [hstep, hdepth, htimeout]
  rfl

/-! ### Settings as a whole -/

/-- The sections of sound settings. -/
structure Settings.Sound (settings : Settings) : Prop where
  dialect : dialectNames.contains settings.router.dialect = true
  rules : validateRules [] settings.rules = .ok ()
  overrides : ∀ entry ∈ settings.overrides.routes, entry.validate = .ok ()
  sequences : ∀ sequence ∈ settings.sequences, sequence.validate = .ok ()

theorem Settings.sound_of_validate {settings : Settings} (h : settings.validate = .ok ()) : settings.Sound := by
  unfold validate at h
  obtain ⟨hdialect, h⟩ := ensure_bind_iff.mp h
  obtain ⟨-, h⟩ := ensure_bind_iff.mp h
  obtain ⟨-, h⟩ := ensure_bind_iff.mp h
  obtain ⟨-, h⟩ := ensure_bind_iff.mp h
  obtain ⟨-, h⟩ := ensure_bind_iff.mp h
  obtain ⟨_, -, h⟩ := bind_eq_ok_iff.mp h
  obtain ⟨_, hrules, h⟩ := bind_eq_ok_iff.mp h
  obtain ⟨_, hoverrides, hsequences⟩ := bind_eq_ok_iff.mp h
  exact ⟨hdialect, hrules, validateAll_iff.mp hoverrides, validateAll_iff.mp hsequences⟩

/-- Everything can be built from sound settings but the overrides, which can be built if and only if there is a schema
    for each physical table among them. -/
theorem built_of_validate {settings : Settings} (h : settings.validate = .ok ()) :
    (∃ options, RouterOptions.ofSettings? settings.router = some options) ∧
      RuleSet.ofSettings settings.rules = .ok { rules := settings.rules.map ShardRule.describe } ∧
      (∀ sequence ∈ settings.sequences, ∃ options, SequenceOptions.ofSettings sequence = .ok options) ∧
      ((∃ store, OverrideStore.ofSettings settings.overrides settings.router.defaultSchema = .ok store) ↔
        ∀ entry ∈ settings.overrides.routes, entry.Grounded settings.router.defaultSchema) := by
  have hsound := Settings.sound_of_validate h
  refine ⟨RouterOptions.ofSettings?_of_listed hsound.dialect, ?_, ?_, ?_⟩
  · exact RuleSet.addAll_run hsound.rules (List.forall_mem_nil _)
  · exact fun sequence hsequence => SequenceOptions.ofSettings_of_validate (hsound.sequences sequence hsequence)
  · rw [OverrideStore.ofSettings, OverrideStore.addEntries_iff]
    constructor
    · exact fun hentries entry hentry => (hentries entry hentry).2
    · exact fun hgrounded entry hentry =>
        ⟨OverrideEntry.one_of_validate (hsound.overrides entry hentry), hgrounded entry hentry⟩

namespace Sample

/-- A sharded table, an archive with a physical schema of its own, and an allocator. -/
def settings : Settings where
  rules := [{ table := "orders", shardKey := some "id", tableShards := 4 }]
  overrides := { routes := [{ table := "audit", physicalSchema := some "archive", physicalTable := some "audit_2024" }] }
  sequences := [{ schema := "app", table := "orders" }]

/-- The archive without a schema. -/
def rootless : Settings where
  overrides := { routes := [{ table := "audit", physicalTable := some "audit_2024" }] }

end Sample

theorem built_of_validate_archived :
    Sample.settings.validate = .ok () ∧
      (∃ options, RouterOptions.ofSettings? Sample.settings.router = some options) ∧
      RuleSet.ofSettings Sample.settings.rules = .ok { rules := Sample.settings.rules.map ShardRule.describe } ∧
      (∀ sequence ∈ Sample.settings.sequences, ∃ options, SequenceOptions.ofSettings sequence = .ok options) ∧
      ∃ store, OverrideStore.ofSettings Sample.settings.overrides none = .ok store := by
  have h : Sample.settings.validate = .ok () := rfl
  obtain ⟨hoptions, hrules, hsequences, hstore⟩ := built_of_validate h
  refine ⟨h, hoptions, hrules, hsequences, hstore.mpr ?_⟩
  exact List.forall_mem_singleton.mpr fun _ => .inl rfl

/-- Sound settings whose overrides cannot be built: there is no schema for a physical table. -/
theorem overrides_rootless :
    Sample.rootless.validate = .ok () ∧
      OverrideStore.ofSettings Sample.rootless.overrides Sample.rootless.router.defaultSchema =
        .error (.invalidRule (.noPhysicalSchema "audit")) :=
  ⟨rfl, rfl⟩

end ShardRouting
