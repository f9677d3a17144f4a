import Mathlib.Data.Finset.Card
import Mathlib.Data.Finset.Filter
import ShardRouting.Proofs.Construction

/-! Override stores over whole runs. Entries are set, taken out and set again, under names whose case does not count.
    For each key a store holds what the last call under the key has left there, and nothing else, so it never has two
    entries for one key. Settings are such a run as well: each of their entries is one call. -/

namespace ShardRouting

/-! ### Calls -/

/-- A change of an override store. -/
inductive OverrideCall where
  | setRoute (schema : Option String) (table : String) (destination : Destination)
  | setValue (schema : Option String) (table : String) (value : ShardValue)
  | remove (schema : Option String) (table : String)
  | disable (disabled : Bool)
  deriving DecidableEq, Repr

namespace OverrideCall

/-- The key that a call is about. -/
def key? : OverrideCall → Option (Option String × String)
  | setRoute schema table _ | setValue schema table _ | remove schema table => some (tableKey schema table)
  | disable _ => none

/-- The entry that a call leaves under its key. -/
def entry? : OverrideCall → Option RouteOverride
  | setRoute _ _ destination => some (.route destination)
  | setValue _ _ value => some (.value value)
  | remove .. | disable _ => none

/-- The entry that was set last under a key and not taken out since: what the last call under the key has left. -/
def standing? (calls : List OverrideCall) (key : Option String × String) : Option RouteOverride :=
  (calls.reverse.find? (·.key? = some key)).bind entry?

theorem standing?_append (calls : List OverrideCall) (call : OverrideCall) (key : Option String × String) :
    standing? (calls ++ [call]) key = if call.key? = some key then call.entry? else standing? calls key := by
  unfold standing?
  rw [List.reverse_append, List.reverse_singleton, List.singleton_append]
  by_cases hkey : call.key? = some key
  · rw [List.find?_cons_of_pos (by simp [hkey]), if_pos hkey, Option.bind_some]
  · rw [List.find?_cons_of_neg (by simp [hkey]), if_neg hkey]

theorem exists_of_standing? {calls : List OverrideCall} {key : Option String × String}
    (h : (standing? calls key).isSome = true) : ∃ call ∈ calls, call.key? = some key := by
  obtain ⟨entry, hentry⟩ := Option.isSome_iff_exists.mp h
  obtain ⟨call, hcall, -⟩ := Option.bind_eq_some_iff.mp hentry
  exact ⟨call, List.mem_reverse.mp (List.mem_of_find?_eq_some hcall), by simpa using List.find?_some hcall⟩

end OverrideCall

namespace OverrideStore
open OverrideCall

variable {store after : OverrideStore} {defaultSchema : Option String}

/-! ### One call -/

/-- Whether a key has an entry. -/
theorem isSome_at?_iff {key : Option String × String} :
    (store.at? key).isSome = true ↔ key ∈ store.entries.map Prod.fst := by
  simp [at?]

theorem at?_erase (store : OverrideStore) (key other : Option String × String) :
    (store.erase key).at? other = if other = key then none else store.at? other := by
  unfold at? erase
  rw [List.find?_filter]
  by_cases hkey : other = key
  · rw [if_pos hkey, Option.map_eq_none_iff, List.find?_eq_none]
    rintro entry - hentry
    simp only [decide_eq_true_eq] at hentry
    exact hentry.1 (hentry.2.trans hkey)
  · rw [if_neg hkey]
    congr 2
    funext entry
    by_cases hentry : entry.1 = other
    · simp [hentry, hkey]
    · simp [hentry]

theorem at?_set (store : OverrideStore) (schema : Option String) (table : String) (entry : RouteOverride)
    (key : Option String × String) :
    (store.set schema table entry).at? key = if key = tableKey schema table then some entry else store.at? key := by
  by_cases hkey : key = tableKey schema table
  · rw [if_pos hkey]
    simp [set, at?, hkey]
  · have hrest := at?_erase store (tableKey schema table) key
    rw [if_neg hkey] at hrest ⊢
    rw [← hrest]
    simp [set, at?, Ne.symm hkey]

/-- The store as a call leaves it. -/
def perform (store : OverrideStore) : OverrideCall → OverrideStore
  | .setRoute schema table destination => store.set schema table (.route destination)
  | .setValue schema table value => store.set schema table (.value value)
  | .remove schema table => (store.remove schema table).2
  | .disable disabled => store.disable disabled

/-- A call changes nothing but what stands under its own key. -/
theorem at?_perform (store : OverrideStore) (call : OverrideCall) (key : Option String × String) :
    (store.perform call).at? key = if call.key? = some key then call.entry? else store.at? key := by
  cases call with
  | setRoute schema table destination => simp only [perform, at?_set, key?, entry?, Option.some.injEq, eq_comm]
  | setValue schema table value => simp only [perform, at?_set, key?, entry?, Option.some.injEq, eq_comm]
  | remove schema table => simp only [perform, remove, at?_erase, key?, entry?, Option.some.injEq, eq_comm]
  | disable disabled => rfl

/-- No two entries have one key. -/
def Apart (store : OverrideStore) : Prop := (store.entries.map Prod.fst).Nodup

theorem Apart.erase (h : store.Apart) (key : Option String × String) : (store.erase key).Apart :=
  h.sublist (List.filter_sublist.map Prod.fst)

theorem Apart.set (h : store.Apart) (schema : Option String) (table : String) (entry : RouteOverride) :
    (store.set schema table entry).Apart := by
  have hgone : ((store.erase (tableKey schema table)).at? (tableKey schema table)).isSome = false := by
    rw [at?_erase, if_pos rfl]
    rfl
  have hfresh : tableKey schema table ∉ (store.erase (tableKey schema table)).entries.map Prod.fst := by
    rw [← isSome_at?_iff, hgone]
    exact Bool.false_ne_true
  exact List.nodup_cons.mpr ⟨hfresh, h.erase _⟩

theorem Apart.perform (h : store.Apart) (call : OverrideCall) : (store.perform call).Apart := by
  cases call with
  | setRoute schema table destination => exact h.set schema table _
  | setValue schema table value => exact h.set schema table _
  | remove schema table => exact h.erase _
  | disable disabled => exact h

/-! ### Runs -/

/-- The store that a run of calls comes to. -/
def ofRun (calls : List OverrideCall) : OverrideStore := calls.foldl perform empty

theorem ofRun_append (calls : List OverrideCall) (call : OverrideCall) :
    ofRun (calls ++ [call]) = (ofRun calls).perform call :=
  List.foldl_concat ..

theorem at?_ofRun (calls : List OverrideCall) (key : Option String × String) :
    (ofRun calls).at? key = standing? calls key := by
  induction calls using List.reverseRecOn with
  | nil => rfl
  | append_singleton calls call ih => rw [ofRun_append, at?_perform, standing?_append, ih]

theorem find?_ofRun (calls : List OverrideCall) (schema : Option String) (table : String) :
    (ofRun calls).find? schema table =
      (standing? calls (tableKey schema table)).or (standing? calls (tableKey none table)) := by
  rw [← at?_ofRun, ← at?_ofRun]
  cases schema with
  | some schema => rfl
  | none => exact (Option.or_self).symm

theorem apart_ofRun (calls : List OverrideCall) : (ofRun calls).Apart := by
  induction calls using List.reverseRecOn with
  | nil => exact List.nodup_nil
  | append_singleton calls call ih =>
    rw [ofRun_append]
    exact ih.perform call

/-- A store has one entry for each key of its calls under which one stands. -/
theorem size_ofRun (calls : List OverrideCall) :
    (ofRun calls).size =
      ((calls.filterMap key?).toFinset.filter fun key => (standing? calls key).isSome = true).card := by
  have hkeys : ((ofRun calls).entries.map Prod.fst).toFinset =
      (calls.filterMap key?).toFinset.filter fun key => (standing? calls key).isSome = true := by
    ext key
    rw [List.mem_toFinset, ← isSome_at?_iff, at?_ofRun, Finset.mem_filter, List.mem_toFinset, List.mem_filterMap]
    exact ⟨fun h => ⟨exists_of_standing? h, h⟩, fun h => h.2⟩
  rw [← hkeys, List.toFinset_card_of_nodup (apart_ofRun calls), List.length_map]
  rfl

/-! ### Settings -/

/-- The call that an entry of the settings stands for. A physical table lies in its physical schema, else in the schema
    of the entry, else in the default schema. -/
inductive Describes (defaultSchema : Option String) (entry : OverrideEntry) : OverrideCall → Prop
  | route {schema table : String} (htable : entry.physicalTable = some table) (hvalue : entry.value = none)
    (hschema : (entry.physicalSchema.or entry.schema).or defaultSchema = some schema) :
    Describes defaultSchema entry (.setRoute entry.schema entry.table ⟨schema, table⟩)
  | value {text : String} (htable : entry.physicalTable = none) (hvalue : entry.value = some text) :
    Describes defaultSchema entry (.setValue entry.schema entry.table (.ofText text))

theorem addEntry_ok {entry : OverrideEntry} (h : store.addEntry defaultSchema entry = .ok after) :
    ∃ call, Describes defaultSchema entry call ∧ after = store.perform call := by
  unfold addEntry at h
  split at h
  · next table htable hvalue =>
    split at h
    · next schema hschema => exact ⟨_, .route htable hvalue hschema, (Except.ok.inj h).symm⟩
    · cases h
  · next value htable hvalue => exact ⟨_, .value htable hvalue, (Except.ok.inj h).symm⟩
  · cases h

theorem addEntries_ok {entries : List OverrideEntry} (h : store.addEntries defaultSchema entries = .ok after) :
    ∃ calls, List.Forall₂ (Describes defaultSchema) entries calls ∧ after = calls.foldl perform store := by
  induction entries generalizing store with
  | nil => exact ⟨[], .nil, (Except.ok.inj h).symm⟩
  | cons entry entries ih =>
    obtain ⟨between, hfirst, hrest⟩ := bind_eq_ok_iff.mp h
    obtain ⟨call, hcall, rfl⟩ := addEntry_ok hfirst
    obtain ⟨calls, hcalls, rfl⟩ := ih hrest
    exact ⟨call :: calls, .cons hcall hcalls, rfl⟩

theorem ofSettings_error_iff {settings : OverrideSettings} :
    (∃ fault, ofSettings settings defaultSchema = .error fault) ↔ ∃ entry ∈ settings.routes,
      entry.physicalTable.isSome = entry.value.isSome ∨
        entry.physicalTable.isSome = true ∧ entry.physicalSchema = none ∧ entry.schema = none ∧ defaultSchema = none := by
  have hok : (∃ fault, ofSettings settings defaultSchema = .error fault) ↔
      ¬∃ store, ofSettings settings defaultSchema = .ok store := by
    cases ofSettings settings defaultSchema <;> simp
  rw [hok, ofSettings, addEntries_iff]
  simp only [OverrideEntry.Grounded, not_forall, not_and_or, not_not, not_or, Bool.not_eq_true, Option.isSome_eq_false_iff,
    Option.isNone_iff_eq_none, exists_prop]

/-- Over a run of calls a table finds the entry that was set last under its schema and not taken out since, else the
    last without schema. Taking out an entry gives it back and leaves all others, and there are as many entries as keys
    under which one stands. Settings come to the run that sets their entries in order, unless one of them has not
    exactly one of a physical table and a value, or has a physical table and no schema for it. -/
theorem last_entry_stands :
    (∀ (calls : List OverrideCall) (schema : Option String) (table : String),
      (ofRun calls).find? schema table =
        (standing? calls (tableKey schema table)).or (standing? calls (tableKey none table))) ∧
      (∀ (calls : List OverrideCall) (schema : Option String) (table : String),
        ((ofRun calls).remove schema table).1 = standing? calls (tableKey schema table) ∧
          (∀ key, ((ofRun calls).remove schema table).2.at? key =
            if key = tableKey schema table then none else (ofRun calls).at? key) ∧
          ((ofRun calls).remove schema table).2.sqlRoutingDisabled = (ofRun calls).sqlRoutingDisabled) ∧
      (∀ calls : List OverrideCall, (ofRun calls).size =
        ((calls.filterMap key?).toFinset.filter fun key => (standing? calls key).isSome = true).card) ∧
      (∀ (settings : OverrideSettings) (defaultSchema : Option String) (store : OverrideStore),
        ofSettings settings defaultSchema = .ok store → ∃ calls,
          List.Forall₂ (Describes defaultSchema) settings.routes calls ∧
            store = ofRun (.disable settings.disableSqlRouting :: calls)) ∧
      ∀ (settings : OverrideSettings) (defaultSchema : Option String),
        (∃ fault, ofSettings settings defaultSchema = .error fault) ↔ ∃ entry ∈ settings.routes,
          entry.physicalTable.isSome = entry.value.isSome ∨
            entry.physicalTable.isSome = true ∧ entry.physicalSchema = none ∧ entry.schema = none ∧
              defaultSchema = none := by
  refine ⟨find?_ofRun, fun calls schema table => ⟨at?_ofRun calls _, at?_erase _ _, rfl⟩, size_ofRun, ?_,
    fun _ _ => ofSettings_error_iff⟩
  intro settings defaultSchema store h
  obtain ⟨calls, hcalls, rfl⟩ := addEntries_ok h
  exact ⟨calls, hcalls, rfl⟩

end OverrideStore

namespace Sample

/-- The orders of all schemas are sent to one place, and those of billing by a value, then to a place of their own, until
    that is taken back. -/
def recalled : List OverrideCall :=
  [.setRoute none "Orders" ⟨"app", "orders_3"⟩, .setValue (some "Billing") "orders" (.int 7), .disable true,
    .setRoute (some "billing") "ORDERS" ⟨"app", "orders_1"⟩, .remove (some "BILLING") "Orders"]

/-- The audit in the default schema, and orders by a value. -/
def replacements : OverrideSettings where
  disableSqlRouting := true
  routes := [{ table := "audit", physicalTable := some "audit_2024" },
    { schema := some "app", table := "orders", value := some "42" }]

end Sample

/-- The orders of billing fall back to the place of all orders, which is the one entry left. The settings are a run of
    three calls if there is a default schema. -/
theorem OverrideStore.last_entry_stands_recalled :
    (ofRun Sample.recalled).find? (some "billing") "orders" = some (.route ⟨"app", "orders_3"⟩) ∧
      ((ofRun (Sample.recalled.take 4)).remove (some "BILLING") "Orders").1 = some (.route ⟨"app", "orders_1"⟩) ∧
      (ofRun Sample.recalled).size = 1 ∧
      (∃ store calls, ofSettings Sample.replacements (some "main") = .ok store ∧
        List.Forall₂ (Describes (some "main")) Sample.replacements.routes calls ∧
          store = ofRun (.disable true :: calls)) ∧
      ∃ fault, ofSettings Sample.replacements none = .error fault := by
  obtain ⟨hfind, hremove, hsize, hrun, herror⟩ := OverrideStore.last_entry_stands
  obtain ⟨store, hstore⟩ : ∃ store, ofSettings Sample.replacements (some "main") = .ok store := ⟨_, rfl⟩
  obtain ⟨calls, hcalls, hsame⟩ := hrun _ _ store hstore
  refine ⟨(hfind _ _ _).trans rfl, (hremove _ _ _).1.trans rfl, (hsize _).trans (by decide),
    ⟨store, calls, hstore, hcalls, hsame⟩, ?_⟩
  exact (herror _ _).mpr ⟨_, List.mem_cons_self, .inr ⟨rfl, rfl, rfl, rfl⟩⟩

end ShardRouting
