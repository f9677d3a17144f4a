import ShardRouting.Proofs.Weighing
import ShardRouting.Routing.Validation

/-! What validation asks. Parameters pass exactly when every source of every routed table is bound, fits and
    leads to the route of its table. -/

namespace ShardRouting
namespace Walk

/-! ### Tests -/

/-- From whatever state it starts, a step goes through exactly when `c` holds. -/
def Tests (x : Walk Unit) (c : Prop) : Prop := ∀ p, (∃ q, x p = .ok () q) ↔ c

theorem Tests.pass : Tests (pure ()) True := fun p => iff_true_intro ⟨p, rfl⟩

theorem Tests.fail (e : RoutingError) : Tests (throw e) False := fun _ => ⟨fun ⟨_, h⟩ => throw_iff.mp h, False.elim⟩

theorem Tests.tell (event : Event) : Tests (tell event) True := fun _ => iff_true_intro ⟨_, tell_iff.mpr rfl⟩

theorem Tests.congr {x : Walk Unit} {c d : Prop} (h : Tests x c) (hiff : c ↔ d) : Tests x d :=
  fun p => (h p).trans hiff

theorem Tests.bind {x : Walk Unit} {y : Unit → Walk Unit} {c d : Prop} (hx : Tests x c) (hy : Tests (y ()) d) :
    Tests (x >>= y) (c ∧ d) := fun p => by
  constructor
  · rintro ⟨q, h⟩
    obtain ⟨_, p', hfirst, hsecond⟩ := bind_iff.mp h
    exact ⟨(hx p).mp ⟨p', hfirst⟩, (hy p').mp ⟨q, hsecond⟩⟩
  · rintro ⟨hc, hd⟩
    obtain ⟨p', hfirst⟩ := (hx p).mpr hc
    obtain ⟨q, hsecond⟩ := (hy p').mpr hd
    exact ⟨q, bind_iff.mpr ⟨(), p', hfirst, hsecond⟩⟩

theorem Tests.forM {α : Type} {f : α → Walk Unit} {c : α → Prop} (h : ∀ a, Tests (f a) (c a)) :
    ∀ l : List α, Tests (l.forM f) (∀ a ∈ l, c a)
  | [] => pass.congr (by simp)
  | a :: l => ((h a).bind (Tests.forM h l)).congr List.forall_mem_cons.symm

/-! ### Sources -/

namespace Check

variable {check : Check} {routed : RoutedTable}

/-- A source of a table is bound, fits and leads to the route of the table. -/
structure Accepts (check : Check) (routed : RoutedTable) (source : RouteSource) : Prop where
  bound : source.Bound check.params
  fits : source.Fits check.setting.options.maxBetweenSpan check.params
  leads : ∀ value ∈ source.values check.params, Sends check.setting routed.schema routed.table value routed.route

theorem value_tests (value : ShardValue) :
    Tests (check.value routed value) (Sends check.setting routed.schema routed.table value routed.route) := by
  intro p
  unfold Check.value Sends
  constructor
  · rintro ⟨q, h⟩
    obtain ⟨found, _, hask, h⟩ := bind_iff.mp h
    obtain ⟨hfound, -⟩ := ask_iff.mp hask
    cases found with
    | none => exact (throw_iff.mp h).elim
    | some route =>
      simp only at h
      split at h
      · exact ⟨route, hfound, ‹_›⟩
      · exact (throw_iff.mp h).elim
  · rintro ⟨route, hfound, hsame⟩
    exact ⟨_, bind_iff.mpr ⟨some route, _, ask_iff.mpr ⟨hfound, rfl⟩, by simp only [hsame, if_true]; rfl⟩⟩

theorem valueOf_iff {source : ValueSource} {value : ShardValue} {p q : Progress} :
    check.valueOf source p = .ok value q ↔ source.value? check.params = some value ∧ q = p := by
  unfold valueOf
  cases source.value? check.params with
  | none => exact iff_of_false throw_iff.mp (by simp)
  | some found => exact pure_iff.trans (and_congr (by simp) eq_comm)

theorem integerOf_iff {source : ValueSource} {n : Int64} {p q : Progress} :
    check.integerOf source p = .ok n q ↔
      (∃ value, source.value? check.params = some value ∧ value.toWord? = some n) ∧ q = p := by
  unfold integerOf
  simp only [bind_iff, valueOf_iff]
  constructor
  · rintro ⟨value, _, ⟨hvalue, rfl⟩, h⟩
    cases hword : value.toWord? with
    | none =>
      simp only [hword] at h
      exact (throw_iff.mp h).elim
    | some found =>
      simp only [hword] at h
      obtain ⟨rfl, rfl⟩ := pure_iff.mp h
      exact ⟨⟨value, hvalue, hword⟩, rfl⟩
  · rintro ⟨⟨value, hvalue, hword⟩, rfl⟩
    exact ⟨value, _, ⟨hvalue, rfl⟩, by simp only [hword]; rfl⟩

theorem span_tests (first last : Int64) :
    Tests (do
      let span := last.toInt - first.toInt + 1
      if span < 1 ∨ span > check.setting.options.maxBetweenSpan then check.fail (.range first last)
      (integersBetween first last).forM (check.value routed))
    ((1 ≤ last.toInt - first.toInt + 1 ∧ last.toInt - first.toInt + 1 ≤ check.setting.options.maxBetweenSpan) ∧
      ∀ value ∈ integersBetween first last,
        Sends check.setting routed.schema routed.table value routed.route) := by
  by_cases hspan : last.toInt - first.toInt + 1 < 1 ∨
      last.toInt - first.toInt + 1 > check.setting.options.maxBetweenSpan
  · simp only [if_pos hspan]
    exact (Tests.fail _).congr (iff_of_false id fun h => by omega)
  · simp only [if_neg hspan]
    exact (Tests.forM value_tests _).congr (and_iff_right (by omega)).symm

theorem range_tests (low high : ValueSource) :
    Tests (check.source routed (.range low high)) (∃ first last,
      (∃ value, low.value? check.params = some value ∧ value.toWord? = some first) ∧
      (∃ value, high.value? check.params = some value ∧ value.toWord? = some last) ∧
      (1 ≤ last.toInt - first.toInt + 1 ∧
        last.toInt - first.toInt + 1 ≤ check.setting.options.maxBetweenSpan) ∧
      ∀ value ∈ integersBetween first last,
        Sends check.setting routed.schema routed.table value routed.route) := by
  intro p
  unfold Check.source
  constructor
  · rintro ⟨q, h⟩
    obtain ⟨first, _, hlow, h⟩ := bind_iff.mp h
    obtain ⟨last, _, hhigh, h⟩ := bind_iff.mp h
    exact ⟨first, last, (integerOf_iff.mp hlow).1, (integerOf_iff.mp hhigh).1, (span_tests first last _).mp ⟨q, h⟩⟩
  · rintro ⟨first, last, hlow, hhigh, h⟩
    obtain ⟨q, hq⟩ := (span_tests first last p).mpr h
    exact ⟨q, bind_iff.mpr ⟨first, p, integerOf_iff.mpr ⟨hlow, rfl⟩,
      bind_iff.mpr ⟨last, p, integerOf_iff.mpr ⟨hhigh, rfl⟩, hq⟩⟩⟩

theorem source_tests : ∀ source : RouteSource, Tests (check.source routed source) (check.Accepts routed source)
  | .value source => by
    intro p
    unfold Check.source
    simp only [bind_iff, valueOf_iff]
    constructor
    · rintro ⟨q, value, _, ⟨hvalue, rfl⟩, h⟩
      have hsends := (value_tests value _).mp ⟨q, h⟩
      exact ⟨ValueSource.bound_of_value hvalue, trivial, by simpa [RouteSource.values, hvalue] using hsends⟩
    · intro h
      obtain ⟨value, hvalue⟩ := ValueSource.value_of_bound h.bound
      obtain ⟨q, hq⟩ := (value_tests value p).mpr (h.leads value (by simp [RouteSource.values, hvalue]))
      exact ⟨q, value, p, ⟨hvalue, rfl⟩, hq⟩
  | .range low high => by
    refine (range_tests low high).congr ⟨?_, fun h => ?_⟩
    · rintro ⟨first, last, ⟨lowValue, hlow, hfirst⟩, ⟨highValue, hhigh, hlast⟩, ⟨hge, hspan⟩, hleads⟩
      refine ⟨?_, ?_, ?_⟩
      · intro key hkey
        rcases List.mem_append.mp hkey with hkey | hkey
        · exact ValueSource.bound_of_value hlow key hkey
        · exact ValueSource.bound_of_value hhigh key hkey
      · refine (RouteSource.range_known hlow hhigh).mpr ⟨first, last, hfirst, hlast, ?_, hspan⟩
        rw [Int64.le_iff_toInt_le]
        omega
      · rwa [RouteSource.values_range hlow hfirst hhigh hlast]
    · obtain ⟨lowValue, hlow⟩ :=
        ValueSource.value_of_bound fun key hkey => h.bound key (List.mem_append_left _ hkey)
      obtain ⟨highValue, hhigh⟩ :=
        ValueSource.value_of_bound fun key hkey => h.bound key (List.mem_append_right _ hkey)
      obtain ⟨first, last, hfirst, hlast, hle, hspan⟩ := (RouteSource.range_known hlow hhigh).mp h.fits
      refine ⟨first, last, ⟨lowValue, hlow, hfirst⟩, ⟨highValue, hhigh, hlast⟩, ⟨?_, hspan⟩, ?_⟩
      · rw [Int64.le_iff_toInt_le] at hle
        omega
      · have hleads := h.leads
        rwa [RouteSource.values_range hlow hfirst hhigh hlast] at hleads

theorem table_tests (routed : RoutedTable) :
    Tests (check.table routed) (∀ source ∈ routed.sources, check.Accepts routed source) :=
  Tests.forM source_tests routed.sources

end Check

/-- Some parameters are checked table by table. -/
theorem validate_tests (setting : Setting) (sql : String) (tables : List RoutedTable) {params : Params}
    (h : params.isEmpty = false) :
    Tests (validate setting sql tables params) (∀ table ∈ tables, ∀ source ∈ table.sources,
      Check.Accepts { setting, tables, params } table source) := by
  unfold validate
  rw [if_neg (Bool.eq_false_iff.mp h)]
  exact ((Tests.forM Check.table_tests tables).bind (Tests.tell _)).congr (and_iff_left trivial)

end Walk
end ShardRouting
