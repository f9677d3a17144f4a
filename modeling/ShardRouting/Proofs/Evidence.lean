import ShardRouting.Proofs.Effect
import ShardRouting.Proofs.Run

/-! What sources stand for. The source of a value is read off the statement alone; only the values behind
    the sources depend on the parameters. -/

namespace ShardRouting
open Sql

variable {scan : Scan} {params : Params} {limit : Nat}

/-! ### The values of a source -/

/-- A concrete value that a source stands for under some parameters: the value of a literal or of a bound
    parameter, or any integer of a range whose bounds are both known. -/
inductive Denotes (params : Params) : RouteSource → ShardValue → Prop
  | value {source : ValueSource} {value : ShardValue} (h : source.value? params = some value) :
    Denotes params (.value source) value
  | range {low high : ValueSource} {lowValue highValue : ShardValue} {first last n : Int64}
    (hlow : low.value? params = some lowValue) (hfirst : lowValue.toWord? = some first)
    (hhigh : high.value? params = some highValue) (hlast : highValue.toWord? = some last)
    (hge : first ≤ n) (hle : n ≤ last) : Denotes params (.range low high) (.int n)

def ValueSource.keys : ValueSource → List ParamKey
  | .literal _ => []
  | .param key => [key]

/-- The parameters that a source was recorded with. -/
def RouteSource.keys : RouteSource → List ParamKey
  | .value source => source.keys
  | .range low high => low.keys ++ high.keys

/-- All parameters of a source are bound. -/
def RouteSource.Bound (params : Params) (source : RouteSource) : Prop :=
  ∀ key ∈ source.keys, (params.get? key).isSome = true

/-- A range with known bounds runs from an integer up to another, and is not too wide. -/
def RouteSource.Fits (limit : Nat) (params : Params) : RouteSource → Prop
  | .value _ => True
  | .range low high => ∀ lowValue highValue, low.value? params = some lowValue →
    high.value? params = some highValue → ∃ first last, lowValue.toWord? = some first ∧
      highValue.toWord? = some last ∧ first ≤ last ∧ last.toInt - first.toInt + 1 ≤ limit

theorem mem_integersBetween {low high : Int64} {value : ShardValue} :
    value ∈ integersBetween low high ↔ ∃ n, value = .int n ∧ low ≤ n ∧ n ≤ high := by
  simp only [integersBetween, List.mem_map, List.mem_range, Int64.le_iff_toInt_le]
  have hlow := low.le_toInt
  have hhigh := high.toInt_lt
  constructor
  · rintro ⟨i, hi, rfl⟩
    have hn : (Int64.ofInt (low.toInt + i)).toInt = low.toInt + i :=
      Int64.toInt_ofInt_of_le (by omega) (by omega)
    exact ⟨_, rfl, by omega, by omega⟩
  · rintro ⟨n, rfl, hge, hle⟩
    refine ⟨(n.toInt - low.toInt).toNat, by omega, ?_⟩
    have hi : low.toInt + ((n.toInt - low.toInt).toNat : Int) = n.toInt := by omega
    rw [hi, Int64.ofInt_toInt]

/-- The values of a source, those of a range from the least on. -/
def RouteSource.values (params : Params) : RouteSource → List ShardValue
  | .value source => (source.value? params).toList
  | .range low high =>
    match (low.value? params).bind ShardValue.toWord?, (high.value? params).bind ShardValue.toWord? with
    | some first, some last => integersBetween first last
    | _, _ => []

theorem RouteSource.values_range {low high : ValueSource} {lowValue highValue : ShardValue} {first last : Int64}
    (hlow : low.value? params = some lowValue) (hfirst : lowValue.toWord? = some first)
    (hhigh : high.value? params = some highValue) (hlast : highValue.toWord? = some last) :
    (range low high).values params = integersBetween first last := by
  simp only [values, hlow, hhigh, Option.bind_some, hfirst, hlast]

theorem mem_values {source : RouteSource} {value : ShardValue} :
    value ∈ source.values params ↔ Denotes params source value := by
  cases source with
  | value source => exact Option.mem_toList.trans ⟨.value, fun | .value h => h⟩
  | range low high =>
    constructor
    · intro h
      simp only [RouteSource.values] at h
      split at h
      · rename_i hfirst hlast
        obtain ⟨_, hlow, hfirst⟩ := Option.bind_eq_some_iff.mp hfirst
        obtain ⟨_, hhigh, hlast⟩ := Option.bind_eq_some_iff.mp hlast
        obtain ⟨_, rfl, hge, hle⟩ := mem_integersBetween.mp h
        exact .range hlow hfirst hhigh hlast hge hle
      · cases h
    · intro h
      cases h with
      | range hlow hfirst hhigh hlast hge hle =>
        rw [RouteSource.values_range hlow hfirst hhigh hlast]
        exact mem_integersBetween.mpr ⟨_, rfl, hge, hle⟩

/-- Nothing is asked of a range while one of its bounds is unknown. -/
theorem RouteSource.range_unknown (limit : Nat) {low high : ValueSource}
    (h : low.value? params = none ∨ high.value? params = none) :
    (range low high).Fits limit params ∧ (range low high).values params = [] := by
  constructor
  · intro lowValue highValue hlow hhigh
    rcases h with h | h
    · exact absurd hlow (by simp [h])
    · exact absurd hhigh (by simp [h])
  · rcases h with h | h
    · simp [values, h]
    · simp [values, h]

theorem RouteSource.range_known {low high : ValueSource} {lowValue highValue : ShardValue}
    (hlow : low.value? params = some lowValue) (hhigh : high.value? params = some highValue) :
    (range low high).Fits limit params ↔ ∃ first last, lowValue.toWord? = some first ∧
      highValue.toWord? = some last ∧ first ≤ last ∧ last.toInt - first.toInt + 1 ≤ limit :=
  ⟨fun h => h _ _ hlow hhigh, fun h _ _ hl hh => by
    cases hlow.symm.trans hl
    cases hhigh.symm.trans hh
    exact h⟩

theorem ValueSource.value_of_bound {source : ValueSource}
    (h : ∀ key ∈ source.keys, (params.get? key).isSome = true) : ∃ value, source.value? params = some value := by
  cases source with
  | literal value => exact ⟨value, rfl⟩
  | param key => exact Option.isSome_iff_exists.mp (h key (List.mem_singleton_self key))

theorem ValueSource.bound_of_value {source : ValueSource} {value : ShardValue}
    (h : source.value? params = some value) : ∀ key ∈ source.keys, (params.get? key).isSome = true := by
  cases source with
  | literal _ => simp [keys]
  | param key =>
    intro _ hkey
    rw [List.mem_singleton.mp hkey, Option.isSome_iff_exists]
    exact ⟨value, h⟩

/-- A bound source that fits stands for some value. -/
theorem RouteSource.Fits.denotes {source : RouteSource} (hfits : source.Fits limit params)
    (hbound : source.Bound params) : ∃ value, Denotes params source value := by
  cases source with
  | value source =>
    obtain ⟨value, h⟩ := ValueSource.value_of_bound hbound
    exact ⟨value, .value h⟩
  | range low high =>
    obtain ⟨_, hlow⟩ := ValueSource.value_of_bound fun key hkey => hbound key (List.mem_append_left _ hkey)
    obtain ⟨_, hhigh⟩ := ValueSource.value_of_bound fun key hkey => hbound key (List.mem_append_right _ hkey)
    obtain ⟨first, last, hfirst, hlast, hle, -⟩ := hfits _ _ hlow hhigh
    exact ⟨.int first, .range hlow hfirst hhigh hlast (Int64.le_refl first) hle⟩

/-! ### Reading sources off a statement -/

/-- What a source reads as under some parameters. -/
def Reading.of (params : Params) : ValueSource → Reading
  | .literal value => .ofLiteral value
  | .param key => .ofParam params key

@[simp] theorem Reading.source_of (params : Params) (source : ValueSource) :
    (Reading.of params source).source = source := by
  cases source with
  | literal value => rfl
  | param key =>
    simp only [Reading.of, Reading.ofParam]
    cases params.get? key <;> rfl

theorem Reading.of_known {source : ValueSource} {value : ShardValue} (h : source.value? params = some value) :
    Reading.of params source = .known value source := by
  cases source with
  | literal _ =>
    cases h
    rfl
  | param key =>
    have hkey : params.get? key = some value := h
    simp only [Reading.of, Reading.ofParam, hkey]

theorem Reading.of_unknown {source : ValueSource} (h : source.value? params = none) :
    ∃ key, source = .param key ∧ Reading.of params source = .unbound key := by
  cases source with
  | literal _ => cases h
  | param key =>
    have hkey : params.get? key = none := h
    exact ⟨key, rfl, by simp only [Reading.of, Reading.ofParam, hkey]⟩

/-- The source of the value of an expression. -/
def valueSource? (scan : Scan) (e : Expr) : Option ValueSource :=
  match readValue scan {} e with
  | .ok reading => some reading.source
  | .error _ => none

/-- The parameters decide on the value of an expression but not on where it comes from. -/
theorem readValue_eq (scan : Scan) : ∀ (e : Expr) (params : Params),
    readValue scan params e = (readValue scan {} e).map fun reading => Reading.of params reading.source
  | .literal (.placeholder text position), params => by
    simp only [readValue]
    split
    · cases scan.index? position <;> rfl
    · rfl
  | .literal (.number digits long), _ => by
    simp only [readValue]
    cases literalValue? (.number digits long) <;> rfl
  | .literal (.string style content), _ => by
    simp only [readValue]
    cases literalValue? (.string style content) <;> rfl
  | .literal (.boolean _), _ => rfl
  | .literal .null, _ => rfl
  | .sign negative operand, params => by
    -- a sign takes literals only, and these have the value that they are recorded with
    have hself := readValue_eq scan operand {}
    simp only [readValue, readValue_eq scan operand params]
    cases hread : readValue scan {} operand with
    | error e => rfl
    | ok reading =>
      rw [hread] at hself
      obtain ⟨source, rfl⟩ : ∃ source, reading = Reading.of {} source := ⟨_, Except.ok.inj hself⟩
      simp only [Except.map, Reading.source_of]
      cases source with
      | literal value =>
        simp only [Reading.of, Reading.ofLiteral]
        cases (if negative then value.negate? else some value) <;> rfl
      | param key =>
        simp only [Reading.of, Reading.ofParam]
        cases params.get? key <;> rfl
  | .nested operand, params => readValue_eq scan operand params
  | .typed type value, _ => by
    simp only [readValue]
    split <;> rfl
  | .ident _, _ | .column _, _ | .not _, _ | .binary .., _ | .inList .., _ | .between .., _ | .test .., _
  | .isNull _, _ | .subquery _, _ | .trim .., _ | .call .., _ | .form _, _ => rfl

/-- The source of what an expression tells of a column. -/
def Evidence.source? (scan : Scan) : Evidence → Option RouteSource
  | .item e => (valueSource? scan e).map .value
  | .range _ low high => do return .range (← valueSource? scan low) (← valueSource? scan high)

theorem readValue_iff {e : Expr} {reading : Reading} : readValue scan params e = .ok reading ↔
    ∃ source, valueSource? scan e = some source ∧ reading = .of params source := by
  unfold valueSource?
  rw [readValue_eq scan e params]
  cases readValue scan {} e with
  | error part => simp [Except.map]
  | ok found => simp [Except.map, eq_comm]

theorem readValue_known_iff {e : Expr} {value : ShardValue} {source : ValueSource} :
    readValue scan params e = .ok (.known value source) ↔
      valueSource? scan e = some source ∧ source.value? params = some value := by
  rw [readValue_iff]
  constructor
  · rintro ⟨found, hfound, hreading⟩
    cases hvalue : found.value? params with
    | none =>
      obtain ⟨key, -, hunbound⟩ := Reading.of_unknown hvalue
      cases hreading.trans hunbound
    | some other =>
      cases hreading.trans (Reading.of_known hvalue)
      exact ⟨hfound, hvalue⟩
  · rintro ⟨hsource, hvalue⟩
    exact ⟨source, hsource, (Reading.of_known hvalue).symm⟩

namespace Walk

variable {setting : Setting} {p q : Progress}

theorem readFor_eq {column : ColumnRef} {e : Expr} {source : ValueSource}
    (h : valueSource? setting.scan e = some source) :
    readFor setting column e = pure (Reading.of setting.params source) := by
  unfold readFor
  rw [readValue_iff.mpr ⟨source, h, rfl⟩]

theorem readFor_inv {column : ColumnRef} {e : Expr} {reading : Reading}
    (h : readFor setting column e p = .ok reading q) : ∃ source, valueSource? setting.scan e = some source := by
  unfold readFor at h
  cases hread : readValue setting.scan setting.params e with
  | ok found =>
    obtain ⟨source, hsource, -⟩ := readValue_iff.mp hread
    exact ⟨source, hsource⟩
  | error part =>
    rw [hread] at h
    exact (throw_iff.mp h).elim

theorem refuse_iff {α : Type} {text : String} {fault : PredicateFault} {a : α} :
    refuse text fault p = .ok a q ↔ False :=
  throw_iff

theorem rangeOf_iff {limit : Nat} {text : String} {low high : ShardValue} {values : List ShardValue} :
    rangeOf limit text low high p = .ok values q ↔
      ∃ first last, low.toWord? = some first ∧ high.toWord? = some last ∧ first ≤ last ∧
        last.toInt - first.toInt + 1 ≤ limit ∧ values = integersBetween first last ∧ q = p := by
  unfold rangeOf
  cases low.toWord? with
  | none => simp [refuse_iff]
  | some first =>
    cases high.toWord? with
    | none => simp [refuse_iff]
    | some last =>
      simp only [Option.some.injEq, exists_and_left, exists_eq_left']
      by_cases hlt : last < first
      · have hle : ¬first ≤ last := by rwa [Int64.not_le]
        simp only [if_pos hlt, refuse_bind, refuse_iff, hle, false_and]
      · have hle : first ≤ last := by rwa [← Int64.not_lt]
        by_cases hspan : last.toInt - first.toInt + 1 > limit
        · simp only [if_neg hlt, if_pos hspan, refuse_bind, refuse_iff, false_iff]
          omega
        · simp only [if_neg hlt, if_neg hspan, pure_iff, hle, Int.not_lt.mp hspan, true_and]
          exact and_congr eq_comm eq_comm

end Walk
end ShardRouting
