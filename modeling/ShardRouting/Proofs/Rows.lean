import ShardRouting.Proofs.Effect
import ShardRouting.Proofs.Evidence

/-! Rows and conditions. A row of a sharded table meets a condition or it does not. What the walk reads of the
    shard key in a condition bounds the keys of the rows that meet it, but for the rows that meet it whatever
    their key is. -/

namespace ShardRouting
open Sql

/-! ### Values that count as one -/

/-- Two values count as one if they stand for the same integer. Values that stand for none have to be the same. -/
def ShardValue.agrees (value other : ShardValue) : Bool :=
  match value.toWord?, other.toWord? with
  | some n, some m => n = m
  | _, _ => value = other

/-- An engine that sends values that count as one to one place. -/
def RuleEngine.Uniform (engine : RuleEngine) : Prop :=
  ∀ context schema table (value other : ShardValue), value.agrees other = true →
    engine.route context schema table (some value) = engine.route context schema table (some other)

theorem ShardValue.agrees_int {value : ShardValue} {n : Int64} (h : value.toWord? = some n) :
    value.agrees (.int n) = true := by
  unfold agrees
  rw [h]
  exact decide_eq_true rfl

theorem ShardValue.bucket_of_agrees {value other : ShardValue} (h : value.agrees other = true) (shards : Nat) :
    value.bucket shards = other.bucket shards := by
  unfold agrees at h
  split at h
  · rename_i n m hvalue hother
    obtain rfl : n = m := of_decide_eq_true h
    simp only [bucket, hvalue, hother]
  · rw [of_decide_eq_true h]

/-- Modulo rules know of a value only its bucket. -/
theorem RuleSet.engine_uniform (set : RuleSet) : set.engine.Uniform := by
  intro context schema table value other h
  change set.route schema table (some value) = set.route schema table (some other)
  unfold route
  cases set.find? schema table with
  | none => rfl
  | some rule => simp only [Option.isNone_some, ShardRule.resolve, ShardValue.bucket_of_agrees h]

/-! ### Comparisons -/

/-- The value that an expression is known to have. -/
def Setting.known? (setting : Setting) (e : Expr) : Option ShardValue :=
  (valueSource? setting.scan e).bind (·.value? setting.params)

/-- A comparison of a column with known values. -/
structure Comparison where
  column : ColumnRef
  holds : ShardValue → Bool

/-- The comparison that a predicate makes: an equality, a list or a range of integers. -/
def Sql.Expr.comparison? (setting : Setting) : Expr → Option Comparison
  | .binary left .eq right => match ColumnRef.ofExpr? left, setting.known? right with
    | some ref, some value => some { column := ref, holds := (·.agrees value) }
    | _, _ => none
  | .inList left false items => match ColumnRef.ofExpr? left with
    | some ref =>
      if items.all fun item => (setting.known? item).isSome then
        some { column := ref, holds := fun value => items.any fun item => (setting.known? item).any value.agrees }
      else none
    | none => none
  | .between left false low high =>
    match ColumnRef.ofExpr? left, (setting.known? low).bind ShardValue.toWord?,
      (setting.known? high).bind ShardValue.toWord? with
    | some ref, some first, some last =>
      some { column := ref, holds := fun value => value.toWord?.any fun n => first ≤ n && n ≤ last }
    | _, _, _ => none
  | _ => none

/-! ### Rows -/

/-- A row of a sharded table: its shard key, its other columns by their names, and the truth of all conditions that
    are no comparisons. -/
structure Row where
  key : ShardValue
  column : String → ShardValue
  other : Expr → Bool

/-- Connectives over the truth of what they connect. -/
def Sql.Expr.truth (atom : Expr → Bool) : Expr → Bool
  | .nested operand => operand.truth atom
  | .not operand => !operand.truth atom
  | .binary left .and right => left.truth atom && right.truth atom
  | .binary left .or right => left.truth atom || right.truth atom
  | e => atom e

namespace Row

/-- The truth of a condition without connectives; `keys` are the names of the shard key. -/
def atom (setting : Setting) (keys : List String) (row : Row) (e : Expr) : Bool :=
  match e.comparison? setting with
  | some comparison =>
    comparison.holds (if comparison.column.key ∈ keys then row.key else row.column comparison.column.key)
  | none => row.other e

/-- The same, with no comparison of the shard key being true. -/
def atomApart (setting : Setting) (keys : List String) (row : Row) (e : Expr) : Bool :=
  match e.comparison? setting with
  | some comparison =>
    if comparison.column.key ∈ keys then false else comparison.holds (row.column comparison.column.key)
  | none => row.other e

/-- A row meets a condition, if there is one. -/
def meets (setting : Setting) (keys : List String) (row : Row) (condition : Option Expr) : Bool :=
  condition.all (Expr.truth (row.atom setting keys))

/-- A row meets a condition apart from its shard key: it does so even if no comparison of the key is true. -/
def meetsApart (setting : Setting) (keys : List String) (row : Row) (condition : Option Expr) : Bool :=
  condition.all (Expr.truth (row.atomApart setting keys))

end Row

/-! ### What steps say of the key -/

/-- No predicate on the shard key among some steps is refused. -/
def Admits (keys : List String) (steps : List Step) : Prop :=
  ∀ predicate, .key predicate ∈ steps → predicate.column.key ∈ keys → predicate.refusal = none

/-- Some value behind a predicate counts as `value`. -/
def KeyPredicate.Covers (setting : Setting) (predicate : KeyPredicate) (value : ShardValue) : Prop :=
  ∃ evidence ∈ predicate.evidence, ∃ source, evidence.source? setting.scan = some source ∧
    ∃ other ∈ source.values setting.params, value.agrees other = true

/-- Some predicate on the shard key covers a value. -/
def Covered (setting : Setting) (keys : List String) (steps : List Step) (value : ShardValue) : Prop :=
  ∃ predicate, .key predicate ∈ steps ∧ predicate.column.key ∈ keys ∧ predicate.Covers setting value

variable {setting : Setting} {keys : List String} {steps rest : List Step} {value : ShardValue}

theorem Admits.left (h : Admits keys (steps ++ rest)) : Admits keys steps :=
  fun predicate hmem => h predicate (List.mem_append_left _ hmem)

theorem Admits.right (h : Admits keys (steps ++ rest)) : Admits keys rest :=
  fun predicate hmem => h predicate (List.mem_append_right _ hmem)

theorem Covered.left (h : Covered setting keys steps value) : Covered setting keys (steps ++ rest) value :=
  let ⟨predicate, hmem, hcovers⟩ := h
  ⟨predicate, List.mem_append_left _ hmem, hcovers⟩

theorem Covered.right (h : Covered setting keys rest value) : Covered setting keys (steps ++ rest) value :=
  let ⟨predicate, hmem, hcovers⟩ := h
  ⟨predicate, List.mem_append_right _ hmem, hcovers⟩

theorem Setting.known?_some {e : Expr} (h : setting.known? e = some value) :
    ∃ source, valueSource? setting.scan e = some source ∧ source.value? setting.params = some value :=
  Option.bind_eq_some_iff.mp h

/-- A comparison is a predicate of its expression, which is refused under `NOT` and covers all values for which the
    comparison holds. -/
theorem Sql.Expr.comparison?_step {e : Expr} {comparison : Comparison} (h : e.comparison? setting = some comparison)
    (underNot : Bool) : ∃ predicate, .key predicate ∈ e.steps underNot ∧ predicate.column = comparison.column ∧
      (predicate.refusal = none → underNot = false) ∧
      ∀ value, comparison.holds value = true → predicate.Covers setting value := by
  unfold comparison? at h
  split at h
  · rename_i left right
    split at h
    · rename_i ref known hcolumn hknown
      cases h
      refine ⟨.equality underNot ref right, ?_, rfl, ?_, fun value hvalue => ?_⟩
      · simp [Expr.steps, Expr.ownSteps, hcolumn]
      · cases underNot <;> simp [KeyPredicate.equality]
      · obtain ⟨source, hsource, hdenotes⟩ := Setting.known?_some hknown
        exact ⟨.item right, List.mem_singleton_self _, .value source, by simp [Evidence.source?, hsource], known,
          mem_values.mpr (.value hdenotes), hvalue⟩
    · cases h
  · rename_i left items
    split at h
    · rename_i ref hcolumn
      split at h
      · cases h
        refine ⟨.inList underNot ref false items, ?_, rfl, ?_, fun value hvalue => ?_⟩
        · simp [Expr.steps, Expr.ownSteps, hcolumn]
        · cases underNot <;> simp [KeyPredicate.inList]
        · obtain ⟨item, hitem, hany⟩ := List.any_eq_true.mp hvalue
          obtain ⟨known, hknown, hagrees⟩ := (Option.any_eq_true _ _).mp hany
          obtain ⟨source, hsource, hdenotes⟩ := Setting.known?_some hknown
          exact ⟨.item item, List.mem_map_of_mem hitem, .value source, by simp [Evidence.source?, hsource], known,
            mem_values.mpr (.value hdenotes), hagrees⟩
      · cases h
    · cases h
  · rename_i left low high
    split at h
    · rename_i ref first last hcolumn hfirst hlast
      cases h
      refine ⟨.between underNot ref false low high, ?_, rfl, ?_, fun value hvalue => ?_⟩
      · simp [Expr.steps, Expr.ownSteps, hcolumn]
      · cases underNot <;> simp [KeyPredicate.between]
      · obtain ⟨lowValue, hlow, hfirst⟩ := Option.bind_eq_some_iff.mp hfirst
        obtain ⟨highValue, hhigh, hlast⟩ := Option.bind_eq_some_iff.mp hlast
        obtain ⟨lowSource, hlowSource, hlow⟩ := Setting.known?_some hlow
        obtain ⟨highSource, hhighSource, hhigh⟩ := Setting.known?_some hhigh
        obtain ⟨n, hn, hbetween⟩ := (Option.any_eq_true _ _).mp hvalue
        obtain ⟨hge, hle⟩ : first ≤ n ∧ n ≤ last := by simpa using hbetween
        refine ⟨.range _ low high, List.mem_singleton_self _, .range lowSource highSource,
          by simp [Evidence.source?, hlowSource, hhighSource], .int n,
          mem_values.mpr (.range hlow hfirst hhigh hlast hge hle), ShardValue.agrees_int hn⟩
    · cases h
  · cases h

/-! ### Conditions -/

/-- How the truth of a condition goes beyond its truth apart from the key: not at all, or by a predicate that covers
    the key. -/
def Widens (setting : Setting) (keys : List String) (steps : List Step) (underNot : Bool) (value : ShardValue)
    (whole apart : Bool) : Prop :=
  whole = apart ∨ (underNot = false ∧ whole = true ∧ Covered setting keys steps value)

section
variable {underNot whole whole' apart apart' : Bool}

theorem Widens.and (h : Widens setting keys steps underNot value whole apart)
    (h' : Widens setting keys rest underNot value whole' apart') :
    Widens setting keys (steps ++ rest) underNot value (whole && whole') (apart && apart') := by
  rcases h with rfl | ⟨hplain, rfl, hcovered⟩
  · rcases h' with rfl | ⟨hplain, rfl, hcovered⟩
    · exact .inl rfl
    · cases whole with
      | true => exact .inr ⟨hplain, rfl, hcovered.right⟩
      | false => exact .inl rfl
  · cases whole' with
    | true => exact .inr ⟨hplain, rfl, hcovered.left⟩
    | false =>
      rcases h' with rfl | ⟨-, hfalse, -⟩
      · exact .inl (Bool.and_false apart).symm
      · cases hfalse

theorem Widens.or (h : Widens setting keys steps underNot value whole apart)
    (h' : Widens setting keys rest underNot value whole' apart') :
    Widens setting keys (steps ++ rest) underNot value (whole || whole') (apart || apart') := by
  rcases h with rfl | ⟨hplain, rfl, hcovered⟩
  · rcases h' with rfl | ⟨hplain, rfl, hcovered⟩
    · exact .inl rfl
    · exact .inr ⟨hplain, Bool.or_true whole, hcovered.right⟩
  · exact .inr ⟨hplain, rfl, hcovered.left⟩

end

theorem Row.atom_widens (row : Row) (e : Expr) {underNot : Bool} (hadmits : Admits keys (e.steps underNot)) :
    Widens setting keys (e.steps underNot) underNot row.key (row.atom setting keys e)
      (row.atomApart setting keys e) := by
  unfold Row.atom Row.atomApart
  cases hcomparison : e.comparison? setting with
  | none => exact .inl rfl
  | some comparison =>
    obtain ⟨predicate, hmem, hcolumn, hrefusal, hcovers⟩ := Expr.comparison?_step hcomparison underNot
    by_cases hkey : comparison.column.key ∈ keys
    · simp only [if_pos hkey]
      cases hholds : comparison.holds row.key with
      | false => exact .inl rfl
      | true =>
        have hpredicate : predicate.column.key ∈ keys := hcolumn ▸ hkey
        exact .inr ⟨hrefusal (hadmits predicate hmem hpredicate), rfl, predicate, hmem, hpredicate,
          hcovers row.key hholds⟩
    · exact .inl (by simp only [if_neg hkey])

/-- Where no predicate on the shard key is refused, there is none under a `NOT`, and the truth of a condition goes
    beyond its truth apart from the key only by predicates that cover the key. -/
theorem Row.truth_widens (row : Row) (e : Expr) (underNot : Bool) (hadmits : Admits keys (e.steps underNot)) :
    Widens setting keys (e.steps underNot) underNot row.key (e.truth (row.atom setting keys))
      (e.truth (row.atomApart setting keys)) := by
  induction e using Expr.truth.induct generalizing underNot with
  | case1 operand ih => exact ih underNot hadmits
  | case2 operand ih =>
    rcases ih true hadmits with heq | ⟨hfalse, -, -⟩
    · exact .inl (congrArg not heq)
    · cases hfalse
  | case3 left right ihleft ihright =>
    have hparts : Admits keys (left.steps underNot ++ right.steps underNot) := hadmits
    exact (ihleft underNot hparts.left).and (ihright underNot hparts.right)
  | case4 left right ihleft ihright =>
    have hparts : Admits keys (left.steps underNot ++ right.steps underNot) := hadmits
    exact (ihleft underNot hparts.left).or (ihright underNot hparts.right)
  | case5 e hnested hnot hand hor =>
    rw [Expr.truth.eq_5 _ e hnested hnot hand hor, Expr.truth.eq_5 _ e hnested hnot hand hor]
    exact row.atom_widens e hadmits

end ShardRouting
