import ShardRouting.Routing.Validation
import ShardRouting.Routing.Walk

/-! Successful runs. What a step of the routing has done when it comes to its end without an error, and
    that no step but the binding, the updating and the closing of tables touches the tables. -/

namespace ShardRouting
open Sql

/-- Where the engine sends a table, if it sends it anywhere. -/
def Setting.sent? (setting : Setting) (schema : Option String) (table : String) (value : Option ShardValue) :
    Option Destination :=
  match setting.engine.route setting.context schema table value with
  | .ok route => route
  | .error _ => none

theorem Setting.sent?_iff {setting : Setting} {schema : Option String} {table : String}
    {value : Option ShardValue} {route : Destination} :
    setting.sent? schema table value = some route ↔
      setting.engine.route setting.context schema table value = .ok (some route) := by
  unfold sent?
  cases setting.engine.route setting.context schema table value <;> simp

/-- What a result is read for shows that there is one. -/
theorem exists_ok_of_map {ε α β : Type} {x : Except ε α} {f : α → β} {b : β} (h : x.map f = .ok b) :
    ∃ a, x = .ok a ∧ f a = b := by
  cases x with
  | error e => cases h
  | ok a => exact ⟨a, rfl, Except.ok.inj h⟩

namespace Walk

variable {α β : Type} {setting : Setting} {p q : Progress}

/-! ### Sequences -/

theorem bind_iff {x : Walk α} {f : α → Walk β} {b : β} :
    (x >>= f) p = .ok b q ↔ ∃ a p', x p = .ok a p' ∧ f a p' = .ok b q := by
  change EStateM.bind x f p = .ok b q ↔ _
  unfold EStateM.bind
  cases hx : x p with
  | ok a p' =>
    constructor
    · exact fun h => ⟨a, p', rfl, h⟩
    · rintro ⟨_, _, ⟨⟩, h⟩
      exact h
  | error e p' => simp

theorem pure_iff {a b : α} : (pure a : Walk α) p = .ok b q ↔ a = b ∧ p = q := by
  change EStateM.Result.ok a p = .ok b q ↔ _
  simp

theorem throw_iff {e : RoutingError} {a : α} : (throw e : Walk α) p = .ok a q ↔ False := by
  change EStateM.Result.error e p = .ok a q ↔ _
  simp

theorem get_iff {a : Progress} : (get : Walk Progress) p = .ok a q ↔ a = p ∧ q = p := by
  change EStateM.Result.ok p p = .ok a q ↔ _
  simp [eq_comm]

theorem modify_iff {f : Progress → Progress} {u : Unit} : (modify f : Walk Unit) p = .ok u q ↔ q = f p := by
  change EStateM.Result.ok () (f p) = .ok u q ↔ _
  simp [eq_comm]

theorem map_iff {x : Walk α} {f : α → β} {b : β} :
    (x >>= fun a => pure (f a)) p = .ok b q ↔ ∃ a, x p = .ok a q ∧ f a = b := by
  simp only [bind_iff, pure_iff, exists_eq_right_right]

/-! ### Steps that leave the tables alone -/

/-- Two states with the same open scope and the same settled tables. -/
structure Quiet (p q : Progress) : Prop where
  scope : q.scope = p.scope
  routed : q.routed = p.routed

theorem Quiet.refl (p : Progress) : Quiet p p := ⟨rfl, rfl⟩

theorem Quiet.trans {r : Progress} (h : Quiet p q) (h' : Quiet q r) : Quiet p r :=
  ⟨h'.scope.trans h.scope, h'.routed.trans h.routed⟩

theorem tell_iff {event : Event} {u : Unit} : tell event p = .ok u q ↔ q = { p with log := event :: p.log } :=
  modify_iff

/-- A step that writes to the log at most. -/
structure Silent (p q : Progress) : Prop extends Quiet p q where
  schemas : q.schemas = p.schemas

theorem Silent.refl (p : Progress) : Silent p p := ⟨.refl p, rfl⟩

theorem Silent.trans {r : Progress} (h : Silent p q) (h' : Silent q r) : Silent p r :=
  ⟨h.toQuiet.trans h'.toQuiet, h'.schemas.trans h.schemas⟩

theorem tell_silent {event : Event} {u : Unit} (h : tell event p = .ok u q) : Silent p q := by
  rw [tell_iff.mp h]
  exact ⟨⟨rfl, rfl⟩, rfl⟩

theorem addSchema_quiet {schema : String} {u : Unit} (h : addSchema schema p = .ok u q) : Quiet p q := by
  rw [modify_iff.mp h]
  exact ⟨rfl, rfl⟩

/-- The engine answers by its arguments. -/
theorem ask_iff {schema : Option String} {table : String} {value : Option ShardValue}
    {route : Option Destination} :
    ask setting schema table value p = .ok route q ↔
      setting.engine.route setting.context schema table value = .ok route ∧
        q = { p with log := .asked schema table value :: p.log } := by
  unfold ask
  simp only [bind_iff, tell_iff]
  cases setting.engine.route setting.context schema table value with
  | ok found =>
    constructor
    · rintro ⟨_, _, rfl, h⟩
      obtain ⟨rfl, rfl⟩ := pure_iff.mp h
      exact ⟨rfl, rfl⟩
    · rintro ⟨hfound, rfl⟩
      exact ⟨(), _, rfl, pure_iff.mpr ⟨Except.ok.inj hfound, rfl⟩⟩
  | error e => simp [throw_iff]

theorem ask_silent {schema : Option String} {table : String} {value : Option ShardValue}
    {route : Option Destination} (h : ask setting schema table value p = .ok route q) : Silent p q := by
  rw [(ask_iff.mp h).2]
  exact ⟨⟨rfl, rfl⟩, rfl⟩

theorem forM_tell (event : α → Event) (l : List α) (p : Progress) :
    ∃ q, (l.forM fun a => tell (event a)) p = .ok () q ∧ Silent p q := by
  induction l generalizing p with
  | nil => exact ⟨p, rfl, .refl p⟩
  | cons a l ih =>
    obtain ⟨q, hq, hsilent⟩ := ih { p with log := event a :: p.log }
    exact ⟨q, bind_iff.mpr ⟨(), _, tell_iff.mpr rfl, hq⟩, ⟨hsilent.scope, hsilent.routed⟩, hsilent.schemas⟩

/-! ### Scopes -/

theorem inScope_iff {x : Walk α} {r : α × Scope} :
    inScope x p = .ok r q ↔ ∃ p', x { p with scope := {} } = .ok r.1 p' ∧ r.2 = p'.scope ∧
      q = { p' with scope := p.scope } := by
  obtain ⟨a, scope⟩ := r
  unfold inScope
  simp only [bind_iff, get_iff, modify_iff, pure_iff]
  constructor
  · rintro ⟨_, _, ⟨rfl, rfl⟩, _, _, rfl, a', p', hx, _, _, ⟨rfl, rfl⟩, _, _, rfl, h, rfl⟩
    obtain ⟨rfl, rfl⟩ := Prod.mk.inj h
    exact ⟨_, hx, rfl, rfl⟩
  · rintro ⟨p', hx, rfl, rfl⟩
    exact ⟨_, _, ⟨rfl, rfl⟩, (), _, rfl, a, p', hx, _, _, ⟨rfl, rfl⟩, (), _, rfl, rfl, rfl⟩

/-! ### Bound tables -/

theorem boundTable_eq (column : ColumnRef) (p : Progress) :
    boundTable column p = match p.scope.resolve column.key with
      | .unknown => .ok none p
      | .bound index binding => .ok (some (index, binding)) p
      | .ambiguous => .error (.ambiguous column.display) p := by
  change (match p.scope.resolve column.key with
    | .unknown => pure none
    | .bound index binding => pure (some (index, binding))
    | .ambiguous => throw (.ambiguous column.display) : Walk _) p = _
  cases p.scope.resolve column.key <;> rfl

theorem resolve_bound {scope : Scope} {key : String} {index : Nat} {binding : Binding}
    (h : scope.resolve key = .bound index binding) : scope.bindings[index]? = some binding := by
  unfold Scope.resolve at h
  split at h
  · cases h
  · cases h
  · split at h
    · rename_i hfound
      cases h
      exact hfound
    · cases h

end Walk
end ShardRouting
