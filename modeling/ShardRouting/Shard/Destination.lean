import ShardRouting.Json
import ShardRouting.Text.Case

/-! Physical destinations. Databases fold the case of names, so destinations are compared without it. -/

namespace ShardRouting

/-- The physical schema and table that a logical table is sent to. -/
structure Destination where
  schema : String
  table : String
  deriving DecidableEq, Repr, Inhabited

namespace Destination

/-- Equal but for the case of ASCII letters. -/
def same (d e : Destination) : Bool := Text.sameAscii d.schema e.schema && Text.sameAscii d.table e.table

def display (d : Destination) : String := d.schema ++ "." ++ d.table

def json (d : Destination) : Json := .object [("schema", .string d.schema), ("table", .string d.table)]

theorem same_iff {d e : Destination} :
    d.same e = true ↔ Text.sameAscii d.schema e.schema = true ∧ Text.sameAscii d.table e.table = true := by
  simp [same]

theorem same_refl (d : Destination) : d.same d = true :=
  same_iff.mpr ⟨Text.sameAscii_refl _, Text.sameAscii_refl _⟩

theorem same_symm {d e : Destination} (h : d.same e = true) : e.same d = true :=
  have ⟨hs, ht⟩ := same_iff.mp h
  same_iff.mpr ⟨Text.sameAscii_symm hs, Text.sameAscii_symm ht⟩

theorem same_trans {d e f : Destination} (h₁ : d.same e = true) (h₂ : e.same f = true) : d.same f = true :=
  have ⟨hs₁, ht₁⟩ := same_iff.mp h₁
  have ⟨hs₂, ht₂⟩ := same_iff.mp h₂
  same_iff.mpr ⟨Text.sameAscii_trans hs₁ hs₂, Text.sameAscii_trans ht₁ ht₂⟩

end Destination
end ShardRouting
