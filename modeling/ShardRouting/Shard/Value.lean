import ShardRouting.Json
import ShardRouting.Number.Checksum
import ShardRouting.Text.Blank

/-! Shard values and their buckets. A value with an integer view goes to its residue modulo the number
    of buckets; any other to the residue of the checksum of its text. -/

namespace ShardRouting
open Number

/-- A value that decides on a shard, from the text of a statement or bound to a parameter. -/
inductive ShardValue where
  | int (value : Int64)
  | float (value : Binary64)
  | text (content : String)
  /-- A date or time, in the form it was written in. -/
  | temporal (content : String)
  deriving DecidableEq, Repr, Inhabited

namespace ShardValue

/-- Reads free text: an integer, else a finite number, else the text itself with its blanks. -/
def ofText (raw : String) : ShardValue :=
  let trimmed := Text.trimChars raw.toList
  match readWord 10 trimmed with
  | some n => .int n
  | none => match Binary64.read trimmed with
    | some x => if x.isFinite then .float x else .text raw
    | none => .text raw

/-- Whole numbers from -(2 ^ 63) to 2 ^ 63, the upper bound counting as the largest word. -/
def wordOfFloat (x : Binary64) : Option Int64 :=
  x.toInt?.bind fun n => if n = Int64.maxValue.toInt + 1 then some Int64.maxValue else word? n

/-- The integer that a value stands for. -/
def toWord? : ShardValue → Option Int64
  | .int n => some n
  | .float x => wordOfFloat x
  | .text s => readWord 10 (Text.trimChars s.toList)
  | .temporal _ => none

/-- The value as plain text. -/
def display : ShardValue → String
  | .int n => toString n.toInt
  | .float x => x.text
  | .text s => s
  | .temporal s => s

def json : ShardValue → Json
  | .int n => .number (toString n.toInt)
  | .float x => .ofFloat x
  | .text s => .string s
  | .temporal s => .string s

/-- The bucket of a value among `shards` buckets; none count as one. -/
def bucket (value : ShardValue) (shards : Nat) : Nat :=
  let shards := max 1 shards
  match value.toWord? with
  | some n => (n.toInt % (shards : Int)).toNat
  | none => (crc32 value.display.toUTF8.toList).toNat % shards

theorem bucket_lt (value : ShardValue) {shards : Nat} (h : 0 < shards) : value.bucket shards < shards := by
  have hm : max 1 shards = shards := by omega
  unfold bucket
  rw [hm]
  split
  · rename_i n _
    have h₀ := Int.emod_nonneg n.toInt (b := (shards : Int)) (by omega)
    have h₁ := Int.emod_lt_of_pos n.toInt (b := (shards : Int)) (by omega)
    dsimp only
    omega
  · exact Nat.mod_lt _ h

end ShardValue
end ShardRouting
