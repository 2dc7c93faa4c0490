import SqlBridge.Float.Binary64
import SqlBridge.Uuid
import SqlBridge.DateTime

/-!
# SQL values

The values exchanged with the engine, as parameters and in result rows.  Two
values are equal exactly when they have the same constructor and the same
payload, floats by their bit pattern; this makes every value fit to key a map.
-/

set_option autoImplicit false

namespace SqlBridge

/-- The one decision by which byte arrays are compared. -/
instance (priority := 2000) decidableEqBytes : DecidableEq ByteArray :=
  ByteArray.instDecidableEq

inductive Value where
  | null
  | bool (b : Bool)
  | int (n : Int64)
  | float (x : Binary64)
  | text (s : String)
  | bytes (b : ByteArray)
  | uuid (u : Uuid)
  | dateTime (d : DateTime)

namespace Value

instance : Inhabited Value := ⟨null⟩

/-- Values of different constructors are never the same, and floats are the same by
their bits. -/
def same : Value → Value → Bool
  | null, null => true
  | bool a, bool b => decide (a = b)
  | int m, int n => decide (m = n)
  | float x, float y => decide (x.bits = y.bits)
  | text s, text t => decide (s = t)
  | bytes a, bytes b => decide (a = b)
  | uuid u, uuid v => decide (u = v)
  | dateTime d, dateTime e => decide (d = e)
  | _, _ => false

theorem same_iff_eq {a b : Value} : a.same b = true ↔ a = b := by
  constructor
  · intro alike
    cases a <;> cases b <;> simp_all [same]
    next x y => exact congrArg Binary64.mk alike
  · rintro rfl
    cases a <;> simp [same]

instance : DecidableEq Value :=
  fun _ _ => decidable_of_iff _ same_iff_eq

/-- Tells the constructor. -/
def variant : Value → UInt64
  | null => 0
  | bool _ => 1
  | int _ => 2
  | float _ => 3
  | text _ => 4
  | bytes _ => 5
  | uuid _ => 6
  | dateTime _ => 7

/-- The payload as words; texts are in UTF-8, with a word for each byte. -/
def payload : Value → List UInt64
  | null => []
  | bool b => [if b then 1 else 0]
  | int n => [n.toUInt64]
  | float x => [x.bits]
  | text s => s.toUTF8.data.toList.map UInt8.toUInt64
  | bytes b => b.data.toList.map UInt8.toUInt64
  | uuid u => [u.value.toNat / UInt64.size, u.value.toNat % UInt64.size].map UInt64.ofNat
  | dateTime d => (Int64.ofInt d.year).toUInt64 :: d.fields.map UInt64.ofNat

/-- Feeds a value to a hasher: the constructor and then the payload, a text with a mark behind it
that is no byte of a text, and bytes with their number in front.  Every number goes over as a word,
so it is left to `write` how wide it is.  How an identifier or a date is laid out in memory is left
out: the one goes over by its two halves and the other by its fields. -/
def feed {η : Type} (write : η → UInt64 → η) (hasher : η) (value : Value) : η :=
  let begun := write hasher value.variant
  match value with
  | null => begun
  | bool b => write begun (if b then 1 else 0)
  | int n => write begun n.toUInt64
  | float x => write begun x.bits
  | text s => write ((text s).payload.foldl write begun) 0xff
  | bytes b => (bytes b).payload.foldl write (write begun (.ofNat b.size))
  | uuid u => (uuid u).payload.foldl write begun
  | dateTime d => (dateTime d).payload.foldl write begun

instance : Hashable Value :=
  ⟨feed mixHash 0⟩

def isNull : Value → Bool
  | null => true
  | _ => false

/-- Byte strings are large objects. -/
def isBlob : Value → Bool
  | bytes _ => true
  | _ => false

/-- The integer of an integer or truth value. -/
def toInt64? : Value → Option Int64
  | int n => some n
  | bool b => some (if b then 1 else 0)
  | _ => none

def toText? : Value → Option String
  | text s => some s
  | _ => none

/-- The bytes of a byte string, or of a text in UTF-8. -/
def toBytes? : Value → Option ByteArray
  | bytes b => some b
  | text s => some s.toUTF8
  | _ => none

end Value

/-- Host types whose data are SQL values. -/
class ToValue (α : Type) where
  toValue : α → Value

export ToValue (toValue)

instance : ToValue Value := ⟨id⟩
instance : ToValue Bool := ⟨.bool⟩
instance : ToValue Int8 := ⟨fun n => .int n.toInt64⟩
instance : ToValue Int16 := ⟨fun n => .int n.toInt64⟩
instance : ToValue Int32 := ⟨fun n => .int n.toInt64⟩
instance : ToValue Int64 := ⟨.int⟩
instance : ToValue UInt8 := ⟨fun n => .int (.ofNat n.toNat)⟩
instance : ToValue UInt16 := ⟨fun n => .int (.ofNat n.toNat)⟩
instance : ToValue UInt32 := ⟨fun n => .int (.ofNat n.toNat)⟩
instance : ToValue Binary32 := ⟨fun x => .float x.widen⟩
instance : ToValue Binary64 := ⟨.float⟩
instance : ToValue String := ⟨.text⟩
instance : ToValue ByteArray := ⟨.bytes⟩
instance : ToValue (List UInt8) := ⟨fun bytes => .bytes ⟨bytes.toArray⟩⟩
instance : ToValue Uuid := ⟨.uuid⟩
instance : ToValue DateTime := ⟨.dateTime⟩

/-- What is absent is null. -/
instance {α : Type} [ToValue α] : ToValue (Option α) where
  toValue
    | none => .null
    | some a => toValue a

end SqlBridge
