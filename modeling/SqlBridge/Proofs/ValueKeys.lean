import Mathlib.Data.Finset.Card
import SqlBridge.Value.Map

/-!
# Values as keys

Values are the same exactly if they have one constructor and one payload, down to the bits, and
then they feed the same to a hasher.  So a map keyed by values is a finite function on constructors
with payloads: it holds what was last inserted and not removed since.
-/

set_option autoImplicit false

namespace SqlBridge

/-- Months and days are small numbers, so every field below the year fits a word. -/
theorem DateTime.lt_of_mem_fields {d : DateTime} {field : Nat} (listed : field ∈ d.fields) :
    field < UInt64.size := by
  have days : d.day ≤ 31 := by
    have last := d.day_in_range.2
    unfold Calendar.daysInMonth at last
    grind
  have months := d.month_in_range
  have times := d.time_in_range
  have nanoseconds := d.nanosecond_in_range
  simp only [fields, List.mem_cons, List.not_mem_nil, or_false] at listed
  unfold UInt64.size
  omega

namespace Value

/-! ## What tells values apart -/

theorem map_ofNat_inj {numbers others : List Nat} (fit : ∀ n ∈ numbers, n < UInt64.size)
    (otherFit : ∀ n ∈ others, n < UInt64.size)
    (alike : numbers.map UInt64.ofNat = others.map UInt64.ofNat) : numbers = others := by
  have read : ∀ list : List Nat, (∀ n ∈ list, n < UInt64.size) →
      (list.map UInt64.ofNat).map UInt64.toNat = list := by
    intro list fit
    rw [List.map_map]
    exact (List.map_congr_left fun n listed => UInt64.toNat_ofNat_of_lt' (fit n listed)).trans
      (List.map_id list)
  rw [← read numbers fit, alike, read others otherFit]

theorem map_toUInt64_inj {a b : ByteArray}
    (alike : a.data.toList.map UInt8.toUInt64 = b.data.toList.map UInt8.toUInt64) : a = b := by
  have injective : Function.Injective UInt8.toUInt64 := fun _ _ => UInt8.toUInt64_inj.mp
  exact ByteArray.ext (Array.toList_inj.mp (injective.list_map alike))

theorem int_payload_inj {m n : Int64} (alike : (int m).payload = (int n).payload) : m = n := by
  cases m
  cases n
  exact congrArg Int64.ofUInt64 (List.head_eq_of_cons_eq alike)

theorem uuid_payload_inj {u v : Uuid} (alike : (uuid u).payload = (uuid v).payload) : u = v := by
  have fit : ∀ id : Uuid, ∀ n ∈ [id.value.toNat / UInt64.size, id.value.toNat % UInt64.size],
      n < UInt64.size := by
    intro id n listed
    simp only [List.mem_cons, List.not_mem_nil, or_false] at listed
    rcases listed with rfl | rfl
    · exact Nat.div_lt_of_lt_mul id.value.isLt
    · exact Nat.mod_lt _ (by decide)
  obtain ⟨high, low⟩ := List.cons.inj (map_ofNat_inj (fit u) (fit v) alike)
  have whole : u.value.toNat = v.value.toNat := by
    rw [← Nat.div_add_mod u.value.toNat UInt64.size, high, List.head_eq_of_cons_eq low,
      Nat.div_add_mod]
  exact congrArg Uuid.mk (BitVec.eq_of_toNat_eq whole)

theorem year_inj {d e : DateTime}
    (alike : (Int64.ofInt d.year).toUInt64 = (Int64.ofInt e.year).toUInt64) : d.year = e.year := by
  have read : ∀ date : DateTime, (Int64.ofInt date.year).toInt = date.year := by
    intro date
    have range := date.year_in_range
    exact Int64.toInt_ofInt_of_le (by omega) (by omega)
  rw [← read d, ← read e]
  exact congrArg (fun word => Int64.toInt ⟨word⟩) alike

theorem dateTime_payload_inj {d e : DateTime}
    (alike : (dateTime d).payload = (dateTime e).payload) : d = e := by
  obtain ⟨years, rest⟩ := List.cons.inj alike
  have year := year_inj years
  have fields := map_ofNat_inj (fun _ => DateTime.lt_of_mem_fields)
    (fun _ => DateTime.lt_of_mem_fields) rest
  cases d
  cases e
  simp only [DateTime.fields, List.cons.injEq, and_true] at fields
  simpa [DateTime.mk.injEq] using ⟨year, fields⟩

theorem eq_of_payload_eq {a b : Value} (variants : a.variant = b.variant)
    (payloads : a.payload = b.payload) : a = b := by
  cases a <;> cases b <;> try (simp [variant] at variants; done)
  case null => rfl
  case bool a b =>
    revert a b
    decide
  case int m n => exact congrArg int (int_payload_inj payloads)
  case float x y =>
    have bits : x.bits = y.bits := List.head_eq_of_cons_eq payloads
    exact congrArg (fun word => float ⟨word⟩) bits
  case text s t =>
    exact congrArg text (String.toByteArray_inj.mp (map_toUInt64_inj payloads))
  case bytes a b => exact congrArg bytes (map_toUInt64_inj payloads)
  case uuid u v => exact congrArg uuid (uuid_payload_inj payloads)
  case dateTime d e => exact congrArg dateTime (dateTime_payload_inj payloads)

def identity (value : Value) : UInt64 × List UInt64 :=
  (value.variant, value.payload)

theorem identity_injective : Function.Injective identity :=
  fun _ _ alike => eq_of_payload_eq (congrArg Prod.fst alike) (congrArg Prod.snd alike)

theorem same_iff {a b : Value} :
    a.same b = true ↔ a.variant = b.variant ∧ a.payload = b.payload := by
  rw [same_iff_eq]
  constructor
  · rintro rfl
    exact ⟨rfl, rfl⟩
  · rintro ⟨variants, payloads⟩
    exact eq_of_payload_eq variants payloads

theorem equivalence_same : Equivalence fun a b : Value => a.same b = true where
  refl _ := same_iff_eq.mpr rfl
  symm alike := same_iff_eq.mpr (same_iff_eq.mp alike).symm
  trans alike other := same_iff_eq.mpr ((same_iff_eq.mp alike).trans (same_iff_eq.mp other))

theorem feed_congr {η : Type} {a b : Value} (write : η → UInt64 → η) (hasher : η)
    (alike : a.same b = true) : a.feed write hasher = b.feed write hasher := by
  rw [same_iff_eq.mp alike]

end Value

namespace ValueMap

/-! ## The finite function -/

/-- What an operation leaves under an identity, if it bears on it: a value, or nothing. -/
def Operation.leaves? (identity : UInt64 × List UInt64) : Operation → Option (Option Value)
  | .insert key value => if key.identity = identity then some (some value) else none
  | .get _ => none
  | .remove key => if key.identity = identity then some none else none

def standing (past : List Operation) (identity : UInt64 × List UInt64) : Option Value :=
  (past.filterMap (Operation.leaves? identity)).getLast?.join

def support (past : List Operation) : Finset (UInt64 × List UInt64) :=
  (past.map fun operation => operation.key.identity).toFinset.filter fun identity =>
    (standing past identity).isSome

/-- What the finite function answers to operations that come after others, each answer with the
number of values that stand after it. -/
def answersAfter (past : List Operation) : List Operation → List (Option Value × Nat)
  | [] => []
  | operation :: rest =>
    (standing past operation.key.identity, (support (past ++ [operation])).card) ::
      answersAfter (past ++ [operation]) rest

section

variable {past : List Operation} {identity : UInt64 × List UInt64}

theorem standing_concat (operation : Operation) :
    standing (past ++ [operation]) identity =
      (operation.leaves? identity).getD (standing past identity) := by
  unfold standing
  cases bears : operation.leaves? identity with
  | none => simp [bears]
  | some left => simp [bears]

theorem exists_of_leaves? {operation : Operation} {left : Option Value}
    (bears : operation.leaves? identity = some left) : operation.key.identity = identity := by
  cases operation with
  | get key => cases bears
  | insert key value =>
    simp only [Operation.leaves?, Option.ite_none_right_eq_some] at bears
    exact bears.1
  | remove key =>
    simp only [Operation.leaves?, Option.ite_none_right_eq_some] at bears
    exact bears.1

/-- Only what an operation bears on can stand. -/
theorem mem_support : identity ∈ support past ↔ (standing past identity).isSome := by
  rw [support, Finset.mem_filter, List.mem_toFinset, List.mem_map]
  constructor
  · exact And.right
  · intro stands
    refine ⟨?_, stands⟩
    by_contra absent
    have untouched : past.filterMap (Operation.leaves? identity) = [] := by
      rw [List.filterMap_eq_nil_iff]
      intro operation listed
      cases bears : operation.leaves? identity with
      | none => rfl
      | some left => exact absurd ⟨operation, listed, exists_of_leaves? bears⟩ absent
    rw [standing, untouched] at stands
    cases stands

theorem support_concat_insert (key value : Value) :
    support (past ++ [.insert key value]) = insert key.identity (support past) := by
  ext identity
  rw [Finset.mem_insert, mem_support, mem_support, standing_concat, Operation.leaves?]
  by_cases same : key.identity = identity
  · simp [same]
  · simp [same, Ne.symm same]

theorem support_concat_get (key : Value) : support (past ++ [.get key]) = support past := by
  ext identity
  rw [mem_support, mem_support, standing_concat]
  rfl

theorem support_concat_remove (key : Value) :
    support (past ++ [.remove key]) = (support past).erase key.identity := by
  ext identity
  rw [Finset.mem_erase, mem_support, mem_support, standing_concat, Operation.leaves?]
  by_cases same : key.identity = identity
  · simp [same]
  · simp [same, Ne.symm same]

end

/-! ## The map keeps up with it -/

theorem beq_iff {key other : Value} : (key == other) = true ↔ key.identity = other.identity :=
  beq_iff_eq.trans Value.identity_injective.eq_iff.symm

theorem lookup_insert (map : ValueMap) (key value other : Value) :
    lookup (map.insert key value) other =
      if key.identity = other.identity then some value else map.lookup other := by
  rw [lookup, Std.HashMap.getElem?_insert]
  exact if_congr beq_iff rfl rfl

theorem lookup_erase (map : ValueMap) (key other : Value) :
    lookup (map.erase key) other =
      if key.identity = other.identity then none else map.lookup other := by
  rw [lookup, Std.HashMap.getElem?_erase]
  exact if_congr beq_iff rfl rfl

structure Holds (map : ValueMap) (past : List Operation) : Prop where
  found : ∀ key, map.lookup key = standing past key.identity
  counted : map.size = (support past).card

namespace Holds

theorem empty : Holds .empty [] where
  found _ := Std.HashMap.getElem?_empty
  counted := Std.HashMap.size_empty

variable {map : ValueMap} {past : List Operation}

theorem mem_iff (holds : Holds map past) (key : Value) :
    key ∈ map ↔ key.identity ∈ support past := by
  rw [mem_support, ← holds.found, ← Std.HashMap.isSome_getElem?_iff_mem]
  rfl

theorem insert (holds : Holds map past) (key value : Value) :
    Holds (map.insert key value) (past ++ [.insert key value]) where
  found other := by
    rw [lookup_insert, standing_concat, holds.found, Operation.leaves?]
    split <;> rfl
  counted := by
    rw [Std.HashMap.size_insert, support_concat_insert, holds.counted]
    by_cases present : key ∈ map
    · rw [if_pos present, Finset.insert_eq_of_mem ((holds.mem_iff key).mp present)]
    · rw [if_neg present, Finset.card_insert_of_notMem (mt (holds.mem_iff key).mpr present)]

theorem get (holds : Holds map past) (key : Value) : Holds map (past ++ [.get key]) where
  found other := by
    rw [standing_concat, holds.found]
    rfl
  counted := by rw [support_concat_get, holds.counted]

theorem remove (holds : Holds map past) (key : Value) :
    Holds (map.erase key) (past ++ [.remove key]) where
  found other := by
    rw [lookup_erase, standing_concat, holds.found, Operation.leaves?]
    split <;> rfl
  counted := by
    rw [Std.HashMap.size_erase, support_concat_remove, holds.counted]
    by_cases present : key ∈ map
    · rw [if_pos present, Finset.card_erase_of_mem ((holds.mem_iff key).mp present)]
    · rw [if_neg present, Finset.erase_eq_of_notMem (mt (holds.mem_iff key).mpr present)]

/-- An operation is answered from what stands, and then the map holds what stands after it. -/
theorem step (holds : Holds map past) (operation : Operation) :
    (operation.step map).1 = standing past operation.key.identity ∧
      Holds (operation.step map).2 (past ++ [operation]) := by
  cases operation with
  | insert key value => exact ⟨holds.found key, holds.insert key value⟩
  | get key => exact ⟨holds.found key, holds.get key⟩
  | remove key => exact ⟨holds.found key, holds.remove key⟩

theorem answers_eq (holds : Holds map past) (operations : List Operation) :
    answers operations map = answersAfter past operations := by
  induction operations generalizing map past with
  | nil => rfl
  | cons operation rest ih =>
    obtain ⟨answer, later⟩ := holds.step operation
    change ((operation.step map).1, (operation.step map).2.size) ::
      answers rest (operation.step map).2 = _
    rw [answersAfter, answer, later.counted, ih later]

end Holds

/-- Values are lawful keys: being the same is an equivalence that goes by constructor and payload,
floats by their bits; values that are the same feed the same to every hasher; and whatever is done
with a map that begins empty, its answers and its size are those of the finite function from
constructors and payloads to what was last inserted and not removed since. -/
theorem answers_lawful :
    (Equivalence fun a b : Value => a.same b = true) ∧
      (∀ a b : Value, a.same b = true ↔ a.variant = b.variant ∧ a.payload = b.payload) ∧
      (∀ x y : Binary64, (Value.float x).same (.float y) = true ↔ x.bits = y.bits) ∧
      (∀ (η : Type) (write : η → UInt64 → η) (hasher : η) (a b : Value), a.same b = true →
        a.feed write hasher = b.feed write hasher) ∧
      ∀ operations, answers operations .empty = answersAfter [] operations := by
  refine ⟨Value.equivalence_same, fun _ _ => Value.same_iff, ?_, ?_, Holds.empty.answers_eq⟩
  · intro x y
    exact decide_eq_true_iff
  · intro η write hasher a b alike
    exact Value.feed_congr write hasher alike

/-- Two NaNs, both zeros, and one as a number, a truth value, a text and a byte. -/
def lookalikes : List Operation :=
  [.insert (.float ⟨0x7ff8000000000000⟩) (.int 1), .insert (.float ⟨0x7ff8000000000001⟩) (.int 2),
    .insert (.float ⟨0⟩) (.int 3), .insert (.float ⟨0x8000000000000000⟩) (.int 4),
    .insert (.float ⟨0x7ff8000000000000⟩) (.int 5), .remove (.float ⟨0⟩),
    .get (.float ⟨0x8000000000000000⟩), .insert (.int 1) (.int 6), .get (.bool true),
    .insert (.text "1") (.int 7), .remove (.bytes ⟨#[0x31]⟩), .remove (.text "1")]

theorem answers_lawful_lookalikes :
    answers lookalikes .empty =
      [(none, 1), (none, 2), (none, 3), (none, 4), (some (.int 1), 4), (some (.int 3), 3),
        (some (.int 4), 3), (none, 4), (none, 4), (none, 5), (none, 5), (some (.int 7), 4)] := by
  rw [answers_lawful.2.2.2.2 lookalikes]
  decide +kernel

end ValueMap

end SqlBridge
