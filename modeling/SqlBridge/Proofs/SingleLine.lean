import SqlBridge.ParamList
import SqlBridge.Proofs.NumberedText

/-!
# Texts of a single line

JSON text has no control character in it: strings escape theirs, and nothing else that is written
has any.  This holds of every value, so a list of values stays on one line of a log.
-/

set_option autoImplicit false

namespace SqlBridge

namespace Json

def SingleLine (text : List Char) : Prop :=
  ∀ c ∈ text, 0x20 ≤ c.toNat

@[simp] theorem singleLine_nil : SingleLine [] := by
  simp [SingleLine]

@[simp] theorem singleLine_cons (c : Char) (text : List Char) :
    SingleLine (c :: text) ↔ 0x20 ≤ c.toNat ∧ SingleLine text := by
  simp [SingleLine]

@[simp] theorem singleLine_append (front back : List Char) :
    SingleLine (front ++ back) ↔ SingleLine front ∧ SingleLine back := by
  simp only [SingleLine, List.mem_append]
  exact ⟨fun all => ⟨fun c listed => all c (.inl listed), fun c listed => all c (.inr listed)⟩,
    fun both c listed => listed.elim (both.1 c) (both.2 c)⟩

theorem singleLine_flatMap {α : Type} {render : α → List Char} {items : List α}
    (lines : ∀ item ∈ items, SingleLine (render item)) : SingleLine (items.flatMap render) := by
  intro c listed
  obtain ⟨item, member, inside⟩ := List.mem_flatMap.mp listed
  exact lines item member c inside

theorem singleLine_intercalate {between : List Char} (line : SingleLine between)
    {texts : List (List Char)} (lines : ∀ text ∈ texts, SingleLine text) :
    SingleLine (between.intercalate texts) := by
  cases texts with
  | nil => simp
  | cons text texts =>
    rw [NumberedText.intercalate_cons, singleLine_append]
    refine ⟨lines text List.mem_cons_self, singleLine_flatMap fun other listed => ?_⟩
    exact (singleLine_append ..).mpr ⟨line, lines other (List.mem_cons_of_mem _ listed)⟩

/-! ## Numbers -/

theorem singleLine_toDigits (n : Nat) : SingleLine (Nat.toDigits 10 n) := by
  intro c listed
  have digit := Nat.isDigit_of_mem_toDigits (by decide) (by decide) listed
  rw [Char.isDigit_iff_toNat] at digit
  exact Nat.le_trans (by decide) digit.1

theorem singleLine_nat (n : Nat) : SingleLine (toString n).toList := by
  rw [Nat.toString_eq_ofList_toDigits, String.toList_ofList]
  exact singleLine_toDigits n

theorem toList_negSucc (n : Nat) :
    (toString (Int.negSucc n)).toList = '-' :: (toString (n + 1)).toList :=
  String.toList_append

theorem singleLine_int (n : Int) : SingleLine (toString n).toList := by
  cases n with
  | ofNat n => exact singleLine_nat n
  | negSucc n =>
    rw [toList_negSucc, singleLine_cons]
    exact ⟨by decide, singleLine_nat (n + 1)⟩

theorem singleLine_zeros (count : Nat) : SingleLine (List.replicate count '0') := by
  intro c listed
  rw [List.eq_of_mem_replicate listed]
  decide

theorem singleLine_positional (decimal : Decimal) :
    SingleLine (FloatFormat.positional decimal) := by
  have digits : SingleLine decimal.digits := singleLine_toDigits decimal.coefficient
  have front : ∀ count, SingleLine (decimal.digits.take count) :=
    fun count c listed => digits c (List.mem_of_mem_take listed)
  have back : ∀ count, SingleLine (decimal.digits.drop count) :=
    fun count c listed => digits c (List.mem_of_mem_drop listed)
  unfold FloatFormat.positional
  dsimp only
  split
  · simp [digits, singleLine_zeros]
  split
  · simp [front, back]
  · simp [digits, singleLine_zeros]

theorem singleLine_scientific (format : FloatFormat) (decimal : Decimal) :
    SingleLine (format.scientific decimal) := by
  have digits : SingleLine decimal.digits := singleLine_toDigits decimal.coefficient
  have exponent := singleLine_toDigits decimal.leadingExponent.natAbs
  have sign : SingleLine
      (if decimal.leadingExponent < 0 then ['-'] else if format.plusSign then ['+'] else []) := by
    split
    · simp
    · split <;> simp
  unfold FloatFormat.scientific
  generalize decimal.digits = written at digits
  rcases written with _ | ⟨digit, _ | ⟨next, rest⟩⟩ <;> simp_all

theorem singleLine_magnitude (format : FloatFormat) (decimal : Decimal) :
    SingleLine (format.magnitude decimal) := by
  unfold FloatFormat.magnitude
  dsimp only
  split
  · exact singleLine_positional decimal
  · exact singleLine_scientific format decimal

theorem singleLine_float (x : Binary64) : SingleLine (floatFormat.render x).toList := by
  unfold FloatFormat.render
  split
  · have sign : SingleLine (if x.isNegative then ['-'] else []) := by split <;> simp
    simp [sign, singleLine_magnitude]
  · have null : SingleLine "null".toList := by simp
    split
    · exact null
    · split <;> exact null

/-! ## Strings -/

theorem singleLine_hex (width n : Nat) : SingleLine (Hex.padded width n) := by
  have digit : ∀ n < 16, 0x20 ≤ (Hex.digit n).toNat := by decide
  induction width generalizing n with
  | zero => simp [Hex.padded]
  | succ width ih => simpa [Hex.padded, ih] using digit (n % 16) (Nat.mod_lt n (by decide))

theorem visible_of_controlLetter? {c letter : Char} (named : controlLetter? c = some letter) :
    0x20 ≤ letter.toNat := by
  have listed : letter = 'b' ∨ letter = 'f' ∨ letter = 'n' ∨ letter = 'r' ∨ letter = 't' := by
    unfold controlLetter? at named
    grind
  rcases listed with rfl | rfl | rfl | rfl | rfl <;> decide

theorem singleLine_escape (c : Char) : SingleLine (escape c) := by
  unfold escape
  split
  · simp
  split
  · simp
  split
  next control =>
    cases named : controlLetter? c with
    | none => simpa using singleLine_hex 4 c.toNat
    | some letter => simpa using visible_of_controlLetter? named
  next above => simpa using above

theorem singleLine_quoted (text : String) : SingleLine (quoted text).toList := by
  have inside : SingleLine (text.toList.flatMap escape) :=
    singleLine_flatMap fun c _ => singleLine_escape c
  simp [quoted, quotedChars, inside]

/-! ## Lists -/

theorem singleLine_array {items : List String} (lines : ∀ item ∈ items, SingleLine item.toList) :
    SingleLine (array items).toList := by
  have inside : SingleLine ([','].intercalate (items.map String.toList)) :=
    singleLine_intercalate (by simp) (by simpa using lines)
  simp [array, inside]

theorem singleLine_object {entries : List (String × String)}
    (lines : ∀ entry ∈ entries, SingleLine entry.2.toList) :
    SingleLine (object entries).toList := by
  have inside : SingleLine ([','].intercalate (entries.map fun entry =>
      (quoted entry.1).toList ++ ':' :: entry.2.toList)) := by
    apply singleLine_intercalate (by simp)
    intro text listed
    obtain ⟨entry, member, rfl⟩ := List.mem_map.mp listed
    simp [singleLine_quoted, lines entry member]
  simpa [object, Function.comp_def] using inside

end Json

theorem Value.singleLine_toJson (value : Value) : Json.SingleLine value.toJson.toList := by
  cases value with
  | null => simp [toJson]
  | bool b => cases b <;> simp [toJson]
  | int n => exact Json.singleLine_int n.toInt
  | float x => exact Json.singleLine_float x
  | text s => exact Json.singleLine_quoted s
  | bytes b =>
    apply Json.singleLine_array
    intro item listed
    obtain ⟨byte, _, rfl⟩ := List.mem_map.mp listed
    exact Json.singleLine_nat byte.toNat
  | uuid u => exact Json.singleLine_quoted u.text
  | dateTime d => exact Json.singleLine_quoted d.text

theorem ParamList.singleLine_toJson (list : ParamList) : Json.SingleLine list.toJson.toList := by
  apply Json.singleLine_object
  intro entry listed
  obtain ⟨param, _, rfl⟩ := List.mem_map.mp listed
  exact param.value.singleLine_toJson

end SqlBridge
