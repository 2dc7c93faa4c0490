import Std.Data.String.ToInt
import SqlBridge.Log.QueryReporter
import SqlBridge.Proofs.SingleLine
import SqlBridge.Proofs.Words

/-!
# Reading logged arguments

The text of logged arguments says which they were, as long as every value in them is of a kind whose
text no other kind has.  A string ends at its closing quote, as each character of it can be read
back from its escaped form; a number ends at a mark that no number holds.  So a value is told from
what follows it, and with it a parameter from the next one.
-/

set_option autoImplicit false

namespace SqlBridge

namespace Hex

theorem value?_digit : ∀ n < 16, value? (digit n) = some n := by
  decide

/-- Padded digits are read back as soon as those in front of the last are. -/
theorem number?_padded_succ {width n : Nat}
    (front : number? (padded width (n / 16)) = some (n / 16)) :
    number? (padded (width + 1) n) = some n := by
  have last := value?_digit (n % 16) (by omega)
  rw [number?] at front ⊢
  rw [padded, List.foldlM_append, front]
  simp [last]
  omega

theorem number?_padded_four {n : Nat} (fits : n < 65536) : number? (padded 4 n) = some n := by
  have none : n / 16 / 16 / 16 / 16 = 0 := by omega
  repeat apply number?_padded_succ
  rw [none]
  rfl

end Hex

namespace Json

/-! ## Strings -/

def unescaped? : Char → Option Char
  | '"' => some '"'
  | '\\' => some '\\'
  | 'b' => some (Char.ofNat 0x08)
  | 'f' => some (Char.ofNat 0x0C)
  | 'n' => some '\n'
  | 'r' => some '\r'
  | 't' => some '\t'
  | _ => none

def readChar : List Char → Option (Char × List Char)
  | '\\' :: 'u' :: a :: b :: c :: d :: rest =>
    (Hex.number? [a, b, c, d]).map fun code => (Char.ofNat code, rest)
  | '\\' :: mark :: rest => (unescaped? mark).map fun c => (c, rest)
  | '"' :: _ => none
  | c :: rest => some (c, rest)
  | [] => none

theorem unescaped?_of_controlLetter? {c letter : Char} (named : controlLetter? c = some letter) :
    unescaped? letter = some c := by
  have back : Char.ofNat c.toNat = c := Char.ofNat_toNat c
  unfold controlLetter? at named
  split at named
  next backspace => cases named; rw [← back, backspace]; rfl
  split at named
  next feed => cases named; rw [← back, feed]; rfl
  split at named
  next line => cases named; rw [line]; rfl
  split at named
  next carriage => cases named; rw [carriage]; rfl
  split at named
  next tab => cases named; rw [tab]; rfl
  next => cases named

theorem readChar_escape (c : Char) (rest : List Char) :
    readChar (escape c ++ rest) = some (c, rest) := by
  unfold escape
  split
  next quote => rw [quote]; rfl
  split
  next backslash => rw [backslash]; rfl
  split
  next control =>
    cases named : controlLetter? c with
    | none =>
      have code : Hex.number? (Hex.padded 4 c.toNat) = some c.toNat :=
        Hex.number?_padded_four (by omega)
      simp only [Hex.padded, List.nil_append, List.cons_append] at code ⊢
      rw [readChar, code, Option.map_some, Char.ofNat_toNat]
    | some letter =>
      have read := unescaped?_of_controlLetter? named
      have plain : letter ≠ 'u' := by
        rintro rfl
        cases read
      simp [readChar, plain, read]
  next quote backslash above => simp [readChar, backslash]

theorem escape_append_inj {c d : Char} {rest other : List Char}
    (same : escape c ++ rest = escape d ++ other) : c = d ∧ rest = other := by
  have read := readChar_escape c rest
  rw [same, readChar_escape, Option.some.injEq, Prod.mk.injEq] at read
  exact ⟨read.1.symm, read.2.symm⟩

theorem escape_append_ne_quote (c : Char) (rest other : List Char) :
    escape c ++ rest ≠ '"' :: other := by
  intro same
  have read := readChar_escape c rest
  rw [same] at read
  cases read

theorem toList_quoted (text : String) :
    (quoted text).toList = '"' :: (text.toList.flatMap escape ++ ['"']) := by
  rw [quoted, String.toList_ofList, quotedChars, List.cons_append]

theorem escaped_append_inj {first second rest other : List Char}
    (same : first.flatMap escape ++ '"' :: rest = second.flatMap escape ++ '"' :: other) :
    first = second ∧ rest = other := by
  induction first generalizing second with
  | nil =>
    cases second with
    | nil => exact ⟨rfl, (List.cons.inj same).2⟩
    | cons d second =>
      rw [List.flatMap_cons, List.append_assoc] at same
      exact absurd same.symm (escape_append_ne_quote d _ _)
  | cons c first ih =>
    cases second with
    | nil =>
      rw [List.flatMap_cons, List.append_assoc] at same
      exact absurd same (escape_append_ne_quote c _ _)
    | cons d second =>
      simp only [List.flatMap_cons, List.append_assoc] at same
      obtain ⟨rfl, tails⟩ := escape_append_inj same
      obtain ⟨rfl, rests⟩ := ih tails
      exact ⟨rfl, rests⟩

theorem quoted_append_inj {first second : String} {rest other : List Char}
    (same : (quoted first).toList ++ rest = (quoted second).toList ++ other) :
    first = second ∧ rest = other := by
  simp only [toList_quoted, List.cons_append, List.append_assoc, List.nil_append, List.cons.injEq,
    true_and] at same
  obtain ⟨texts, rests⟩ := escaped_append_inj same
  exact ⟨String.toList_inj.mp texts, rests⟩

/-! ## Numbers -/

def isNumeral (c : Char) : Bool :=
  c.isDigit || c == '-'

def Ends (text : List Char) : Prop :=
  ∀ c, text.head? = some c → isNumeral c = false

theorem isNumeral_of_mem_nat {n : Nat} {c : Char} (listed : c ∈ (toString n).toList) :
    isNumeral c = true := by
  rw [Nat.toString_eq_ofList_toDigits, String.toList_ofList] at listed
  simp [isNumeral, Nat.isDigit_of_mem_toDigits (by decide) (by decide) listed]

theorem isNumeral_of_mem_int {n : Int} {c : Char} (listed : c ∈ (toString n).toList) :
    isNumeral c = true := by
  cases n with
  | ofNat n => exact isNumeral_of_mem_nat listed
  | negSucc n =>
    rw [toList_negSucc, List.mem_cons] at listed
    rcases listed with rfl | digit
    · rfl
    · exact isNumeral_of_mem_nat digit

theorem nat_ne_nil (n : Nat) : (toString n).toList ≠ [] := by
  rw [Nat.toString_eq_ofList_toDigits, String.toList_ofList]
  exact Nat.toDigits_ne_nil

theorem int_ne_nil (n : Int) : (toString n).toList ≠ [] := by
  cases n with
  | ofNat n => exact nat_ne_nil n
  | negSucc n =>
    rw [toList_negSucc]
    exact List.cons_ne_nil _ _

theorem exists_numeral {text : List Char} (present : text ≠ [])
    (numeral : ∀ c ∈ text, isNumeral c = true) :
    ∃ c rest, text = c :: rest ∧ isNumeral c = true := by
  obtain ⟨c, rest, rfl⟩ := List.exists_cons_of_ne_nil present
  exact ⟨c, rest, rfl, numeral c List.mem_cons_self⟩

theorem numeral_append_inj {first second rest other : List Char}
    (firstNumeral : ∀ c ∈ first, isNumeral c = true)
    (secondNumeral : ∀ c ∈ second, isNumeral c = true) (restEnds : Ends rest)
    (otherEnds : Ends other) (same : first ++ rest = second ++ other) :
    first = second ∧ rest = other := by
  have texts : first = second := by
    rw [← Text.takeWhile_append_of_ends firstNumeral restEnds, same,
      Text.takeWhile_append_of_ends secondNumeral otherEnds]
  rw [texts] at same
  exact ⟨texts, List.append_cancel_left same⟩

/-! ## Lists -/

section Items

variable {α : Type} {valid : α → Prop} {render : α → List Char} {close : Char}

/-- Among valid items, an item can be told from what follows it. -/
def Readable (valid : α → Prop) (render : α → List Char) : Prop :=
  ∀ item another rest other, valid item → valid another → Ends rest → Ends other →
    render item ++ rest = render another ++ other → item = another ∧ rest = other

def Starts (render : α → List Char) (close : Char) : Prop :=
  ∀ item, ∃ c text, render item = c :: text ∧ c ≠ close

theorem ends_items (closes : isNumeral close = false) (items : List α) (rest : List Char) :
    Ends (items.flatMap (fun item => ',' :: render item) ++ close :: rest) := by
  intro c head
  cases items with
  | nil =>
    cases head
    exact closes
  | cons item items =>
    cases head
    rfl

theorem items_append_inj (readable : Readable valid render) (closes : isNumeral close = false)
    (comma : close ≠ ',') {first second : List α} (firstValid : ∀ item ∈ first, valid item)
    (secondValid : ∀ item ∈ second, valid item) {rest other : List Char}
    (same : first.flatMap (fun item => ',' :: render item) ++ close :: rest =
      second.flatMap (fun item => ',' :: render item) ++ close :: other) :
    first = second ∧ rest = other := by
  induction first generalizing second with
  | nil =>
    cases second with
    | nil => exact ⟨rfl, (List.cons.inj same).2⟩
    | cons another second => exact absurd (List.cons.inj same).1 comma
  | cons item first ih =>
    cases second with
    | nil => exact absurd (List.cons.inj same).1.symm comma
    | cons another second =>
      simp only [List.flatMap_cons, List.cons_append, List.append_assoc, List.cons.injEq,
        true_and] at same
      obtain ⟨rfl, tails⟩ := readable _ _ _ _ (firstValid _ List.mem_cons_self)
        (secondValid _ List.mem_cons_self) (ends_items closes first rest)
        (ends_items closes second other) same
      obtain ⟨rfl, rests⟩ := ih (fun item listed => firstValid item (List.mem_cons_of_mem _ listed))
        (fun item listed => secondValid item (List.mem_cons_of_mem _ listed)) tails
      exact ⟨rfl, rests⟩

theorem cons_intercalate (render : α → List Char) (item : α) (items : List α) :
    ',' :: [','].intercalate ((item :: items).map render) =
      (item :: items).flatMap fun item => ',' :: render item := by
  rw [List.map_cons, NumberedText.intercalate_cons, List.flatMap_map, List.flatMap_cons,
    List.cons_append]
  rfl

theorem head?_intercalate (starts : Starts render close) (item : α) (items : List α)
    (rest : List Char) :
    ([','].intercalate ((item :: items).map render) ++ rest).head? ≠ some close := by
  obtain ⟨c, text, rendered, other⟩ := starts item
  rw [List.map_cons, NumberedText.intercalate_cons, rendered]
  simpa using other

theorem list_append_inj (readable : Readable valid render) (starts : Starts render close)
    (closes : isNumeral close = false) (comma : close ≠ ',') {first second : List α}
    (firstValid : ∀ item ∈ first, valid item) (secondValid : ∀ item ∈ second, valid item)
    {rest other : List Char}
    (same : [','].intercalate (first.map render) ++ close :: rest =
      [','].intercalate (second.map render) ++ close :: other) :
    first = second ∧ rest = other := by
  cases first with
  | nil =>
    cases second with
    | nil => exact ⟨rfl, (List.cons.inj same).2⟩
    | cons another second =>
      exact absurd (by rw [← same]; rfl) (head?_intercalate starts another second (close :: other))
  | cons item first =>
    cases second with
    | nil => exact absurd (by rw [same]; rfl) (head?_intercalate starts item first (close :: rest))
    | cons another second =>
      apply items_append_inj readable closes comma firstValid secondValid
      rw [← cons_intercalate, ← cons_intercalate, List.cons_append, List.cons_append, same]

end Items

end Json

/-! ## Values -/

namespace Value

/-- Nulls, truth values, integers, texts and bytes: no two kinds of them are written alike. -/
def isPlain : Value → Bool
  | null | bool _ | int _ | text _ | bytes _ => true
  | float _ | uuid _ | dateTime _ => false

def byteText (byte : UInt8) : List Char :=
  (toString byte.toNat).toList

theorem toList_toJson_bytes (b : ByteArray) :
    (bytes b).toJson.toList = '[' :: ([','].intercalate (b.data.toList.map byteText) ++ [']']) := by
  simp only [toJson, Json.array, String.toList_append, String.toList_intercalate, List.map_map]
  rfl

theorem readable_byteText : Json.Readable (fun _ => True) byteText := by
  intro byte another rest other _ _ restEnds otherEnds same
  obtain ⟨texts, rests⟩ := Json.numeral_append_inj (fun _ => Json.isNumeral_of_mem_nat)
    (fun _ => Json.isNumeral_of_mem_nat) restEnds otherEnds same
  have numbers : byte.toNat = another.toNat := Nat.repr_injective (String.toList_inj.mp texts)
  exact ⟨UInt8.toNat_inj.mp numbers, rests⟩

theorem starts_byteText : Json.Starts byteText ']' := by
  intro byte
  obtain ⟨c, rest, text, numeral⟩ := Json.exists_numeral (Json.nat_ne_nil byte.toNat)
    fun _ => Json.isNumeral_of_mem_nat
  refine ⟨c, rest, text, ?_⟩
  rintro rfl
  cases numeral

def lead : Value → Char
  | null => 'n'
  | bool true => 't'
  | bool false => 'f'
  | int _ => '0'
  | text _ => '"'
  | bytes _ => '['
  | float _ | uuid _ | dateTime _ => ' '

theorem exists_lead {value : Value} (plain : value.isPlain = true) :
    ∃ c rest, value.toJson.toList = c :: rest ∧
      (if Json.isNumeral c then '0' else c) = value.lead := by
  cases value with
  | null => exact ⟨'n', _, rfl, rfl⟩
  | bool b => cases b <;> exact ⟨_, _, rfl, rfl⟩
  | int n =>
    obtain ⟨c, rest, text, numeral⟩ := Json.exists_numeral (Json.int_ne_nil n.toInt)
      fun _ => Json.isNumeral_of_mem_int
    exact ⟨c, rest, text, if_pos numeral⟩
  | text s => exact ⟨'"', _, Json.toList_quoted s, rfl⟩
  | bytes b => exact ⟨'[', _, toList_toJson_bytes b, rfl⟩
  | _ => cases plain

theorem lead_eq {first second : Value} (firstPlain : first.isPlain = true)
    (secondPlain : second.isPlain = true) {rest other : List Char}
    (same : first.toJson.toList ++ rest = second.toJson.toList ++ other) :
    first.lead = second.lead := by
  obtain ⟨c, front, text, lead⟩ := exists_lead firstPlain
  obtain ⟨d, back, another, leads⟩ := exists_lead secondPlain
  rw [text, another] at same
  rw [← lead, ← leads, (List.cons.inj same).1]

inductive Alike : Value → Value → Prop where
  | null : Alike null null
  | bool (b : Bool) : Alike (bool b) (bool b)
  | int (n m : Int64) : Alike (int n) (int m)
  | text (s t : String) : Alike (text s) (text t)
  | bytes (b c : ByteArray) : Alike (bytes b) (bytes c)

theorem alike_of_lead {first second : Value} (plain : first.isPlain = true)
    (leads : first.lead = second.lead) : Alike first second := by
  -- Values of one kind are alike; the starts of two kinds differ.
  rcases first with _ | (_ | _) | _ | _ | _ | _ | _ | _ <;> cases plain <;>
    rcases second with _ | (_ | _) | _ | _ | _ | _ | _ | _ <;>
    first
    | constructor
    | simp [lead] at leads

theorem readable_toJson :
    Json.Readable (fun value : Value => value.isPlain = true) fun value => value.toJson.toList := by
  intro first second rest other firstPlain secondPlain restEnds otherEnds same
  cases alike_of_lead firstPlain (lead_eq firstPlain secondPlain same) with
  | null => exact ⟨rfl, List.append_cancel_left same⟩
  | bool b => exact ⟨rfl, List.append_cancel_left same⟩
  | int n m =>
    obtain ⟨texts, rests⟩ := Json.numeral_append_inj (fun _ => Json.isNumeral_of_mem_int)
      (fun _ => Json.isNumeral_of_mem_int) restEnds otherEnds same
    have numbers : n.toInt = m.toInt := Int.repr_injective (String.toList_inj.mp texts)
    exact ⟨congrArg int (Int64.toInt_inj.mp numbers), rests⟩
  | text s t =>
    obtain ⟨texts, rests⟩ := Json.quoted_append_inj same
    exact ⟨congrArg text texts, rests⟩
  | bytes b c =>
    simp only [toList_toJson_bytes, List.cons_append, List.append_assoc, List.nil_append,
      List.cons.injEq, true_and] at same
    obtain ⟨items, rests⟩ := Json.list_append_inj readable_byteText starts_byteText rfl (by decide)
      (by simp) (by simp) same
    exact ⟨congrArg bytes (ByteArray.ext (Array.toList_inj.mp items)), rests⟩

end Value

/-! ## Parameters -/

namespace Param

def isPlain (param : Param) : Prop :=
  param.value.isPlain = true

def entryText (param : Param) : List Char :=
  (Json.quoted param.placeholder).toList ++ ':' :: param.value.toJson.toList

theorem readable_entryText : Json.Readable isPlain entryText := by
  intro first second rest other firstPlain secondPlain restEnds otherEnds same
  simp only [entryText, List.append_assoc, List.cons_append] at same
  obtain ⟨placeholders, behind⟩ := Json.quoted_append_inj same
  obtain ⟨values, rests⟩ := Value.readable_toJson _ _ _ _ firstPlain secondPlain restEnds otherEnds
    (List.cons.inj behind).2
  have params : first = second := by
    cases first
    cases second
    cases placeholders
    cases values
    rfl
  exact ⟨params, rests⟩

theorem starts_entryText : Json.Starts entryText '\x7d' := by
  intro param
  exact ⟨'"', _, by rw [entryText, Json.toList_quoted, List.cons_append], by decide⟩

end Param

namespace ParamList

theorem toList_toJson (list : ParamList) :
    list.toJson.toList =
      '\x7b' :: ([','].intercalate (list.params.map Param.entryText) ++ ['\x7d']) := by
  simp [toJson, Json.object, Function.comp_def]
  rfl

theorem toJson_inj {first second : ParamList} (firstPlain : ∀ param ∈ first.params, param.isPlain)
    (secondPlain : ∀ param ∈ second.params, param.isPlain)
    (same : first.toJson = second.toJson) : first = second := by
  have texts := congrArg String.toList same
  rw [toList_toJson, toList_toJson, List.cons.injEq] at texts
  obtain ⟨params, _⟩ := Json.list_append_inj Param.readable_entryText Param.starts_entryText rfl
    (by decide) firstPlain secondPlain texts.2
  exact congrArg ParamList.mk params

end ParamList

namespace QueryReporter

/-- The text of logged arguments is a single line, and it tells plain arguments apart from any other
plain ones and from none. -/
theorem renderArguments_faithful :
    (∀ arguments, Json.SingleLine (renderArguments arguments).toList) ∧
    ∀ first second : Option ParamList,
      (∀ list ∈ first, ∀ param ∈ list.params, param.isPlain) →
      (∀ list ∈ second, ∀ param ∈ list.params, param.isPlain) →
        (renderArguments first = renderArguments second ↔ first = second) := by
  refine ⟨?_, ?_⟩
  · rintro (_ | list)
    · simp [renderArguments]
    · exact list.singleLine_toJson
  · intro first second firstPlain secondPlain
    refine ⟨fun same => ?_, congrArg renderArguments⟩
    have braced : ∀ list : ParamList, "null" ≠ list.toJson := by
      intro list null
      have texts := congrArg String.toList null
      rw [ParamList.toList_toJson] at texts
      cases texts
    rcases first with _ | list <;> rcases second with _ | other
    · rfl
    · exact absurd same (braced other)
    · exact absurd same.symm (braced list)
    · exact congrArg some (ParamList.toJson_inj (firstPlain list rfl) (secondPlain other rfl) same)

/-- One text that looks like the end of an entry and the start of the next, and the two entries that
it looks like. -/
theorem renderArguments_faithful_lookalike :
    renderArguments (some ⟨[⟨":a", .text "1,\n\":b\":2"⟩]⟩) ≠
      renderArguments (some ⟨[⟨":a", .int 1⟩, ⟨":b", .int 2⟩]⟩) := by
  have told := renderArguments_faithful.2 (some ⟨[⟨":a", .text "1,\n\":b\":2"⟩]⟩)
    (some ⟨[⟨":a", .int 1⟩, ⟨":b", .int 2⟩]⟩) (by simp [Param.isPlain, Value.isPlain])
    (by simp [Param.isPlain, Value.isPlain])
  rw [ne_eq, told]
  decide

end QueryReporter

end SqlBridge
