/-!
# Lists of numbered items

The SET clause and a condition of several clauses are both lists of items with
a text between them, and each item is written under a number that depends only
on the items before it.  Such a list can be read off its text when its items can.
-/

set_option autoImplicit false

namespace SqlBridge.NumberedText

variable {α : Type} (render : Nat → α → List Char) (next : Nat → α → Nat)

def numberedFrom : Nat → List α → List (List Char)
  | _, [] => []
  | number, item :: items => render number item :: numberedFrom (next number item) items

/-- Items under the same number are told apart by their texts, whatever follows. -/
def Readable : Prop :=
  ∀ number item another rest other, render number item ++ rest = render number another ++ other →
    item = another ∧ rest = other

variable {render next}

theorem flatMap_append_inj {mark : Char} {between : List Char} (readable : Readable render)
    {number : Nat} {first second : List α} {rest other : List Char}
    (restHead : rest.head? ≠ some mark) (otherHead : other.head? ≠ some mark)
    (same : (numberedFrom render next number first).flatMap (fun item => mark :: between ++ item) ++
        rest =
      (numberedFrom render next number second).flatMap (fun item => mark :: between ++ item) ++
        other) :
    first = second ∧ rest = other := by
  induction first generalizing number second with
  | nil =>
    cases second with
    | nil => exact ⟨rfl, same⟩
    | cons another second =>
      rw [numberedFrom, numberedFrom, List.flatMap_nil, List.nil_append] at same
      exact absurd (by rw [same]; rfl) restHead
  | cons item first ih =>
    cases second with
    | nil =>
      rw [numberedFrom, numberedFrom, List.flatMap_nil, List.nil_append] at same
      exact absurd (by rw [← same]; rfl) otherHead
    | cons another second =>
      simp only [numberedFrom, List.flatMap_cons, List.cons_append, List.append_assoc,
        List.cons.injEq, true_and, List.append_cancel_left_eq] at same
      obtain ⟨rfl, tails⟩ := readable _ _ _ _ _ same
      obtain ⟨rfl, rests⟩ := ih tails
      exact ⟨rfl, rests⟩

theorem intercalate_cons (between item : List Char) (items : List (List Char)) :
    between.intercalate (item :: items) = item ++ items.flatMap fun other => between ++ other := by
  induction items generalizing item with
  | nil => simp
  | cons next items ih =>
    rw [List.intercalate_cons_cons, ih, List.flatMap_cons]
    simp only [List.append_assoc]

/-- The list of items is read off, and what stands behind it. -/
theorem intercalate_append_inj {start mark : Char} {between : List Char}
    (readable : Readable render) (starts : ∀ number item, (render number item).head? = some start)
    {number : Nat} {first second : List α} {rest other : List Char}
    (restHead : rest.head? ≠ some start ∧ rest.head? ≠ some mark)
    (otherHead : other.head? ≠ some start ∧ other.head? ≠ some mark)
    (same : (mark :: between).intercalate (numberedFrom render next number first) ++ rest =
      (mark :: between).intercalate (numberedFrom render next number second) ++ other) :
    first = second ∧ rest = other := by
  have head : ∀ item back, (render number item ++ back).head? = some start := by
    intro item back
    rw [List.head?_append, starts, Option.some_or]
  cases first with
  | nil =>
    cases second with
    | nil => exact ⟨rfl, same⟩
    | cons another second =>
      rw [numberedFrom, numberedFrom, intercalate_cons, List.append_assoc] at same
      exact absurd (by rw [show rest = _ from same, head]) restHead.1
  | cons item first =>
    cases second with
    | nil =>
      rw [numberedFrom, numberedFrom, intercalate_cons, List.append_assoc] at same
      exact absurd (by rw [show other = _ from same.symm, head]) otherHead.1
    | cons another second =>
      rw [numberedFrom, numberedFrom, intercalate_cons, intercalate_cons, List.append_assoc,
        List.append_assoc] at same
      obtain ⟨rfl, tails⟩ := readable _ _ _ _ _ same
      obtain ⟨rfl, rests⟩ := flatMap_append_inj readable restHead.2 otherHead.2 tails
      exact ⟨rfl, rests⟩

end SqlBridge.NumberedText
