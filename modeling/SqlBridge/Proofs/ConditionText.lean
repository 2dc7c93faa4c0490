import SqlBridge.Sql.Condition
import SqlBridge.Proofs.DialectText
import SqlBridge.Proofs.NumberedText

/-!
# Reading conditions

The text of a condition of comparisons and null tests says which clauses it has:
their columns, in order, and what is asked of each.
-/

set_option autoImplicit false

namespace SqlBridge

open NumberedText

inductive Test where
  | compare (comparison : Comparison)
  | isNull
  | isNotNull
  deriving DecidableEq

namespace Test

def text (number : Nat) : Test → String
  | compare comparison => " " ++ comparison.sql ++ " " ++ Conjunction.placeholder number
  | isNull => " IS NULL"
  | isNotNull => " IS NOT NULL"

/-- Only comparisons have an argument. -/
def next (number : Nat) : Test → Nat
  | compare _ => number + 1
  | isNull => number
  | isNotNull => number

theorem text_append_inj {number : Nat} {test other : Test} {rest back : List Char}
    (same : (test.text number).toList ++ rest = (other.text number).toList ++ back) :
    test = other ∧ rest = back := by
  -- The operators are told apart by what stands between the first two blanks.
  cases test with
  | compare comparison =>
    cases other with
    | compare another =>
      cases comparison <;> cases another <;>
        simp [text, Comparison.sql] at same ⊢ <;> exact same
    | isNull => cases comparison <;> simp [text, Comparison.sql] at same
    | isNotNull => cases comparison <;> simp [text, Comparison.sql] at same
  | isNull =>
    cases other with
    | compare another => cases another <;> simp [text, Comparison.sql] at same
    | isNull => simpa [text] using same
    | isNotNull => simp [text] at same
  | isNotNull =>
    cases other with
    | compare another => cases another <;> simp [text, Comparison.sql] at same
    | isNull => simp [text] at same
    | isNotNull => simpa [text] using same

end Test

def Clause.shape? : Clause → Option (String × Test)
  | .raw _ _ => none
  | .compare column comparison _ => some (column, .compare comparison)
  | .isNull column => some (column, .isNull)
  | .isNotNull column => some (column, .isNotNull)

namespace Conjunction

def shapeText (number : Nat) (shape : String × Test) : String :=
  Identifier.quote shape.1 ++ shape.2.text number

def nextNumber (number : Nat) (shape : String × Test) : Nat :=
  shape.2.next number

theorem head?_shapeText (number : Nat) (shape : String × Test) :
    (shapeText number shape).toList.head? = some '[' := by
  rw [shapeText, String.toList_append, Identifier.toList_quote]
  rfl

theorem shapeText_append_inj {number : Nat} {shape other : String × Test} {rest back : List Char}
    (same : (shapeText number shape).toList ++ rest = (shapeText number other).toList ++ back) :
    shape = other ∧ rest = back := by
  have ends : ∀ (test : Test) (tail : List Char),
      Identifier.Ends ((test.text number).toList ++ tail) := by
    intro test tail
    cases test <;> simp [Test.text, Identifier.Ends]
  rw [shapeText, shapeText, String.toList_append, String.toList_append, List.append_assoc,
    List.append_assoc] at same
  obtain ⟨columns, tests⟩ := Identifier.quote_append_inj (ends _ _) (ends _ _) same
  obtain ⟨asked, rests⟩ := Test.text_append_inj tests
  exact ⟨Prod.ext columns asked, rests⟩

def shapeTexts : Nat → List (String × Test) → List String
  | _, [] => []
  | number, shape :: shapes =>
    shapeText number shape :: shapeTexts (nextNumber number shape) shapes

theorem compileClause_of_shape {clause : Clause} {shape : String × Test}
    (plain : clause.shape? = some shape) (arguments : ParamList) :
    (compileClause {} arguments clause).1 = shapeText arguments.size shape ∧
      (compileClause {} arguments clause).2.size = nextNumber arguments.size shape := by
  cases clause with
  | raw sql own => cases plain
  | compare column comparison value =>
    cases plain
    refine ⟨?_, ParamList.size_add ..⟩
    simp [compileClause, shapeText, Test.text, String.append_assoc]
  | isNull column =>
    cases plain
    exact ⟨rfl, rfl⟩
  | isNotNull column =>
    cases plain
    exact ⟨rfl, rfl⟩

theorem compileClauses_of_shapes {clauses : List Clause} {shapes : List (String × Test)}
    (plain : clauses.map Clause.shape? = shapes.map some) (arguments : ParamList) :
    (compileClauses {} arguments clauses).1 = shapeTexts arguments.size shapes := by
  induction clauses generalizing shapes arguments with
  | nil =>
    cases shapes with
    | nil => rfl
    | cons shape shapes => cases plain
  | cons clause clauses ih =>
    cases shapes with
    | nil => cases plain
    | cons shape shapes =>
      rw [List.map_cons, List.map_cons, List.cons.injEq] at plain
      obtain ⟨text, size⟩ := compileClause_of_shape plain.1 arguments
      simp only [compileClauses, shapeTexts, text, ← size, ih plain.2]

def parenthesised (number : Nat) (shape : String × Test) : List Char :=
  ("(" ++ shapeText number shape ++ ")").toList

theorem readable_parenthesised : Readable parenthesised := by
  intro number shape other rest back same
  simp only [parenthesised, String.toList_append, List.append_assoc] at same
  obtain ⟨shapes, rests⟩ := shapeText_append_inj (List.append_cancel_left same)
  exact ⟨shapes, List.append_cancel_left rests⟩

theorem head?_parenthesised (number : Nat) (shape : String × Test) :
    (parenthesised number shape).head? = some '(' := by
  simp [parenthesised]

theorem map_parenthesised (number : Nat) (shapes : List (String × Test)) :
    (shapeTexts number shapes).map (fun part => ("(" ++ part ++ ")").toList) =
      numberedFrom parenthesised nextNumber number shapes := by
  induction shapes generalizing number with
  | nil => rfl
  | cons shape shapes ih => rw [shapeTexts, List.map_cons, ih, numberedFrom, parenthesised]

theorem toList_join (number : Nat) (shape next : String × Test) (shapes : List (String × Test)) :
    (join (shapeTexts number (shape :: next :: shapes))).toList =
      (' ' :: "AND ".toList).intercalate
        (numberedFrom parenthesised nextNumber number (shape :: next :: shapes)) := by
  rw [← map_parenthesised]
  simp only [shapeTexts, join, String.toList_intercalate, List.map_map]
  rfl

/-- The first character tells no clause, one clause and several clauses apart. -/
def opening : List (String × Test) → Option Char
  | [] => none
  | [_] => some '['
  | _ => some '('

theorem head?_join (number : Nat) (shapes : List (String × Test)) :
    (join (shapeTexts number shapes)).toList.head? = opening shapes := by
  match shapes with
  | [] => rfl
  | [shape] => exact head?_shapeText number shape
  | shape :: next :: shapes =>
    rw [toList_join, numberedFrom, intercalate_cons, List.head?_append, head?_parenthesised]
    rfl

theorem join_inj {number : Nat} {first second : List (String × Test)}
    (same : join (shapeTexts number first) = join (shapeTexts number second)) :
    first = second := by
  have heads : opening first = opening second := by rw [← head?_join number, same, head?_join]
  have texts := congrArg String.toList same
  rcases first with _ | ⟨shape, _ | ⟨next, shapes⟩⟩
  · rcases second with _ | ⟨other, _ | ⟨following, others⟩⟩
    · rfl
    · simp [opening] at heads
    · simp [opening] at heads
  · rcases second with _ | ⟨other, _ | ⟨following, others⟩⟩
    · simp [opening] at heads
    · simp only [shapeTexts, join] at texts
      rw [← List.append_nil (shapeText number shape).toList,
        ← List.append_nil (shapeText number other).toList] at texts
      rw [(shapeText_append_inj texts).1]
    · simp [opening] at heads
  · rcases second with _ | ⟨other, _ | ⟨following, others⟩⟩
    · simp [opening] at heads
    · simp [opening] at heads
    · rw [toList_join, toList_join] at texts
      have ended := congrArg (· ++ ([] : List Char)) texts
      exact (intercalate_append_inj readable_parenthesised head?_parenthesised (by simp)
        (by simp) ended).1

end Conjunction

end SqlBridge
