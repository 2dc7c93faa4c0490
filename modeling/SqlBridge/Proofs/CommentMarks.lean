import Mathlib.Data.List.Chain
import SqlBridge.Proofs.DialectText

/-!
# Comment marks

The comments in front of a statement make up one comment.  Whatever they are, no mark of a comment
arises from them: a star has blanks on both sides, so what vanishes between two characters or
between two comments cannot bring a star and a slash together.  Nothing else of the comments is
changed.
-/

set_option autoImplicit false

namespace SqlBridge.Comment

/-- The mark is found in the text behind the one part and in front of the other, and nowhere
else. -/
def OnlyBetween (mark before after text : List Char) : Prop :=
  ∀ front back, text = front ++ mark ++ back ↔ front = before ∧ back = after

def KeptApart (first second c d : Char) : Prop :=
  ¬ (c = first ∧ d = second)

theorem ne_append_of_isChain {first second : Char} {text : List Char}
    (chain : text.IsChain (KeptApart first second)) (front back : List Char) :
    text ≠ front ++ first :: second :: back := by
  rintro rfl
  exact (List.isChain_append_cons_cons.mp chain).2.1 ⟨rfl, rfl⟩

/-- What stands in front of a mark ends with its first character, and what stands behind it begins
with its second one. -/
theorem onlyBetween_of_isChain {first second : Char} {before after : List Char}
    (early : (before ++ [first]).IsChain (KeptApart first second))
    (late : (second :: after).IsChain (KeptApart first second)) :
    OnlyBetween [first, second] before after (before ++ [first, second] ++ after) := by
  intro front back
  constructor
  · intro same
    simp only [List.append_assoc, List.cons_append, List.nil_append] at same
    rcases List.append_eq_append_iff.mp same with ⟨more, split, rest⟩ | ⟨more, split, rest⟩
    · cases more with
      | nil => exact ⟨by simpa using split, by simpa using rest.symm⟩
      | cons c more => exact absurd (List.cons.inj rest).2 (ne_append_of_isChain late more back)
    · cases more with
      | nil => exact ⟨by simpa using split.symm, by simpa using rest⟩
      | cons c more =>
        obtain ⟨rfl, behind⟩ := List.cons.inj rest
        have next : (more ++ [first]).head? = some second := by
          cases more with
          | nil => simpa using (List.cons.inj behind).1.symm
          | cons d more => simpa using (List.cons.inj behind).1.symm
        obtain ⟨tail, ends⟩ := List.head?_eq_some_iff.mp next
        refine absurd ?_ (ne_append_of_isChain early front tail)
        rw [split, List.append_assoc, List.cons_append, ends]
  · rintro ⟨rfl, rfl⟩
    rfl

def Spaced (c d : Char) : Prop :=
  (c = '*' → d = ' ') ∧ (d = '*' → c = ' ')

theorem isChain_neutralized {c : Char} (plain : c ≠ '*') (text : List Char) :
    (c :: (text.flatMap neutralize ++ [' ', '*'])).IsChain Spaced := by
  induction text generalizing c with
  | nil => simp [Spaced, plain]
  | cons d text ih =>
    rw [List.flatMap_cons, List.append_assoc]
    by_cases star : d = '*'
    · simpa [neutralize, star, Spaced, plain] using ih (c := ' ') (by decide)
    by_cases semicolon : d = ';'
    · simpa [neutralize, semicolon] using ih plain
    · simpa [neutralize, star, semicolon, Spaced, plain] using ih star

def body (comments : List String) : List Char :=
  ' ' :: ((". ".intercalate comments).toList.flatMap neutralize ++ [' '])

/-- From the star of the one mark to the star of the other one. -/
theorem isChain_body (comments : List String) :
    ('*' :: (body comments ++ ['*'])).IsChain Spaced := by
  have inner := isChain_neutralized (c := ' ') (by decide) (". ".intercalate comments).toList
  simpa [body, Spaced] using inner

theorem toList_header_cons (comment : String) (others : List String) :
    (header (comment :: others)).toList =
      ['/', '*'] ++ body (comment :: others) ++ ['*', '/', ' '] := by
  simp [header, body]

theorem onlyBetween_open (comment : String) (others : List String) :
    OnlyBetween ['/', '*'] [] (body (comment :: others) ++ ['*', '/', ' '])
      (header (comment :: others)).toList := by
  have inner := (isChain_body (comment :: others)).imp (S := KeptApart '/' '*')
    fun c d spaced joined => by simp [spaced.2 joined.2] at joined
  rw [toList_header_cons, List.append_assoc]
  apply onlyBetween_of_isChain
  · exact .singleton '/'
  · exact List.isChain_cons_append_cons_cons.mpr ⟨inner, by simp [KeptApart], by simp [KeptApart]⟩

theorem onlyBetween_close (comment : String) (others : List String) :
    OnlyBetween ['*', '/'] (['/', '*'] ++ body (comment :: others)) [' ']
      (header (comment :: others)).toList := by
  have inner := (isChain_body (comment :: others)).imp (S := KeptApart '*' '/')
    fun c d spaced joined => by simp [spaced.1 joined.1] at joined
  have closed : (header (comment :: others)).toList =
      ['/', '*'] ++ body (comment :: others) ++ ['*', '/'] ++ [' '] := by
    rw [toList_header_cons, List.append_assoc _ ['*', '/']]
    rfl
  rw [closed]
  apply onlyBetween_of_isChain
  · exact List.isChain_cons_cons.mpr ⟨by simp [KeptApart], inner⟩
  · simp [KeptApart]

/-! ## What is kept of the comments -/

/-- A character that is neither blank space, star nor semicolon: one that a header has to keep. -/
def isKept (c : Char) : Bool :=
  c ≠ ' ' && c ≠ '*' && c ≠ ';'

theorem semicolon_notMem_neutralized (text : List Char) : ';' ∉ text.flatMap neutralize := by
  intro listed
  obtain ⟨c, _, inside⟩ := List.mem_flatMap.mp listed
  unfold neutralize at inside
  split at inside
  · simp at inside
  · next nonstar =>
    split at inside
    · simp at inside
    · next other => exact other (List.mem_singleton.mp inside).symm

theorem filter_isKept_neutralized (text : List Char) :
    (text.flatMap neutralize).filter isKept = text.filter isKept := by
  induction text with
  | nil => rfl
  | cons c text ih =>
    rw [List.flatMap_cons, List.filter_append, ih]
    by_cases star : c = '*'
    · simp [neutralize, star, isKept]
    by_cases semicolon : c = ';'
    · simp [neutralize, semicolon, isKept]
    · rw [neutralize, if_neg star, if_neg semicolon, ← List.filter_append, List.singleton_append]

theorem filter_isKept_body (comments : List String) :
    (body comments).filter isKept = (". ".intercalate comments).toList.filter isKept := by
  rw [body, List.filter_cons_of_neg (by decide), List.filter_append, filter_isKept_neutralized]
  simp [isKept]

/-- A header of at least one comment opens once, at its start, and closes once, in front of its last
blank, and no semicolon is in it.  Between its marks stand the comments, and of them only blanks,
stars and semicolons have been touched. -/
theorem header_encloses (comment : String) (others : List String) :
    let text := (header (comment :: others)).toList
    ∃ inner : List Char,
      OnlyBetween ['/', '*'] [] (inner ++ ['*', '/', ' ']) text ∧
        OnlyBetween ['*', '/'] (['/', '*'] ++ inner) [' '] text ∧
          ';' ∉ text ∧
            inner.filter isKept =
              (". ".intercalate (comment :: others)).toList.filter isKept := by
  refine ⟨body (comment :: others), onlyBetween_open comment others,
    onlyBetween_close comment others, ?_, filter_isKept_body (comment :: others)⟩
  rw [toList_header_cons, body]
  simpa [-List.mem_flatMap] using
    semicolon_notMem_neutralized (". ".intercalate (comment :: others)).toList

/-- A comment ends, a semicolon vanishes, and the next comment goes on. -/
example : header ["*;/ DROP;", "/;*"] = "/*  * / DROP. / *  */ " := by decide

end SqlBridge.Comment
