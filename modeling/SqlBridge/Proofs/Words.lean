import Mathlib.Data.List.Forall2
import Mathlib.Data.List.TakeWhile
import SqlBridge.Text.Blank

/-!
# Leading words

The leading word of a text has only blanks in front of it, and ends before a blank or with the text.
Every text has one, which is empty just if the text is blank.  What is behind it makes no difference,
and neither do the blanks in front.  A letter in the other ASCII case is no blank either, so the
leading word changes case as the text does.
-/

set_option autoImplicit false

namespace SqlBridge.Text

theorem trimStart_append {blanks : List Char} (blank : ∀ c ∈ blanks, isBlank c = true)
    (text : List Char) : trimStart (blanks ++ text) = trimStart text :=
  List.dropWhile_append_of_pos blank

theorem exists_blanks (text : List Char) :
    ∃ blanks, (∀ c ∈ blanks, isBlank c = true) ∧ text = blanks ++ trimStart text :=
  ⟨text.takeWhile isBlank, fun _ => List.mem_takeWhile_imp,
    List.takeWhile_append_dropWhile.symm⟩

theorem not_of_mem_head?_dropWhile (p : Char → Bool) (text : List Char) :
    ∀ c ∈ (text.dropWhile p).head?, p c = false := by
  intro c first
  have stops := List.head?_dropWhile_not p text
  rwa [Option.mem_def.mp first] at stops

/-- Characters are taken as far as they are of a class, which ends where the next one is not. -/
theorem takeWhile_append_of_ends {p : Char → Bool} {word rest : List Char}
    (inside : ∀ c ∈ word, p c = true) (ends : ∀ c ∈ rest.head?, p c = false) :
    (word ++ rest).takeWhile p = word := by
  rw [List.takeWhile_append_of_pos inside]
  cases rest with
  | nil => simp
  | cons c rest => simp [ends c rfl]

/-! ## What leads a text -/

/-- But for blanks, a text begins with this word, which is empty only if the text is blank. -/
structure Leads (word text : List Char) : Prop where
  solid : ∀ c ∈ word, isBlank c = false
  split : ∃ blanks rest, text = blanks ++ word ++ rest ∧ (∀ c ∈ blanks, isBlank c = true) ∧
    (∀ c ∈ rest.head?, isBlank c = true) ∧ (word = [] → rest = [])

theorem leads_firstWord (text : List Char) : Leads (firstWord text) text where
  solid c listed := by simpa using List.mem_takeWhile_imp listed
  split := by
    obtain ⟨blanks, blank, split⟩ := exists_blanks text
    refine ⟨blanks, (trimStart text).dropWhile fun c => !isBlank c, ?_, blank, ?_, ?_⟩
    · rw [List.append_assoc, firstWord, List.takeWhile_append_dropWhile]
      exact split
    · intro c first
      simpa using not_of_mem_head?_dropWhile _ _ c first
    · intro empty
      rw [firstWord] at empty
      cases trimmed : trimStart text with
      | nil => rfl
      | cons c rest =>
        have first : (trimStart text).head? = some c := congrArg List.head? trimmed
        have starts : isBlank c = false := not_of_mem_head?_dropWhile isBlank text c first
        rw [trimmed, List.takeWhile_cons_of_pos (by simp [starts])] at empty
        cases empty

theorem Leads.firstWord_eq {word text : List Char} (leads : Leads word text) :
    firstWord text = word := by
  obtain ⟨blanks, rest, rfl, blank, ends, whole⟩ := leads.split
  have starts : trimStart (word ++ rest) = word ++ rest := by
    cases word with
    | nil => rw [whole rfl]; rfl
    | cons c word => exact List.dropWhile_cons_of_neg (by simp [leads.solid c List.mem_cons_self])
  have inside : ∀ c ∈ word, (!isBlank c) = true := by simpa using leads.solid
  have stops : ∀ c ∈ rest.head?, (!isBlank c) = false := by simpa using ends
  rw [firstWord, List.append_assoc, trimStart_append blank, starts,
    takeWhile_append_of_ends inside stops]

theorem firstWord_firstWord (text : List Char) : firstWord (firstWord text) = firstWord text := by
  have leads : Leads (firstWord text) (firstWord text) :=
    ⟨(leads_firstWord text).solid, [], [], by simp, by simp, by simp, fun _ => rfl⟩
  exact leads.firstWord_eq

theorem Leads.ne_nil {word text : List Char} (leads : Leads word text)
    (worded : ∃ c ∈ text, isBlank c = false) : word ≠ [] := by
  rintro rfl
  obtain ⟨blanks, rest, rfl, blank, _, whole⟩ := leads.split
  obtain ⟨c, listed, solid⟩ := worded
  rw [whole rfl] at listed
  simp [blank c (by simpa using listed)] at solid

section

variable {word text blanks : List Char}

theorem Leads.lead (leads : Leads word text) (blank : ∀ c ∈ blanks, isBlank c = true) :
    Leads word (blanks ++ text) := by
  obtain ⟨front, rest, rfl, blankFront, ends, whole⟩ := leads.split
  refine ⟨leads.solid, blanks ++ front, rest, by simp, ?_, ends, whole⟩
  intro c listed
  exact (List.mem_append.mp listed).elim (blank c) (blankFront c)

/-- The word has ended already, or it ends where the blanks begin. -/
theorem Leads.trail (leads : Leads word text) (worded : ∃ c ∈ text, isBlank c = false)
    (apart : blanks ≠ []) (blank : ∀ c ∈ blanks, isBlank c = true) (more : List Char) :
    Leads word (text ++ blanks ++ more) := by
  have present := leads.ne_nil worded
  obtain ⟨front, rest, rfl, blankFront, ends, _⟩ := leads.split
  refine ⟨leads.solid, front, rest ++ blanks ++ more, by simp, blankFront, ?_,
    fun empty => absurd empty present⟩
  intro c first
  cases rest with
  | nil =>
    obtain ⟨d, blanks, rfl⟩ := List.exists_cons_of_ne_nil apart
    cases first
    exact blank _ List.mem_cons_self
  | cons d rest =>
    cases first
    exact ends _ rfl

end

/-! ## Letters of either case -/

/-- A letter of either case, or a character that has none.  Letters come by their place in the
alphabet, so that what holds of them can be decided. -/
theorem letter_cases (c : Char) :
    (∃ i : Fin 26, c = Char.ofNat (65 + i)) ∨ (∃ i : Fin 26, c = Char.ofNat (97 + i)) ∨
      c.toLower = c ∧ c.toUpper = c := by
  by_cases upper : 65 ≤ c.toNat ∧ c.toNat ≤ 90
  · refine .inl ⟨⟨c.toNat - 65, by omega⟩, ?_⟩
    have place : 65 + (c.toNat - 65) = c.toNat := by omega
    rw [place, Char.ofNat_toNat]
  by_cases lower : 97 ≤ c.toNat ∧ c.toNat ≤ 122
  · refine .inr (.inl ⟨⟨c.toNat - 97, by omega⟩, ?_⟩)
    have place : 97 + (c.toNat - 97) = c.toNat := by omega
    rw [place, Char.ofNat_toNat]
  · exact .inr (.inr ⟨dif_neg upper, dif_neg lower⟩)

theorem toLower_toLower (c : Char) : c.toLower.toLower = c.toLower := by
  rcases letter_cases c with ⟨i, rfl⟩ | ⟨i, rfl⟩ | ⟨same, _⟩
  · decide +revert
  · decide +revert
  · rw [same, same]

theorem toLower_toUpper (c : Char) : c.toUpper.toLower = c.toLower := by
  rcases letter_cases c with ⟨i, rfl⟩ | ⟨i, rfl⟩ | ⟨_, same⟩
  · decide +revert
  · decide +revert
  · rw [same]

theorem isBlank_toLower (c : Char) : isBlank c.toLower = isBlank c := by
  rcases letter_cases c with ⟨i, rfl⟩ | ⟨i, rfl⟩ | ⟨same, _⟩
  · decide +revert
  · decide +revert
  · rw [same]

theorem Leads.map_toLower {word text : List Char} (leads : Leads word text) :
    Leads (word.map Char.toLower) (text.map Char.toLower) := by
  obtain ⟨blanks, rest, rfl, blank, ends, whole⟩ := leads.split
  refine ⟨?_, blanks.map Char.toLower, rest.map Char.toLower, by simp, ?_, ?_, ?_⟩
  · simpa [isBlank_toLower] using leads.solid
  · simpa [isBlank_toLower] using blank
  · simpa [isBlank_toLower] using ends
  · simpa using whole

def foldedWord (text : List Char) : List Char :=
  (firstWord text).map Char.toLower

theorem foldedWord_eq_firstWord (text : List Char) :
    foldedWord text = firstWord (text.map Char.toLower) :=
  (leads_firstWord text).map_toLower.firstWord_eq.symm

def Recased (text other : List Char) : Prop :=
  List.Forall₂ (fun c d => d = c ∨ d = c.toLower ∨ d = c.toUpper) text other

instance (text other : List Char) : Decidable (Recased text other) :=
  inferInstanceAs (Decidable (List.Forall₂ _ text other))

theorem Recased.map_toLower {text other : List Char} (recased : Recased text other) :
    other.map Char.toLower = text.map Char.toLower := by
  induction recased with
  | nil => rfl
  | cons same _ ih =>
    rw [List.map_cons, List.map_cons, ih]
    rcases same with rfl | rfl | rfl
    · rfl
    · rw [toLower_toLower]
    · rw [toLower_toUpper]

/-! ## Other spellings -/

/-- A text is spelled another way: with blanks in front, with more text behind blanks that follow a
word, or with letters of the other ASCII case. -/
inductive Respelled : List Char → List Char → Prop where
  | lead {blanks text : List Char} (blank : ∀ c ∈ blanks, isBlank c = true) :
      Respelled text (blanks ++ text)
  | trail {text blanks : List Char} (worded : ∃ c ∈ text, isBlank c = false)
      (apart : blanks ≠ []) (blank : ∀ c ∈ blanks, isBlank c = true) (more : List Char) :
      Respelled text (text ++ blanks ++ more)
  | recase {text other : List Char} (recased : Recased text other) : Respelled text other

/-- Spellings agree in their leading words. -/
theorem Respelled.foldedWord_eq {text other : List Char} (respelled : Respelled text other) :
    foldedWord other = foldedWord text := by
  have leads := leads_firstWord text
  cases respelled with
  | lead blank => rw [foldedWord, foldedWord, (leads.lead blank).firstWord_eq]
  | trail worded apart blank more =>
    rw [foldedWord, foldedWord, (leads.trail worded apart blank more).firstWord_eq]
  | recase recased =>
    rw [foldedWord_eq_firstWord, foldedWord_eq_firstWord, recased.map_toLower]

end SqlBridge.Text
