import SqlBridge.Sql.Dialect

/-!
# Where dialect text ends

Quoted names, escaped tables and comment headers stand in front of other text.
Whatever is in them, they can be told from what follows: where two texts are
equal as a whole, so are these parts, and so is the rest.
-/

set_option autoImplicit false

namespace SqlBridge

namespace Identifier

def afterBracket : List Char → List Char
  | [] => [']']
  | c :: rest => (if c = '.' then [']', '.', '['] else escapeBracket c) ++ afterBracket rest

theorem intercalate_bracketed (text : List Char) :
    ['.'].intercalate ((splitDots text).map bracketed) = '[' :: afterBracket text := by
  induction text with
  | nil => rfl
  | cons c rest ih =>
    unfold splitDots afterBracket
    rcases parts : splitDots rest with _ | ⟨part, more⟩
    · exact absurd parts (splitDots_ne_nil rest)
    rw [parts] at ih
    by_cases dot : c = '.'
    · simp only [if_pos dot, List.map_cons, List.intercalate_cons_cons] at ih ⊢
      rw [ih]
      rfl
    · simp only [if_neg dot]
      cases more with
      | nil =>
        simp only [bracketed, List.map_cons, List.map_nil, List.intercalate_singleton,
          List.cons_append, List.cons.injEq, true_and, List.flatMap_cons, List.append_assoc] at ih ⊢
        rw [ih]
      | cons next more =>
        simp only [bracketed, List.map_cons, List.intercalate_cons_cons, List.cons_append,
          List.cons.injEq, true_and, List.flatMap_cons, List.append_assoc] at ih ⊢
        rw [ih]

theorem toList_quote (name : String) : (quote name).toList = '[' :: afterBracket name.toList := by
  rw [quote, String.toList_ofList, intercalate_bracketed]

/-- A text that does not go on like a quoted name. -/
def Ends (text : List Char) : Prop :=
  text.head? ≠ some ']' ∧ text.head? ≠ some '.'

theorem afterBracket_append_inj {first second rest other : List Char} (restEnds : Ends rest)
    (otherEnds : Ends other)
    (same : afterBracket first ++ rest = afterBracket second ++ other) :
    first = second ∧ rest = other := by
  unfold Ends at restEnds otherEnds
  induction first generalizing second with
  | nil =>
    cases second with
    | nil => simpa [afterBracket] using same
    | cons d second =>
      simp only [afterBracket, escapeBracket] at same
      grind
  | cons c first ih =>
    cases second with
    | nil =>
      simp only [afterBracket, escapeBracket] at same
      grind
    | cons d second =>
      have heads : c = d ∧ afterBracket first ++ rest = afterBracket second ++ other := by
        simp only [afterBracket, escapeBracket] at same
        grind
      obtain ⟨rfl, tails⟩ := heads
      obtain ⟨rfl, rests⟩ := ih tails
      exact ⟨rfl, rests⟩

theorem quote_append_inj {first second : String} {rest other : List Char} (restEnds : Ends rest)
    (otherEnds : Ends other)
    (same : (quote first).toList ++ rest = (quote second).toList ++ other) :
    first = second ∧ rest = other := by
  rw [toList_quote, toList_quote, List.cons_append, List.cons_append] at same
  obtain ⟨names, rests⟩ := afterBracket_append_inj restEnds otherEnds (List.cons.inj same).2
  exact ⟨String.toList_inj.mp names, rests⟩

theorem quote_injective : Function.Injective quote := by
  intro first second same
  have ends : Ends [] := by simp [Ends]
  have texts : (quote first).toList ++ [] = (quote second).toList ++ [] := by rw [same]
  exact (quote_append_inj ends ends texts).1

theorem tableName_append_inj {first second : String} {rest other : List Char}
    (same : (tableName first).toList ++ '\x7d' :: rest =
      (tableName second).toList ++ '\x7d' :: other) :
    tableName first = tableName second ∧ rest = other := by
  have brace : ∀ name : String, ∀ c ∈ (tableName name).toList, c ≠ '\x7d' := by
    intro name c inside
    rw [tableName, String.toList_ofList, List.mem_filter] at inside
    rintro rfl
    exact absurd inside.2 (by decide)
  have before : ∀ (name : String) (after : List Char),
      ((tableName name).toList ++ '\x7d' :: after).takeWhile (· ≠ '\x7d') =
        (tableName name).toList := by
    intro name after
    rw [List.takeWhile_append_of_pos (by simpa using brace name)]
    simp
  have names : (tableName first).toList = (tableName second).toList := by
    rw [← before first rest, ← before second other, same]
  rw [names] at same
  exact ⟨String.toList_inj.mp names, (List.cons.inj (List.append_cancel_left same)).2⟩

end Identifier

namespace Comment

def Unclosed : List Char → Prop
  | [] => True
  | c :: rest => (c = '*' → rest.head? ≠ some '/') ∧ Unclosed rest

theorem unclosed_neutralized (text : List Char) : Unclosed (text.flatMap neutralize ++ [' ']) := by
  induction text with
  | nil => simp [Unclosed]
  | cons c rest ih =>
    rw [List.flatMap_cons, List.append_assoc]
    by_cases star : c = '*'
    · simpa [neutralize, star, Unclosed] using ih
    by_cases semicolon : c = ';'
    · simpa [neutralize, star, semicolon] using ih
    · simpa [neutralize, star, semicolon, Unclosed] using ih

theorem append_star_ne {text rest other : List Char} (notSlash : text.head? ≠ some '/') :
    '/' :: rest ≠ text ++ '*' :: other := by
  cases text with
  | nil => simp
  | cons c text =>
    intro same
    rw [List.cons_append] at same
    exact notSlash (by rw [List.head?_cons, (List.cons.inj same).1])

/-- Behind a text without a comment end, the first comment end is its own. -/
theorem unclosed_append_inj {first second rest other : List Char} (firstOpen : Unclosed first)
    (secondOpen : Unclosed second)
    (same : first ++ '*' :: '/' :: rest = second ++ '*' :: '/' :: other) :
    first = second ∧ rest = other := by
  induction first generalizing second with
  | nil =>
    cases second with
    | nil => simpa using same
    | cons d second =>
      obtain ⟨rfl, tails⟩ := List.cons.inj same
      exact absurd tails (append_star_ne (secondOpen.1 rfl))
  | cons c first ih =>
    cases second with
    | nil =>
      obtain ⟨rfl, tails⟩ := List.cons.inj same
      exact absurd tails.symm (append_star_ne (firstOpen.1 rfl))
    | cons d second =>
      obtain ⟨rfl, tails⟩ := List.cons.inj same
      obtain ⟨rfl, rests⟩ := ih firstOpen.2 secondOpen.2 tails
      exact ⟨rfl, rests⟩

theorem toList_header (comments : List String) : (header comments).toList = [] ∨
    ∃ body, Unclosed body ∧ (header comments).toList = '/' :: '*' :: body ++ ['*', '/', ' '] := by
  cases comments with
  | nil => exact .inl rfl
  | cons comment rest =>
    refine .inr ⟨' ' :: _, ⟨by simp,
      unclosed_neutralized (". ".intercalate (comment :: rest)).toList⟩, ?_⟩
    simp [header]

theorem header_append_inj {first second : List String} {rest other : List Char}
    (restHead : rest.head? ≠ some '/') (otherHead : other.head? ≠ some '/')
    (same : (header first).toList ++ rest = (header second).toList ++ other) :
    header first = header second ∧ rest = other := by
  rw [← String.toList_inj]
  rcases toList_header first with firstText | ⟨body, bodyOpen, firstText⟩ <;>
    rcases toList_header second with secondText | ⟨text, textOpen, secondText⟩ <;>
    rw [firstText, secondText] at same ⊢
  · exact ⟨rfl, same⟩
  · exact absurd (by rw [List.nil_append] at same; rw [same]; rfl) restHead
  · exact absurd (by rw [List.nil_append] at same; rw [← same]; rfl) otherHead
  · simp only [List.cons_append, List.append_assoc, List.cons.injEq, true_and] at same
    obtain ⟨bodies, rests⟩ := unclosed_append_inj bodyOpen textOpen same
    exact ⟨by rw [bodies], (List.cons.inj rests).2⟩

end Comment

end SqlBridge
