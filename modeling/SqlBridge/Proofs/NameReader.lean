import SqlBridge.Proofs.DialectText

/-!
# Reading quoted names

A quoted name is read part by part.  A part goes from its opening bracket to a closing bracket that
stands alone, where a doubled one belongs to the part; behind it comes the end or a dot with the
next part.  What is read are the parts of the name, and only bracketed parts can be read.
-/

set_option autoImplicit false

namespace SqlBridge.Identifier

/-- What is left of a part behind its opening bracket, and what follows the part. -/
def readPart : List Char → Option (List Char × List Char)
  | [] => none
  | ']' :: ']' :: rest => (readPart rest).map fun read => (']' :: read.1, read.2)
  | ']' :: rest => some ([], rest)
  | c :: rest => (readPart rest).map fun read => (c :: read.1, read.2)

theorem eq_of_readPart {text part rest : List Char} (read : readPart text = some (part, rest)) :
    text = part.flatMap escapeBracket ++ ']' :: rest ∧ rest.head? ≠ some ']' := by
  fun_induction readPart text generalizing part with
  | case1 => cases read
  | case2 text ih =>
    obtain ⟨⟨tail, _⟩, inner, same⟩ := Option.map_eq_some_iff.mp read
    cases same
    obtain ⟨rfl, lone⟩ := ih inner
    exact ⟨rfl, lone⟩
  | case3 text doubled =>
    cases read
    refine ⟨rfl, fun again => ?_⟩
    obtain ⟨more, rfl⟩ := List.head?_eq_some_iff.mp again
    exact doubled more rfl
  | case4 c text doubled lone ih =>
    obtain ⟨⟨tail, _⟩, inner, same⟩ := Option.map_eq_some_iff.mp read
    cases same
    obtain ⟨rfl, ends⟩ := ih inner
    refine ⟨?_, ends⟩
    simp [escapeBracket, show c ≠ ']' from lone]

theorem readPart_escaped (part : List Char) {rest : List Char} (lone : rest.head? ≠ some ']') :
    readPart (part.flatMap escapeBracket ++ ']' :: rest) = some (part, rest) := by
  induction part with
  | nil =>
    rw [List.flatMap_nil, List.nil_append, readPart]
    rintro again rfl
    exact lone rfl
  | cons c part ih =>
    by_cases bracket : c = ']'
    · simp [escapeBracket, bracket, readPart, ih]
    · simp [escapeBracket, bracket, readPart, ih]

def readParts (text : List Char) : Option (List (List Char)) :=
  match text with
  | '[' :: inside =>
    match _read : readPart inside with
    | some (part, []) => some [part]
    | some (part, '.' :: more) => (readParts more).map (part :: ·)
    | _ => none
  | _ => none
termination_by text.length
decreasing_by
  rw [(eq_of_readPart _read).1]
  simp only [List.length_cons, List.length_append]
  omega

def read? (text : String) : Option (List String) :=
  (readParts text.toList).map (List.map String.ofList)

theorem readParts_of_end {inside part : List Char} (read : readPart inside = some (part, [])) :
    readParts ('[' :: inside) = some [part] := by
  rw [readParts]
  split <;> simp_all

theorem readParts_of_dot {inside part more : List Char}
    (read : readPart inside = some (part, '.' :: more)) :
    readParts ('[' :: inside) = (readParts more).map (part :: ·) := by
  rw [readParts]
  split <;> simp_all

def written (parts : List (List Char)) : List Char :=
  ['.'].intercalate (parts.map bracketed)

theorem written_singleton (part : List Char) :
    written [part] = '[' :: (part.flatMap escapeBracket ++ [']']) := by
  rw [written, List.map_singleton, List.intercalate_singleton, bracketed, List.cons_append]

theorem written_cons_cons (part next : List Char) (parts : List (List Char)) :
    written (part :: next :: parts) =
      '[' :: (part.flatMap escapeBracket ++ ']' :: '.' :: written (next :: parts)) := by
  rw [written, List.map_cons, List.map_cons, List.intercalate_cons_cons, ← List.map_cons, bracketed,
    written]
  simp only [List.cons_append, List.append_assoc, List.nil_append]

theorem readParts_written (part : List Char) (parts : List (List Char)) :
    readParts (written (part :: parts)) = some (part :: parts) := by
  induction parts generalizing part with
  | nil =>
    rw [written_singleton]
    exact readParts_of_end (readPart_escaped part (by simp))
  | cons next parts ih =>
    rw [written_cons_cons, readParts_of_dot (readPart_escaped part (by simp)), ih]
    rfl

/-- Nothing but bracketed parts can be read. -/
theorem eq_of_readParts {text : List Char} {parts : List (List Char)}
    (read : readParts text = some parts) : parts ≠ [] ∧ text = written parts := by
  fun_induction readParts text generalizing parts with
  | case1 inside part ended =>
    cases read
    obtain ⟨rfl, _⟩ := eq_of_readPart ended
    exact ⟨by simp, (written_singleton part).symm⟩
  | case2 inside part more dotted ih =>
    obtain ⟨behind, inner, same⟩ := Option.map_eq_some_iff.mp read
    cases same
    obtain ⟨rfl, _⟩ := eq_of_readPart dotted
    obtain ⟨present, rfl⟩ := ih inner
    obtain ⟨next, others, rfl⟩ := List.exists_cons_of_ne_nil present
    exact ⟨by simp, (written_cons_cons part next others).symm⟩
  | case3 => cases read
  | case4 => cases read

/-! ## Parts of a name -/

theorem splitDots_eq_splitOn (text : List Char) : splitDots text = text.splitOn '.' := by
  induction text with
  | nil => rfl
  | cons c rest ih =>
    rw [List.splitOn, List.splitOnP_cons_eq_if_modifyHead, ← List.splitOn, ← ih, splitDots]
    by_cases dot : c = '.'
    · simp [dot]
    · rcases parts : splitDots rest with _ | ⟨part, more⟩
      · exact absurd parts (splitDots_ne_nil rest)
      · simp [dot]

theorem dot_notMem_of_mem_splitDots {text part : List Char} (listed : part ∈ splitDots text) :
    '.' ∉ part := by
  induction text generalizing part with
  | nil =>
    rw [splitDots, List.mem_singleton] at listed
    simp [listed]
  | cons c rest ih =>
    rw [splitDots] at listed
    split at listed
    next dot =>
      rcases List.mem_cons.mp listed with rfl | behind
      · exact List.not_mem_nil
      · exact ih behind
    next plain =>
      rcases parts : splitDots rest with _ | ⟨first, more⟩
      · exact absurd parts (splitDots_ne_nil rest)
      rw [parts] at listed ih
      rcases List.mem_cons.mp listed with rfl | behind
      · have inner := ih List.mem_cons_self
        simp [inner, Ne.symm plain]
      · exact ih (List.mem_cons_of_mem _ behind)

/-- With dots between them the parts make up the name, and there are no dots in them. -/
structure PartsOf (name : String) (parts : List String) : Prop where
  present : parts ≠ []
  undotted : ∀ part ∈ parts, '.' ∉ part.toList
  joined : ".".intercalate parts = name

def partsOf (name : String) : List String :=
  (splitDots name.toList).map String.ofList

theorem partsOf_parts (name : String) : PartsOf name (partsOf name) where
  present := by simpa [partsOf] using splitDots_ne_nil name.toList
  undotted part listed := by
    obtain ⟨text, inside, rfl⟩ := List.mem_map.mp listed
    rw [String.toList_ofList]
    exact dot_notMem_of_mem_splitDots inside
  joined := by
    rw [← String.toList_inj, String.toList_intercalate, partsOf, List.map_map]
    simp [Function.comp_def, splitDots_eq_splitOn, List.intercalate_splitOn]

theorem PartsOf.eq_partsOf {name : String} {parts : List String} (made : PartsOf name parts) :
    parts = partsOf name := by
  have texts : splitDots name.toList = parts.map String.toList := by
    rw [← made.joined, String.toList_intercalate, splitDots_eq_splitOn]
    apply List.splitOn_intercalate
    · simpa using made.undotted
    · simpa using made.present
  simp [partsOf, texts, Function.comp_def]

theorem toList_quote_eq_written (name : String) :
    (quote name).toList = written ((partsOf name).map String.toList) := by
  simp [quote, written, partsOf, Function.comp_def]

theorem read?_eq_some_iff (text : String) (parts : List String) :
    read? text = some parts ↔
      parts ≠ [] ∧ text.toList = written (parts.map String.toList) := by
  rw [read?, Option.map_eq_some_iff]
  constructor
  · rintro ⟨texts, read, rfl⟩
    obtain ⟨present, same⟩ := eq_of_readParts read
    exact ⟨by simpa using present, by simpa [Function.comp_def] using same⟩
  · rintro ⟨present, same⟩
    obtain ⟨part, others, rfl⟩ := List.exists_cons_of_ne_nil present
    refine ⟨_, by rw [same, List.map_cons, readParts_written], ?_⟩
    simp [Function.comp_def]

/-- Reading a quoted name gives the parts of the name, which are the only ones it has, and no other
text is read as these parts. -/
theorem read?_quote (name : String) :
    ∃ parts, read? (quote name) = some parts ∧ PartsOf name parts ∧
      (∀ others, PartsOf name others → others = parts) ∧
      ∀ text, read? text = some parts → text = quote name := by
  have made := partsOf_parts name
  refine ⟨partsOf name, ?_, made, fun others => PartsOf.eq_partsOf, ?_⟩
  · exact (read?_eq_some_iff _ _).mpr ⟨made.present, toList_quote_eq_written name⟩
  · intro text read
    rw [← String.toList_inj, toList_quote_eq_written]
    exact ((read?_eq_some_iff _ _).mp read).2

/-- The name looks as if its first part were closed and another opened. -/
example : quote "a].[b" = "[a]]].[[b]" ∧ read? "[a]]].[[b]" = some ["a]", "[b"] :=
  ⟨by decide, (read?_eq_some_iff _ _).mpr (by decide)⟩

end SqlBridge.Identifier
