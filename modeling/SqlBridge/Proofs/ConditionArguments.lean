import SqlBridge.Proofs.Placeholders

/-!
# The arguments of a condition

Every clause of a condition has its own part of the text and its own part of the arguments, and both
are put together in the order of the clauses.  A comparison names its argument by the place that the
argument takes among all of them.  Raw clauses may bring any number of arguments and null tests bring
none, so this is not the place of the clause.  Unless a raw clause takes such a name for itself, the
name leads to the value that was compared with.
-/

set_option autoImplicit false

namespace SqlBridge

/-- The first parameter of its name is the one that is found. -/
theorem ParamList.get?_of_first {list : ParamList} {position : Nat} {param : Param}
    (there : list.params[position]? = some param)
    (first : ∀ earlier < position, ∀ other, list.params[earlier]? = some other →
      other.placeholder ≠ param.placeholder) :
    list.get? param.placeholder = some param.value := by
  obtain ⟨inside, same⟩ := List.getElem?_eq_some_iff.mp there
  rw [get?, Option.map_eq_some_iff]
  refine ⟨param, List.find?_eq_some_iff_getElem.mpr ⟨by simp, position, inside, same, ?_⟩, rfl⟩
  intro earlier before
  have other := first earlier before _ (List.getElem?_eq_getElem (by omega))
  simpa using other

namespace Conjunction

structure Part where
  text : String
  arguments : List Param

/-- The part of a clause that has so many arguments before its own. -/
def partOf (dialect : Dialect) (position : Nat) : Clause → Part
  | .raw sql own => ⟨sql, own.params⟩
  | .compare column comparison value =>
    ⟨dialect.quoteIdentifier column ++ " " ++ comparison.sql ++ " " ++ placeholder position,
      [⟨placeholder position, value⟩]⟩
  | .isNull column => ⟨dialect.quoteIdentifier column ++ " IS NULL", []⟩
  | .isNotNull column => ⟨dialect.quoteIdentifier column ++ " IS NOT NULL", []⟩

def position (parts : List Part) (index : Nat) : Nat :=
  ((parts.take index).flatMap Part.arguments).length

/-- The text and the arguments are made of these parts, one for each clause, and each comparison
leads to its own argument. -/
structure MadeOf (dialect : Dialect) (clauses : List Clause) (parts : List Part)
    (compiled : CompiledCondition) : Prop where
  each : ∀ index, parts[index]? = clauses[index]?.map (partOf dialect (position parts index))
  arguments : compiled.arguments.params = parts.flatMap Part.arguments
  absent : parts = [] → compiled.sql = ""
  alone : ∀ part, parts = [part] → compiled.sql = part.text
  several : 2 ≤ parts.length →
    compiled.sql = " AND ".intercalate (parts.map fun part => "(" ++ part.text ++ ")")
  own : ∀ (index : Nat) column comparison value,
    clauses[index]? = some (.compare column comparison value) →
      compiled.arguments.params[position parts index]? =
        some ⟨placeholder (position parts index), value⟩
  found : (∀ name ∈ rawPlaceholders clauses, ¬ placeholderPrefix.toList <+: name.toList) →
    ∀ (index : Nat) column comparison value,
      clauses[index]? = some (.compare column comparison value) →
        compiled.arguments.get? (placeholder (position parts index)) = some value

/-! ## The parts of a condition -/

def partsFrom (dialect : Dialect) : Nat → List Clause → List Part
  | _, [] => []
  | number, clause :: rest =>
    let part := partOf dialect number clause
    part :: partsFrom dialect (number + part.arguments.length) rest

theorem compileClause_eq (dialect : Dialect) (arguments : ParamList) (clause : Clause) :
    compileClause dialect arguments clause =
      ((partOf dialect arguments.size clause).text,
        ⟨arguments.params ++ (partOf dialect arguments.size clause).arguments⟩) := by
  cases clause with
  | raw sql own => rfl
  | compare column comparison value => rfl
  | isNull column => simp [compileClause, partOf]
  | isNotNull column => simp [compileClause, partOf]

theorem compileClauses_eq (dialect : Dialect) (arguments : ParamList) (clauses : List Clause) :
    compileClauses dialect arguments clauses =
      ((partsFrom dialect arguments.size clauses).map Part.text,
        ⟨arguments.params ++ (partsFrom dialect arguments.size clauses).flatMap Part.arguments⟩) := by
  induction clauses generalizing arguments with
  | nil => simp [compileClauses, partsFrom]
  | cons clause rest ih =>
    simp [compileClauses, compileClause_eq, ih, partsFrom, ParamList.size]

theorem getElem?_partsFrom (dialect : Dialect) (number : Nat) (clauses : List Clause)
    (index : Nat) :
    (partsFrom dialect number clauses)[index]? =
      clauses[index]?.map
        (partOf dialect (number + position (partsFrom dialect number clauses) index)) := by
  induction clauses generalizing number index with
  | nil => simp [partsFrom]
  | cons clause rest ih =>
    cases index with
    | zero => simp [partsFrom, position]
    | succ index =>
      rw [partsFrom, List.getElem?_cons_succ, List.getElem?_cons_succ, ih]
      simp [position, Nat.add_assoc]

/-- There is one way to take a condition apart: the place of a part depends only on the parts before
it. -/
theorem MadeOf.parts_eq {dialect : Dialect} {clauses : List Clause} {parts : List Part}
    {compiled : CompiledCondition} (made : MadeOf dialect clauses parts compiled) :
    parts = partsFrom dialect 0 clauses := by
  apply List.ext_getElem?
  intro index
  induction index using Nat.strongRecOn with
  | ind index earlier =>
    have before : parts.take index = (partsFrom dialect 0 clauses).take index := by
      apply List.ext_getElem?
      intro other
      rw [List.getElem?_take, List.getElem?_take]
      split
      next inside => exact earlier other inside
      next => rfl
    rw [made.each, getElem?_partsFrom, position, position, before, Nat.zero_add]

theorem placeholder_of_partsFrom {dialect : Dialect} {number place : Nat} {clauses : List Clause}
    {param : Param}
    (there : ((partsFrom dialect number clauses).flatMap Part.arguments)[place]? = some param) :
    param.placeholder ∈ rawPlaceholders clauses ∨
      param.placeholder = placeholder (number + place) := by
  induction clauses generalizing number place with
  | nil => simp [partsFrom] at there
  | cons clause rest ih =>
    rw [partsFrom, List.flatMap_cons] at there
    cases clause with
    | raw sql own =>
      simp only [partOf] at there
      rw [rawPlaceholders, List.mem_append]
      rcases Nat.lt_or_ge place own.params.length with inside | behind
      · have listed : param ∈ own.params :=
          List.mem_of_getElem? ((List.getElem?_append_left inside).symm.trans there)
        exact .inl (.inl (List.mem_map_of_mem listed))
      · rw [List.getElem?_append_right behind] at there
        have same : number + own.params.length + (place - own.params.length) = number + place := by
          omega
        exact (ih there).imp .inr fun named => same ▸ named
    | compare column comparison value =>
      cases place with
      | zero =>
        cases there
        exact .inr rfl
      | succ place =>
        have same : number + 1 + place = number + (place + 1) := by omega
        exact (ih there).imp id fun named => same ▸ named
    | isNull column => exact ih there
    | isNotNull column => exact ih there

theorem getElem?_position {parts : List Part} {index : Nat} {text : String} {param : Param}
    (listed : parts[index]? = some ⟨text, [param]⟩) :
    (parts.flatMap Part.arguments)[position parts index]? = some param := by
  obtain ⟨inside, same⟩ := List.getElem?_eq_some_iff.mp listed
  have split : parts.flatMap Part.arguments = (parts.take index).flatMap Part.arguments ++
      (parts.drop index).flatMap Part.arguments := by
    rw [← List.flatMap_append, List.take_append_drop]
  rw [split, position, List.getElem?_append_right (Nat.le_refl _), Nat.sub_self,
    List.drop_eq_getElem_cons inside, List.flatMap_cons, same]
  rfl

section

variable {dialect : Dialect} {clauses : List Clause} {index : Nat} {column : String}
  {comparison : Comparison} {value : Value}

theorem getElem?_comparison (listed : clauses[index]? = some (.compare column comparison value)) :
    ((partsFrom dialect 0 clauses).flatMap Part.arguments)[
        position (partsFrom dialect 0 clauses) index]? =
      some ⟨placeholder (position (partsFrom dialect 0 clauses) index), value⟩ := by
  have part := getElem?_partsFrom dialect 0 clauses index
  rw [listed, Option.map_some, Nat.zero_add] at part
  exact getElem?_position part

/-- No argument in front of it has the name of a comparison's argument. -/
theorem get?_comparison
    (free : ∀ name ∈ rawPlaceholders clauses, ¬ placeholderPrefix.toList <+: name.toList)
    (listed : clauses[index]? = some (.compare column comparison value)) :
    (ParamList.mk ((partsFrom dialect 0 clauses).flatMap Part.arguments)).get?
        (placeholder (position (partsFrom dialect 0 clauses) index)) = some value := by
  refine ParamList.get?_of_first (getElem?_comparison listed) ?_
  intro earlier before other standing same
  rcases placeholder_of_partsFrom standing with given | named
  · rw [same] at given
    exact free _ given (prefix_numbered placeholderPrefix _)
  · rw [same, Nat.zero_add] at named
    exact absurd (numbered_injective placeholderPrefix named) (Nat.ne_of_gt before)

end

theorem join_of_several {texts : List String} (several : 2 ≤ texts.length) :
    join texts = " AND ".intercalate (texts.map fun text => "(" ++ text ++ ")") := by
  match texts, several with
  | _ :: _ :: _, _ => rfl

theorem compile_eq (conjunction : Conjunction) (dialect : Dialect) :
    conjunction.compile dialect =
      ⟨join ((partsFrom dialect 0 conjunction.clauses).map Part.text),
        ⟨(partsFrom dialect 0 conjunction.clauses).flatMap Part.arguments⟩⟩ := by
  rw [compile, compileClauses_eq]
  rfl

/-- Whatever the clauses are and in whichever order, and whatever the dialect does to names, a
condition is made of the parts of its clauses. -/
theorem compile_madeOf (conjunction : Conjunction) (dialect : Dialect) :
    ∃ parts, MadeOf dialect conjunction.clauses parts (conjunction.compile dialect) := by
  rw [compile_eq]
  refine ⟨partsFrom dialect 0 conjunction.clauses, ?_⟩
  exact {
    each := fun index => by rw [getElem?_partsFrom, Nat.zero_add]
    arguments := rfl
    absent := fun none => by rw [none]; rfl
    alone := fun part single => by rw [single]; rfl
    several := fun many => by
      rw [join_of_several (by rwa [List.length_map]), List.map_map]
      rfl
    own := fun index column comparison value => getElem?_comparison
    found := fun free index column comparison value => get?_comparison free }

/-- The first comparison is the third clause and has the third argument, the second one is the fifth
clause and has the fourth argument. -/
def scattered : Conjunction :=
  ⟨[.isNull "gone",
    .raw "city IN (:a, :b)" ⟨[⟨":a", .text "Oslo"⟩, ⟨":b", .text "Riga"⟩]⟩,
    .compare "age" .lt (.int 30), .isNotNull "mail", .compare "age" .gte (.int 7)]⟩

theorem compile_madeOf_scattered :
    (∀ name ∈ rawPlaceholders scattered.clauses, ¬ placeholderPrefix.toList <+: name.toList) ∧
      (scattered.compile {}).arguments.get? ":db_condition_placeholder_2" = some (.int 30) ∧
      (scattered.compile {}).arguments.get? ":db_condition_placeholder_3" = some (.int 7) := by
  have free : ∀ name ∈ rawPlaceholders scattered.clauses,
      ¬ placeholderPrefix.toList <+: name.toList := by decide +kernel
  obtain ⟨parts, made⟩ := compile_madeOf scattered {}
  have first : placeholder (position parts 2) = ":db_condition_placeholder_2" := by
    rw [made.parts_eq]
    decide +kernel
  have second : placeholder (position parts 4) = ":db_condition_placeholder_3" := by
    rw [made.parts_eq]
    decide +kernel
  refine ⟨free, ?_, ?_⟩
  · rw [← first]
    exact made.found free 2 "age" .lt (.int 30) rfl
  · rw [← second]
    exact made.found free 4 "age" .gte (.int 7) rfl

end Conjunction

end SqlBridge
