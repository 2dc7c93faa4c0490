import Mathlib.Data.List.Nodup
import Std.Data.String.ToNat
import SqlBridge.Proofs.UpdateOpening

/-!
# The placeholders of an update

Three parties name the placeholders of an update: whoever wrote the expressions and the raw
clauses, the counter of the literals, and the condition, which numbers a comparison by the
arguments before it.  Where the two numbered kinds cannot be taken for each other, and no given
name for one of them, no placeholder is bound twice.
-/

set_option autoImplicit false

namespace SqlBridge

open Transcript

variable {σ : Type}

/-! ## Numbered names -/

def Apart (first second : String) : Prop :=
  ¬ first.toList <+: second.toList ∧ ¬ second.toList <+: first.toList

theorem prefix_numbered (front : String) (number : Nat) :
    front.toList <+: (front ++ toString number).toList := by
  rw [String.toList_append]
  exact List.prefix_append ..

theorem numbered_injective (front : String) :
    Function.Injective fun number : Nat => front ++ toString number := by
  intro number other same
  have texts := congrArg String.toList same
  simp only [String.toList_append] at texts
  exact Nat.repr_injective (String.toList_inj.mp (List.append_cancel_left texts))

theorem Apart.numbered_ne {first second : String} (apart : Apart first second)
    (number other : Nat) : first ++ toString number ≠ second ++ toString other := by
  intro same
  have begins := prefix_numbered first number
  rw [same] at begins
  rcases List.prefix_or_prefix_of_prefix begins (prefix_numbered second other) with front | front
  · exact apart.1 front
  · exact apart.2 front

/-! ## The placeholders of a condition -/

def ParamList.placeholders (list : ParamList) : List String :=
  list.params.map Param.placeholder

theorem ParamList.placeholders_append (list more : ParamList) :
    (list ++ more).placeholders = list.placeholders ++ more.placeholders :=
  List.map_append

theorem ParamList.placeholders_add (list : ParamList) (placeholder : String) (value : Value) :
    (list.add placeholder value).placeholders = list.placeholders ++ [placeholder] :=
  List.map_append

namespace Conjunction

def placeholdersFrom : Nat → List Clause → List String
  | _, [] => []
  | number, .raw _ own :: rest => own.placeholders ++ placeholdersFrom (number + own.size) rest
  | number, .compare _ _ _ :: rest => placeholder number :: placeholdersFrom (number + 1) rest
  | number, .isNull _ :: rest => placeholdersFrom number rest
  | number, .isNotNull _ :: rest => placeholdersFrom number rest

/-- The placeholders that the author of the clauses has chosen. -/
def rawPlaceholders : List Clause → List String
  | [] => []
  | .raw _ own :: rest => own.placeholders ++ rawPlaceholders rest
  | .compare _ _ _ :: rest => rawPlaceholders rest
  | .isNull _ :: rest => rawPlaceholders rest
  | .isNotNull _ :: rest => rawPlaceholders rest

theorem placeholders_compileClauses (dialect : Dialect) (arguments : ParamList)
    (clauses : List Clause) :
    (compileClauses dialect arguments clauses).2.placeholders =
      arguments.placeholders ++ placeholdersFrom arguments.size clauses := by
  induction clauses generalizing arguments with
  | nil => exact (List.append_nil _).symm
  | cons clause rest ih =>
    rw [compileClauses]
    cases clause with
    | raw sql own =>
      simp only [compileClause, ih, placeholdersFrom, ParamList.placeholders_append,
        ParamList.size_append, List.append_assoc]
    | compare column comparison value =>
      simp only [compileClause, ih, placeholdersFrom, ParamList.placeholders_add,
        ParamList.size_add, List.append_assoc, List.singleton_append]
    | isNull column => simp only [compileClause, ih, placeholdersFrom]
    | isNotNull column => simp only [compileClause, ih, placeholdersFrom]

/-- A placeholder is one of the author's, or it has a number from the given one on. -/
theorem mem_placeholdersFrom {number : Nat} {clauses : List Clause} {name : String}
    (listed : name ∈ placeholdersFrom number clauses) :
    name ∈ rawPlaceholders clauses ∨ ∃ later, number ≤ later ∧ name = placeholder later := by
  induction clauses generalizing number with
  | nil => cases listed
  | cons clause rest ih =>
    cases clause with
    | raw sql own =>
      rw [placeholdersFrom, List.mem_append] at listed
      rw [rawPlaceholders, List.mem_append]
      rcases listed with given | behind
      · exact .inl (.inl given)
      · rcases ih behind with given | ⟨later, after, rfl⟩
        · exact .inl (.inr given)
        · exact .inr ⟨later, Nat.le_of_add_right_le after, rfl⟩
    | compare column comparison value =>
      rw [placeholdersFrom, List.mem_cons] at listed
      rcases listed with rfl | behind
      · exact .inr ⟨number, Nat.le_refl number, rfl⟩
      · rcases ih behind with given | ⟨later, after, rfl⟩
        · exact .inl given
        · exact .inr ⟨later, Nat.le_of_succ_le after, rfl⟩
    | isNull column => exact ih listed
    | isNotNull column => exact ih listed

theorem nodup_placeholdersFrom {clauses : List Clause} (number : Nat)
    (distinct : (rawPlaceholders clauses).Nodup)
    (free : ∀ name ∈ rawPlaceholders clauses, ¬ placeholderPrefix.toList <+: name.toList) :
    (placeholdersFrom number clauses).Nodup := by
  induction clauses generalizing number with
  | nil => exact List.nodup_nil
  | cons clause rest ih =>
    cases clause with
    | raw sql own =>
      obtain ⟨ownDistinct, restDistinct, disjoint⟩ := List.nodup_append.mp distinct
      simp only [rawPlaceholders, List.mem_append] at free
      have restFree := fun name given => free name (.inr given)
      refine List.nodup_append.mpr ⟨ownDistinct, ih _ restDistinct restFree, ?_⟩
      rintro name given _ listed rfl
      rcases mem_placeholdersFrom listed with again | ⟨later, _, rfl⟩
      · exact disjoint name given name again rfl
      · exact free _ (.inl given) (prefix_numbered placeholderPrefix later)
    | compare column comparison value =>
      refine List.nodup_cons.mpr ⟨fun listed => ?_, ih _ distinct free⟩
      rcases mem_placeholdersFrom listed with given | ⟨later, after, same⟩
      · exact free _ given (prefix_numbered placeholderPrefix number)
      · have equal : number = later := numbered_injective placeholderPrefix same
        omega
    | isNull column => exact ih number distinct free
    | isNotNull column => exact ih number distinct free

end Conjunction

/-! ## The placeholders of a plan -/

namespace Binding

theorem placeholder_ofLiteral (info : ColumnInformation) (placeholder field : String)
    (content : Value) : (ofLiteral info placeholder field content).placeholder = placeholder := by
  rw [ofLiteral_eq]
  split <;> rfl

theorem map_placeholder_ofLiteralsFrom (info : ColumnInformation) (placeholder : Nat → String)
    (literals : Fields Value) :
    (ofLiteralsFrom info placeholder 0 literals).map Binding.placeholder =
      (List.range literals.length).map placeholder := by
  rw [ofLiteralsFrom, List.map_map, List.range_eq_range', ← List.zipIdx_map_snd, List.map_map]
  apply List.map_congr_left
  intro numbered _
  exact placeholder_ofLiteral info (placeholder numbered.2) numbered.1.1 numbered.1.2

theorem map_placeholder_ofParam (list : ParamList) :
    (list.params.map ofParam).map placeholder = list.placeholders := by
  rw [List.map_map]
  rfl

end Binding

namespace Update

def expressionPlaceholders (expressions : Fields Expression) : List String :=
  expressions.flatMap fun field => field.2.arguments.placeholders

/-- The arguments of the expressions, the literals by their numbers, and the condition. -/
theorem map_placeholder_bindings {update : Update} {clauses : List Clause}
    (restricts : update.Restricts clauses) (dialect : Dialect) (info : ColumnInformation) :
    (update.bindings dialect info).map Binding.placeholder =
      expressionPlaceholders update.expressions ++
        (List.range (update.assignedLiterals info).length).map update.placeholder ++
          Conjunction.placeholdersFrom 0 clauses := by
  have expressions : (Binding.ofExpressions update.expressions).map Binding.placeholder =
      expressionPlaceholders update.expressions := by
    rw [Binding.ofExpressions, List.map_flatMap]
    simp only [Binding.map_placeholder_ofParam]
    rfl
  have condition : (Binding.ofCondition (update.compiledCondition dialect)).map
      Binding.placeholder = Conjunction.placeholdersFrom 0 clauses := by
    rw [restricts.compiledCondition_eq]
    by_cases empty : clauses = []
    · rw [if_pos empty, empty]
      rfl
    · rw [if_neg empty, Binding.ofCondition, Binding.map_placeholder_ofParam]
      exact Conjunction.placeholders_compileClauses dialect .empty clauses
  rw [bindings, List.map_append, List.map_append, expressions, condition,
    Binding.map_placeholder_ofLiteralsFrom]

def givenPlaceholders (update : Update) (clauses : List Clause) : List String :=
  expressionPlaceholders update.expressions ++ Conjunction.rawPlaceholders clauses

/-- Names of the three kinds are different, each kind among itself and from the others. -/
structure Distinguishable (update : Update) (clauses : List Clause) : Prop where
  apart : Apart update.placeholderPrefix Conjunction.placeholderPrefix
  distinct : (update.givenPlaceholders clauses).Nodup
  free : ∀ name ∈ update.givenPlaceholders clauses,
    ¬ update.placeholderPrefix.toList <+: name.toList ∧
      ¬ Conjunction.placeholderPrefix.toList <+: name.toList

theorem Distinguishable.nodup {update : Update} {clauses : List Clause}
    (different : update.Distinguishable clauses) (restricts : update.Restricts clauses)
    (dialect : Dialect) (info : ColumnInformation) :
    ((update.bindings dialect info).map Binding.placeholder).Nodup := by
  obtain ⟨apart, distinct, free⟩ := different
  obtain ⟨expressions, raw, disjoint⟩ := List.nodup_append.mp distinct
  simp only [givenPlaceholders, List.mem_append] at free
  have literals : ((List.range (update.assignedLiterals info).length).map
      update.placeholder).Nodup :=
    List.nodup_range.map (numbered_injective update.placeholderPrefix)
  have condition := Conjunction.nodup_placeholdersFrom 0 raw
    fun name given => (free name (.inr given)).2
  rw [map_placeholder_bindings restricts]
  refine List.nodup_append.mpr ⟨List.nodup_append.mpr ⟨expressions, literals, ?_⟩, condition, ?_⟩
  · rintro name given _ listed rfl
    obtain ⟨number, _, rfl⟩ := List.mem_map.mp listed
    exact (free _ (.inl given)).1 (prefix_numbered update.placeholderPrefix number)
  · -- A name of the condition is one of the author's or has its number there.
    rintro name early _ listed rfl
    rcases Conjunction.mem_placeholdersFrom listed with own | ⟨later, _, rfl⟩
    · rcases List.mem_append.mp early with given | literal
      · exact disjoint name given name own rfl
      · obtain ⟨number, _, rfl⟩ := List.mem_map.mp literal
        exact (free _ (.inr own)).1 (prefix_numbered update.placeholderPrefix number)
    · rcases List.mem_append.mp early with given | literal
      · exact (free _ (.inl given)).2 (prefix_numbered Conjunction.placeholderPrefix later)
      · obtain ⟨number, _, same⟩ := List.mem_map.mp literal
        exact apart.numbered_ne number later same

/-- Whatever becomes of an execution, it gives no placeholder a value twice.  Where there is a
statement and the engine accepts every binding, the placeholders of all three kinds have one. -/
theorem execute_binds_distinct_placeholders (engine : Engine σ) (update : Update)
    (clauses : List Clause) (session : Session σ) (restricts : update.Restricts clauses)
    (different : update.Distinguishable clauses) :
    let events := ((update.execute engine).run session).2.since session
    (placeholders events).Nodup ∧
      ∀ info, update.boundIn engine session = some info →
        (∀ event ∈ events, event.refusesBinding = false) →
          placeholders events = expressionPlaceholders update.expressions ++
            (List.range (update.assignedLiterals info).length).map update.placeholder ++
              Conjunction.placeholdersFrom 0 clauses := by
  intro events
  obtain ⟨_, unbound, binds⟩ := execute_shows engine update session
  constructor
  · cases bound : update.boundIn engine session with
    | none =>
      have none : placeholders events = [] := unbound bound
      rw [none]
      exact List.nodup_nil
    | some info =>
      have ordered : placeholders events <+: _ := (binds info bound).ordered
      exact (different.nodup restricts engine.dialect info).sublist ordered.sublist
  · intro info bound accepted
    rw [← map_placeholder_bindings restricts engine.dialect info]
    exact (binds info bound).complete accepted

def mixedClauses : List Clause :=
  [.compare "id" .gte (.int 7),
    .raw "city IN (:first, :second)" ⟨[⟨":first", .text "Oslo"⟩, ⟨":second", .text "Riga"⟩]⟩,
    .compare "age" .lt (.int 30)]

/-- Placeholders of all three kinds, under the prefix that an update has by default. -/
def mixed : Update where
  table := "users"
  literals := [("name", .text "Ann"), ("visits", .int 0), ("photo", .text "P")]
  expressions := [("visits", ⟨"visits + :step", ⟨[⟨":step", .int 1⟩]⟩⟩)]
  condition := some (Conjunction.toCondition ⟨mixedClauses⟩)

theorem execute_binds_distinct_placeholders_mixed :
    let bound := placeholders
      (((mixed.execute (Script.engine {})).run visitors).2.since visitors)
    bound.Nodup ∧ bound = [":step", ":placeholder_0", ":placeholder_1",
      ":db_condition_placeholder_0", ":first", ":second", ":db_condition_placeholder_3"] := by
  obtain ⟨distinct, complete⟩ := execute_binds_distinct_placeholders (Script.engine {}) mixed
    mixedClauses visitors (.inr rfl) ⟨⟨by decide, by decide⟩, by decide, by decide⟩
  refine ⟨distinct, (complete users (by decide +kernel) (by decide +kernel)).trans ?_⟩
  decide +kernel

end Update

end SqlBridge
