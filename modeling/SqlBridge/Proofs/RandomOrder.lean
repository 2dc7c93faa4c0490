import Mathlib.Logic.Function.Iterate
import SqlBridge.Sql.RandomOrder

/-!
# Random order asked for again

Random order looks for a computed column under the alias that it asks for, and
sorts by the alias that the builder has used.  Where the builder uses the alias
asked for, the order is given once however often it is asked for; where it uses
another, every call adds one more column and one more sort term.
-/

set_option autoImplicit false

namespace SqlBridge

/-- A builder whose computed columns, with the aliases used for them, and whose sort terms can be
told, and which adds only what it is asked for. -/
class LawfulSelectBuilder (β : Type) [SelectBuilder β] where
  /-- Expressions with their aliases. -/
  columns : β → List (String × String)
  terms : β → List (String × Direction)
  hasExpression_iff : ∀ query name, SelectBuilder.hasExpression query name = true ↔
    name ∈ (columns query).map Prod.snd
  columns_addExpression : ∀ query expression name,
    columns (SelectBuilder.addExpression query expression name).2 =
      columns query ++ [(expression, (SelectBuilder.addExpression query expression name).1)]
  terms_addExpression : ∀ query expression name,
    terms (SelectBuilder.addExpression query expression name).2 = terms query
  columns_orderBy : ∀ query field direction,
    columns (SelectBuilder.orderBy query field direction) = columns query
  terms_orderBy : ∀ query field direction,
    terms (SelectBuilder.orderBy query field direction) = terms query ++ [(field, direction)]

instance : LawfulSelectBuilder SelectParts where
  columns := SelectParts.expressions
  terms := SelectParts.order
  hasExpression_iff query name := by
    change SelectParts.hasExpression query name = true ↔ _
    simp [SelectParts.hasExpression]
  columns_addExpression _ _ _ := rfl
  terms_addExpression _ _ _ := rfl
  columns_orderBy _ _ _ := rfl
  terms_orderBy _ _ _ := rfl

namespace RandomOrder

open SelectBuilder LawfulSelectBuilder

variable {β : Type} [SelectBuilder β]

def usedAlias (query : β) : String :=
  (addExpression query expression sortAlias).1

theorem apply_of_hasExpression {query : β} (has : hasExpression query sortAlias = true) :
    apply query = query := by
  rw [apply, if_pos has]

variable [LawfulSelectBuilder β] {query middle later : β} {aliases more : List String}

structure Adds (query : β) (aliases : List String) (later : β) : Prop where
  columns : columns later = columns query ++ aliases.map fun name => (expression, name)
  terms : terms later = terms query ++ aliases.map fun name => (name, .asc)

theorem Adds.refl (query : β) : Adds query [] query where
  columns := (List.append_nil _).symm
  terms := (List.append_nil _).symm

theorem Adds.trans (first : Adds query aliases middle) (second : Adds middle more later) :
    Adds query (aliases ++ more) later where
  columns := by rw [second.columns, first.columns, List.map_append, List.append_assoc]
  terms := by rw [second.terms, first.terms, List.map_append, List.append_assoc]

theorem Adds.length_eq (first : Adds query aliases later) (second : Adds query more later) :
    aliases.length = more.length := by
  have same := congrArg List.length (first.columns.symm.trans second.columns)
  simpa using same

/-- The guard answers for the aliases added, as the query had no column of the alias itself. -/
theorem Adds.hasExpression_iff (adds : Adds query aliases later)
    (unsorted : hasExpression query sortAlias = false) :
    hasExpression later sortAlias = true ↔ sortAlias ∈ aliases := by
  have absent : sortAlias ∉ (LawfulSelectBuilder.columns query).map Prod.snd := by
    rw [← LawfulSelectBuilder.hasExpression_iff, unsorted]
    exact Bool.false_ne_true
  rw [LawfulSelectBuilder.hasExpression_iff, adds.columns, List.map_append, List.mem_append,
    List.map_map]
  simp [absent]

theorem adds_apply (unsorted : hasExpression query sortAlias = false) :
    Adds query [usedAlias query] (apply query) := by
  have applied : apply query =
      orderBy (addExpression query expression sortAlias).2 (usedAlias query) .asc := by
    rw [apply, if_neg (by simp [unsorted])]
    rfl
  constructor
  · rw [applied, columns_orderBy, columns_addExpression]
    rfl
  · rw [applied, terms_orderBy, terms_addExpression]
    rfl

/-- Calls add until one of them has been given the alias that it asked for. -/
theorem exists_adds_iterate (unsorted : hasExpression query sortAlias = false) (calls : Nat) :
    ∃ aliases, Adds query aliases (apply^[calls] query) ∧ sortAlias ∉ aliases.dropLast ∧
      (aliases.length = calls ∨ aliases.length < calls ∧ sortAlias ∈ aliases) := by
  induction calls with
  | zero => exact ⟨[], .refl query, List.not_mem_nil, .inl rfl⟩
  | succ calls ih =>
    obtain ⟨aliases, adds, before, progress⟩ := ih
    rw [Function.iterate_succ_apply']
    by_cases found : sortAlias ∈ aliases
    · rw [apply_of_hasExpression ((adds.hasExpression_iff unsorted).mpr found)]
      exact ⟨aliases, adds, before, .inr ⟨by omega, found⟩⟩
    · have still : hasExpression (apply^[calls] query) sortAlias = false := by
        rw [← Bool.not_eq_true, adds.hasExpression_iff unsorted]
        exact found
      have all : aliases.length = calls := progress.resolve_right fun ended => found ended.2
      refine ⟨_, adds.trans (adds_apply still), ?_, .inl ?_⟩
      · rw [List.dropLast_concat]
        exact found
      · rw [List.length_append, all, List.length_singleton]

/-- Any number of calls, from one on, does what one call does, and that is to add one random
column and one sort term. -/
def Idempotent (query : β) : Prop :=
  ∀ calls, apply^[calls + 1] query = apply query ∧
    ∃ name, Adds query [name] (apply^[calls + 1] query)

theorem idempotent_iff (unsorted : hasExpression query sortAlias = false) :
    Idempotent query ↔ usedAlias query = sortAlias := by
  have once := adds_apply unsorted
  constructor
  · intro idempotent
    by_contra renamed
    have still : hasExpression (apply query) sortAlias = false := by
      rw [← Bool.not_eq_true, once.hasExpression_iff unsorted, List.mem_singleton]
      exact fun same => renamed same.symm
    have again : apply (apply query) = apply query := (idempotent 1).1
    have twice := once.trans (adds_apply still)
    rw [again] at twice
    cases once.length_eq twice
  · intro same calls
    have fixed : apply (apply query) = apply query := by
      apply apply_of_hasExpression
      rw [once.hasExpression_iff unsorted, same]
      exact List.mem_singleton_self _
    have one : apply^[calls + 1] query = apply query := by
      rw [Function.iterate_succ_apply]
      exact Function.iterate_fixed fixed calls
    rw [one]
    exact ⟨rfl, _, once⟩

/-- Asking again changes nothing just if the builder has used the alias asked for.  In general the
calls add as many columns and terms as it takes until it does. -/
theorem apply_idempotent_iff (query : β) (unsorted : hasExpression query sortAlias = false) :
    (Idempotent query ↔ usedAlias query = sortAlias) ∧
      ∀ calls, ∃ aliases, Adds query aliases (apply^[calls] query) ∧
        sortAlias ∉ aliases.dropLast ∧
          (aliases.length = calls ∨ aliases.length < calls ∧ sortAlias ∈ aliases) :=
  ⟨idempotent_iff unsorted, exists_adds_iterate unsorted⟩

def numberedQuery : SelectParts :=
  { suffix := "_1" }

theorem apply_idempotent_iff_numbered :
    hasExpression numberedQuery sortAlias = false ∧ ¬ Idempotent numberedQuery ∧
      ∃ aliases, Adds numberedQuery aliases (apply^[3] numberedQuery) ∧ aliases.length = 3 := by
  have unsorted : hasExpression numberedQuery sortAlias = false := by decide
  obtain ⟨sameAlias, adds⟩ := apply_idempotent_iff numberedQuery unsorted
  obtain ⟨aliases, added, _, _⟩ := adds 3
  refine ⟨unsorted, ?_, aliases, added, ?_⟩
  · rw [sameAlias]
    decide
  · have columns := congrArg List.length added.columns
    have counted : (apply^[3] numberedQuery).expressions.length = 3 := by decide
    change (apply^[3] numberedQuery).expressions.length = _ at columns
    rw [counted, List.length_append, List.length_map] at columns
    exact (columns.trans (Nat.zero_add _)).symm

/-- The builder has its own alias for the column, and answers for it; the second call does not
find it and adds the column again. -/
theorem numbered_adds_again :
    hasExpression numberedQuery sortAlias = false ∧
      (∀ (query : SelectParts) expression name,
        hasExpression (addExpression query expression name).2
          (addExpression query expression name).1 = true) ∧
      (apply (apply numberedQuery)).expressions =
        [("NEWID()", "random_field_1"), ("NEWID()", "random_field_1")] ∧
      (apply (apply numberedQuery)).order =
        [("random_field_1", .asc), ("random_field_1", .asc)] ∧
      ¬ Idempotent numberedQuery := by
  refine ⟨by decide, ?_, by decide, by decide, ?_⟩
  · intro query expression name
    rw [LawfulSelectBuilder.hasExpression_iff, columns_addExpression]
    simp
  · intro idempotent
    have once : apply^[2] numberedQuery = apply numberedQuery := (idempotent 1).1
    revert once
    decide

end RandomOrder

end SqlBridge
