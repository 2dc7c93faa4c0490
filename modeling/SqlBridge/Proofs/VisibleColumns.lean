import SqlBridge.Session.Statement

/-!
# Visible columns of a result

The visible positions are those of the columns that are neither technical nor
dropped, in ascending order, and the names go with them.
-/

set_option autoImplicit false

namespace SqlBridge

/-! ## Visible positions -/

theorem isVisible_iff (dropped : List String) (column : Column) :
    isVisible dropped column = true ↔
      ¬ ['_', '_'] <+: column.name.toList ∧ column.name ∉ dropped := by
  have technical : isTechnical column.name = true ↔ ['_', '_'] <+: column.name.toList :=
    List.isPrefixOf_iff_prefix
  rw [← technical]
  simp [isVisible]

theorem mem_visiblePositionsFrom {dropped : List String} {start position : Nat}
    {columns : List Column} :
    position ∈ visiblePositionsFrom dropped start columns ↔
      ∃ offset column, position = start + offset ∧ columns[offset]? = some column ∧
        isVisible dropped column = true := by
  induction columns generalizing start with
  | nil => simp [visiblePositionsFrom]
  | cons first rest ih =>
    have tail : (∃ offset column, position = start + (offset + 1) ∧ rest[offset]? = some column ∧
        isVisible dropped column = true) ↔
        position ∈ visiblePositionsFrom dropped (start + 1) rest := by
      rw [ih]
      simp only [Nat.add_assoc, Nat.add_comm 1]
    have split : position ∈ visiblePositionsFrom dropped start (first :: rest) ↔
        position = start ∧ isVisible dropped first = true ∨
          position ∈ visiblePositionsFrom dropped (start + 1) rest := by
      rw [visiblePositionsFrom]
      split
      · simp [*]
      · simp [*]
    rw [split, ← tail]
    constructor
    · rintro (⟨rfl, visible⟩ | ⟨offset, column, rfl, present, visible⟩)
      · exact ⟨0, first, rfl, rfl, visible⟩
      · exact ⟨offset + 1, column, rfl, present, visible⟩
    · rintro ⟨offset, column, rfl, present, visible⟩
      cases offset with
      | zero =>
        cases present
        exact .inl ⟨rfl, visible⟩
      | succ offset => exact .inr ⟨offset, column, rfl, present, visible⟩

theorem mem_visiblePositions {dropped : List String} {position : Nat} {columns : List Column} :
    position ∈ visiblePositions columns dropped ↔
      ∃ column, columns[position]? = some column ∧ isVisible dropped column = true := by
  rw [visiblePositions, mem_visiblePositionsFrom]
  simp

theorem pairwise_visiblePositionsFrom (dropped : List String) (start : Nat)
    (columns : List Column) :
    (visiblePositionsFrom dropped start columns).Pairwise (· < ·) := by
  induction columns generalizing start with
  | nil => exact .nil
  | cons first rest ih =>
    unfold visiblePositionsFrom
    split
    · refine .cons ?_ (ih (start + 1))
      intro position later
      obtain ⟨offset, column, rfl, _⟩ := mem_visiblePositionsFrom.mp later
      omega
    · exact ih (start + 1)

namespace Statement

theorem getElem?_namesAt {columns : List Column} {positions : List Nat}
    (inside : ∀ position ∈ positions, position < columns.length) (index : Nat) :
    (namesAt columns positions)[index]? =
      positions[index]?.bind fun position => columns[position]?.map Column.name := by
  induction positions generalizing index with
  | nil => rfl
  | cons position rest ih =>
    obtain ⟨column, present⟩ : ∃ column, columns[position]? = some column :=
      ⟨_, List.getElem?_eq_getElem (inside position List.mem_cons_self)⟩
    rw [namesAt, List.filterMap_cons, present]
    cases index with
    | zero => simp [present]
    | succ index => exact ih (fun other later => inside other (List.mem_cons_of_mem _ later)) index

theorem length_namesAt {columns : List Column} {positions : List Nat}
    (inside : ∀ position ∈ positions, position < columns.length) :
    (namesAt columns positions).length = positions.length := by
  rw [namesAt, List.filterMap_length_eq_length]
  intro position listed
  simpa using inside position listed

/-! ## The shape of a result -/

/-- What a statement shows of its columns when the named ones are dropped. -/
structure Shaped (statement : Statement) (dropped : List String) : Prop where
  increasing : statement.visible.Pairwise (· < ·)
  inside : ∀ position ∈ statement.visible, position < statement.columns.length
  size : statement.columnNames.length = statement.visible.length
  named : ∀ (index position : Nat) (column : Column), statement.visible[index]? = some position →
    statement.columns[position]? = some column →
      statement.columnNames[index]? = some column.name
  shown : ∀ (position : Nat) (column : Column), statement.columns[position]? = some column →
    (position ∈ statement.visible ↔
      ¬ ['_', '_'] <+: column.name.toList ∧ column.name ∉ dropped)

def result (statement : Statement) : List Column × List Nat × List String :=
  (statement.columns, statement.visible, statement.columnNames)

theorem Shaped.withResult (columns : List Column) (dropped : List String) (statement : Statement) :
    Shaped (withResult columns (visiblePositions columns dropped) statement) dropped := by
  have inside : ∀ position ∈ visiblePositions columns dropped, position < columns.length := by
    intro position visible
    obtain ⟨column, present, _⟩ := mem_visiblePositions.mp visible
    exact (List.getElem?_eq_some_iff.mp present).1
  refine ⟨pairwise_visiblePositionsFrom dropped 0 columns, inside, length_namesAt inside, ?_, ?_⟩
  · intro index position column placed present
    change (namesAt columns (visiblePositions columns dropped))[index]? = _
    change (visiblePositions columns dropped)[index]? = _ at placed
    change columns[position]? = _ at present
    rw [getElem?_namesAt inside, placed, Option.bind_some, present, Option.map_some]
  · intro position column present
    change columns[position]? = _ at present
    change position ∈ visiblePositions columns dropped ↔ _
    rw [mem_visiblePositions, ← isVisible_iff]
    simp [present]

theorem Shaped.withoutResult (dropped : List String) (statement : Statement) :
    Shaped (withoutResult statement) dropped :=
  ⟨.nil, by simp [Statement.withoutResult], rfl, by simp [Statement.withoutResult],
    by simp [Statement.withoutResult]⟩

theorem Shaped.of_result_eq {statement other : Statement} {dropped : List String}
    (shaped : Shaped statement dropped) (same : other.result = statement.result) :
    Shaped other dropped := by
  simp only [result, Prod.mk.injEq] at same
  obtain ⟨columns, visible, names⟩ := same
  constructor
  · rw [visible]
    exact shaped.increasing
  · rw [visible, columns]
    exact shaped.inside
  · rw [visible, names]
    exact shaped.size
  · rw [visible, columns, names]
    exact shaped.named
  · rw [visible, columns]
    exact shaped.shown

end Statement

end SqlBridge
