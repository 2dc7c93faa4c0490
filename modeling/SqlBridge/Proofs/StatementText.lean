import SqlBridge.Proofs.ConditionText
import SqlBridge.Proofs.UpdatePlan

/-!
# Reading statements

Names cannot change what a statement is: the text of an update of literals says
where the comment, the table, the fields and the clauses of the condition end,
whatever characters are in them.
-/

set_option autoImplicit false

namespace SqlBridge.Update

open NumberedText

structure Plain (update : Update) (clauses : List Clause) : Prop where
  expressions : update.expressions = []
  condition : update.condition = none ∧ clauses = [] ∨
    update.condition = some (Conjunction.toCondition ⟨clauses⟩)
  tested : ∀ clause ∈ clauses, clause.shape? ≠ none

def itemText (placeholder : Nat → String) (number : Nat) (field : String) : List Char :=
  (Identifier.quote field ++ "=" ++ placeholder number).toList

theorem readable_itemText (placeholder : Nat → String) : Readable (itemText placeholder) := by
  intro number field other rest back same
  simp only [itemText, String.toList_append, List.append_assoc] at same
  have ends : ∀ tail, Identifier.Ends ("=".toList ++ tail) := by
    intro tail
    simp [Identifier.Ends]
  obtain ⟨fields, tails⟩ := Identifier.quote_append_inj (ends _) (ends _) same
  exact ⟨fields, List.append_cancel_left (List.append_cancel_left tails)⟩

theorem head?_itemText (placeholder : Nat → String) (number : Nat) (field : String) :
    (itemText placeholder number field).head? = some '[' := by
  simp [itemText, Identifier.toList_quote]

theorem map_itemText (placeholder : Nat → String) (number : Nat) (literals : Fields Value) :
    ((literals.zipIdx number).map fun numbered =>
        (Identifier.quote numbered.1.1 ++ "=" ++ placeholder numbered.2).toList) =
      numberedFrom (itemText placeholder) (fun number _ => number + 1) number
        (Fields.names literals) := by
  induction literals generalizing number with
  | nil => rfl
  | cons field rest ih =>
    rw [List.zipIdx_cons, List.map_cons, ih, Fields.names_cons, numberedFrom, itemText]

def whereText (shapes : List (String × Test)) : List Char :=
  if shapes = [] then []
  else "\nWHERE ".toList ++ (Conjunction.join (Conjunction.shapeTexts 0 shapes)).toList

theorem whereText_inj {first second : List (String × Test)}
    (same : whereText first = whereText second) : first = second := by
  unfold whereText at same
  by_cases none : first = [] <;> by_cases empty : second = []
  · rw [none, empty]
  · simp [none, empty] at same
  · simp [none, empty] at same
  · rw [if_neg none, if_neg empty] at same
    exact Conjunction.join_inj (String.toList_inj.mp (List.append_cancel_left same))

theorem head?_whereText (shapes : List (String × Test)) :
    (whereText shapes).head? ≠ some '[' ∧ (whereText shapes).head? ≠ some ',' := by
  unfold whereText
  split <;> simp

theorem Plain.exists_shapes {update : Update} {clauses : List Clause}
    (plain : Plain update clauses) :
    ∃ shapes : List (String × Test), clauses.map Clause.shape? = shapes.map some := by
  refine ⟨clauses.filterMap Clause.shape?, ?_⟩
  rw [List.map_filterMap_some_eq_filter_map_isSome]
  symm
  rw [List.filter_eq_self]
  intro shape listed
  obtain ⟨clause, member, rfl⟩ := List.mem_map.mp listed
  exact Option.isSome_iff_ne_none.mpr (plain.tested clause member)

theorem Plain.toList_restriction {update : Update} {clauses : List Clause}
    (plain : Plain update clauses) {shapes : List (String × Test)}
    (shaped : clauses.map Clause.shape? = shapes.map some) :
    (restriction (update.compiledCondition {})).toList = whereText shapes := by
  have text := Conjunction.compileClauses_of_shapes shaped .empty
  have none : clauses = [] ↔ shapes = [] := by
    rw [← List.map_eq_nil_iff, shaped, List.map_eq_nil_iff]
  rw [Restricts.compiledCondition_eq plain.condition, whereText]
  by_cases empty : clauses = []
  · rw [if_pos empty, if_pos (none.mp empty)]
    rfl
  · rw [if_neg empty, if_neg (mt none.mpr empty), restriction, String.toList_append]
    simp only [Conjunction.compile, text]
    rfl

theorem Plain.toList_sql {update : Update} {clauses : List Clause} (plain : Plain update clauses)
    {shapes : List (String × Test)} (shaped : clauses.map Clause.shape? = shapes.map some) :
    (update.sql {}).toList =
      (Comment.header update.comments).toList ++ ("UPDATE \x7b".toList ++
        ((Identifier.tableName update.table).toList ++ '\x7d' :: (" SET ".toList ++
          ((',' :: [' ']).intercalate (numberedFrom (itemText update.placeholder)
            (fun number _ => number + 1) 0 (Fields.names update.literals)) ++
              whereText shapes)))) := by
  have items : update.setItems {} update.literals =
      update.literals.zipIdx.map fun numbered =>
        Identifier.quote numbered.1.1 ++ "=" ++ update.placeholder numbered.2 := by
    have kept : update.plainLiterals update.literals = update.literals := by
      simp [plainLiterals, hasExpression, plain.expressions]
    rw [setItems, expressionItems, literalItems, kept, plain.expressions]
    rfl
  have brace : "\x7d SET ".toList = '\x7d' :: " SET ".toList := by decide
  have comma : ", ".toList = [',', ' '] := by decide
  rw [← map_itemText, ← plain.toList_restriction shaped, sql, sqlWith_eq, items]
  simp only [String.toList_append, String.toList_intercalate, List.map_map, List.append_assoc,
    Function.comp_def, brace, comma, List.cons_append]

/-- Equal statements of literals and tests have equal parts. -/
theorem sql_inj_of_plain (first second : Update) (clauses others : List Clause)
    (firstPlain : Plain first clauses) (secondPlain : Plain second others)
    (numbered : first.placeholderPrefix = second.placeholderPrefix)
    (same : first.sql {} = second.sql {}) :
    Comment.header first.comments = Comment.header second.comments ∧
      Identifier.tableName first.table = Identifier.tableName second.table ∧
      Fields.names first.literals = Fields.names second.literals ∧
      clauses.map Clause.shape? = others.map Clause.shape? := by
  obtain ⟨shapes, shaped⟩ := firstPlain.exists_shapes
  obtain ⟨tests, tested⟩ := secondPlain.exists_shapes
  have texts := congrArg String.toList same
  rw [firstPlain.toList_sql shaped, secondPlain.toList_sql tested] at texts
  have placeholders : first.placeholder = second.placeholder := by
    funext number
    rw [placeholder, placeholder, numbered]
  obtain ⟨headers, texts⟩ := Comment.header_append_inj (by simp) (by simp) texts
  obtain ⟨tables, texts⟩ := Identifier.tableName_append_inj (List.append_cancel_left texts)
  rw [placeholders] at texts
  obtain ⟨fields, texts⟩ := intercalate_append_inj (readable_itemText second.placeholder)
    (head?_itemText second.placeholder) (head?_whereText shapes) (head?_whereText tests)
    (List.append_cancel_left texts)
  refine ⟨headers, tables, fields, ?_⟩
  rw [shaped, tested, whereText_inj texts]

/-- Names that look like SQL, and a comment that looks like its own end. -/
def hostile : Update where
  table := "t\x7d SET [a"
  literals := [("a]=1, [b.c", .int 1), ("d\nWHERE 1", .null)]
  condition := some (Conjunction.toCondition
    ⟨[.compare "e] IS NULL) AND ([f" .ne (.int 2), .isNull "g"]⟩)
  comments := ["*/ DROP TABLE t; /*"]

def otherValues : Update :=
  { hostile with
    table := "tSETa"
    literals := [("a]=1, [b.c", .text "x"), ("d\nWHERE 1", .int 5)]
    condition := some (Conjunction.toCondition
      ⟨[.compare "e] IS NULL) AND ([f" .ne .null, .isNull "g"]⟩) }

theorem sql_inj_of_plain_hostile :
    Comment.header hostile.comments = Comment.header otherValues.comments ∧
      Identifier.tableName "t\x7d SET [a" = Identifier.tableName "tSETa" ∧
      Fields.names hostile.literals = Fields.names otherValues.literals ∧
      [Clause.compare "e] IS NULL) AND ([f" .ne (.int 2), .isNull "g"].map Clause.shape? =
        [Clause.compare "e] IS NULL) AND ([f" .ne .null, .isNull "g"].map Clause.shape? :=
  sql_inj_of_plain hostile otherValues _ _ ⟨rfl, .inr rfl, by decide⟩ ⟨rfl, .inr rfl, by decide⟩ rfl
    (by decide +kernel)

end SqlBridge.Update
