import SqlBridge.Sql.QueryKind
import SqlBridge.Proofs.DialectText
import SqlBridge.Proofs.UpdatePlan

/-!
# The leading keyword of an update

What kind a query is of is read off its first keyword.  The comment that a dialect writes in front
of a statement ends where it was meant to end, whatever the comments are.  So the keyword behind it
is the one that is read.
-/

set_option autoImplicit false

namespace SqlBridge

namespace QueryKind

theorem afterCommentEnd_unclosed {body : List Char} (unclosed : Comment.Unclosed body)
    (rest : List Char) : afterCommentEnd (body ++ '*' :: '/' :: rest) = rest := by
  induction body with
  | nil => rfl
  | cons c body ih =>
    rw [List.cons_append, afterCommentEnd]
    · exact ih unclosed.2
    · intro more star same
      exact Comment.append_star_ne (unclosed.1 star) same.symm

/-- What is not a comment is left as it is, but for leading blanks. -/
theorem skipComments_eq_trimStart {text : List Char}
    (uncommented : ∀ rest, Text.trimStart text ≠ '/' :: '*' :: rest) :
    skipComments text = Text.trimStart text := by
  rw [skipComments]
  split
  next rest trimmed => exact absurd trimmed (uncommented rest)
  next => rfl

theorem skipComments_of_trimStart {text rest : List Char}
    (comment : Text.trimStart text = '/' :: '*' :: rest) :
    skipComments text = skipComments (afterCommentEnd rest) := by
  rw [skipComments]
  split <;> simp_all

/-- Leading blanks make no difference. -/
theorem skipComments_congr {text other : List Char}
    (same : Text.trimStart text = Text.trimStart other) :
    skipComments text = skipComments other := by
  by_cases commented : ∃ rest, Text.trimStart text = '/' :: '*' :: rest
  · obtain ⟨rest, comment⟩ := commented
    rw [skipComments_of_trimStart comment, skipComments_of_trimStart (same.symm.trans comment)]
  · have uncommented := not_exists.mp commented
    rw [skipComments_eq_trimStart uncommented, same,
      skipComments_eq_trimStart (same ▸ uncommented)]

theorem skipComments_header (comments : List String) (text : List Char) :
    skipComments ((Comment.header comments).toList ++ text) = skipComments text := by
  rcases Comment.toList_header comments with none | ⟨body, unclosed, some⟩
  · rw [none, List.nil_append]
  · have spaced : (Comment.header comments).toList ++ text =
        '/' :: '*' :: (body ++ '*' :: '/' :: ' ' :: text) := by
      rw [some]
      simp
    rw [spaced, skipComments_of_trimStart rfl, afterCommentEnd_unclosed unclosed]
    exact skipComments_congr rfl

/-- A comment in front of a statement leaves its kind. -/
theorem ofSql_header_append (comments : List String) (sql : String) :
    ofSql (Comment.header comments ++ sql) = ofSql sql := by
  rw [ofSql, String.toList_append, skipComments_header, ofSql]

theorem ofSql_update (rest : String) : ofSql ("UPDATE \x7b" ++ rest) = .update := by
  have kept : skipComments ("UPDATE \x7b" ++ rest).toList = ("UPDATE \x7b" ++ rest).toList := by
    rw [String.toList_append]
    exact skipComments_eq_trimStart fun rest slash => by cases slash
  rw [ofSql, kept, String.toList_append]
  rfl

end QueryKind

namespace Update

/-- Whatever an update assigns in whichever table, it can be told for what it is. -/
theorem ofSql_statementText (update : Update) {dialect : Dialect}
    (commented : dialect.makeComment = Comment.header) (info : ColumnInformation) :
    QueryKind.ofSql (update.statementText dialect info) = .update := by
  rw [statementText, sqlWith_eq, commented]
  simp only [String.append_assoc]
  rw [QueryKind.ofSql_header_append, QueryKind.ofSql_update]

end Update

end SqlBridge
