import SqlBridge.Text.Blank

/-!
# Kinds of queries

A query is recognised by its first keyword, in either ASCII case, after any
blanks and bracketed comments.
-/

set_option autoImplicit false

namespace SqlBridge

inductive QueryKind where
  | select
  | insert
  | update
  | delete
  | other
  deriving DecidableEq

namespace QueryKind

/-- What follows the first end of a comment; nothing where the comment never ends. -/
def afterCommentEnd : List Char → List Char
  | '*' :: '/' :: rest => rest
  | _ :: rest => afterCommentEnd rest
  | [] => []

theorem afterCommentEnd_length_le (text : List Char) :
    (afterCommentEnd text).length ≤ text.length := by
  fun_induction afterCommentEnd text with
  | case1 rest => simp only [List.length_cons]; omega
  | case2 _ rest _ ih => simp only [List.length_cons]; omega
  | case3 => exact Nat.le_refl _

/-- The text without its leading blanks and comments. -/
def skipComments (text : List Char) : List Char :=
  match _trimmed : Text.trimStart text with
  | '/' :: '*' :: rest => skipComments (afterCommentEnd rest)
  | rest => rest
termination_by text.length
decreasing_by
  have shorter := Text.trimStart_length_le text
  have inner := afterCommentEnd_length_le rest
  rw [_trimmed] at shorter
  simp only [List.length_cons] at shorter
  omega

def ofKeyword (keyword : String) : QueryKind :=
  if keyword = "SELECT" then select
  else if keyword = "INSERT" then insert
  else if keyword = "UPDATE" then update
  else if keyword = "DELETE" then delete
  else other

def ofSql (sql : String) : QueryKind :=
  let letters := (skipComments sql.toList).takeWhile Char.isAlpha
  ofKeyword (String.ofList (letters.map Char.toUpper))

def name : QueryKind → String
  | select => "Select"
  | insert => "Insert"
  | update => "Update"
  | delete => "Delete"
  | other => "Other"

end QueryKind

end SqlBridge
