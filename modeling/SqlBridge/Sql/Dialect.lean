/-!
# Dialect text

How names and comments are written into SQL.  The functions of this module are
the SQL Server conventions; a `Dialect` takes them by default and may replace
any of them.
-/

set_option autoImplicit false

namespace SqlBridge

namespace Identifier

/-- The parts between dots.  There is always one part more than there are dots. -/
def splitDots : List Char → List (List Char)
  | [] => [[]]
  | c :: rest =>
    if c = '.' then [] :: splitDots rest
    else match splitDots rest with
      | [] => [[c]]
      | part :: parts => (c :: part) :: parts

theorem splitDots_ne_nil (text : List Char) : splitDots text ≠ [] := by
  cases text with
  | nil => simp [splitDots]
  | cons c rest =>
    unfold splitDots
    split
    · simp
    · split <;> simp

/-- A closing bracket inside a name is written twice. -/
def escapeBracket (c : Char) : List Char :=
  if c = ']' then [']', ']'] else [c]

def bracketed (part : List Char) : List Char :=
  '[' :: part.flatMap escapeBracket ++ [']']

/-- Each part of a dotted name in brackets. -/
def quote (name : String) : String :=
  String.ofList (['.'].intercalate ((splitDots name.toList).map bracketed))

def isTableChar (c : Char) : Bool :=
  c.isAlphanum || c == '_' || c == '.'

/-- A table name loses everything but ASCII letters, digits, underscores and dots. -/
def tableName (name : String) : String :=
  String.ofList (name.toList.filter isTableChar)

end Identifier

namespace Comment

/-- Stars are set apart, so that no comment mark arises; semicolons vanish. -/
def neutralize (c : Char) : List Char :=
  if c = '*' then [' ', '*', ' '] else if c = ';' then [] else [c]

/-- The comments as one comment in front of a statement; nothing for no comments. -/
def header : List String → String
  | [] => ""
  | comments =>
    let body := (". ".intercalate comments).toList.flatMap neutralize
    String.ofList ("/* ".toList ++ body ++ " */ ".toList)

end Comment

structure Dialect where
  quoteIdentifier : String → String := Identifier.quote
  escapeTable : String → String := Identifier.tableName
  makeComment : List String → String := Comment.header

end SqlBridge
