import SqlBridge.Proofs.Words
import SqlBridge.Result.Column

/-!
# Type names of columns

A column is classified by its declared type where it has one, and by the driver's own type where it
has none.  A declared type is cut to its first word before the first word is looked for again, which
finds the same word.  So the leading word decides, and the case of its letters does not matter.
-/

set_option autoImplicit false

namespace SqlBridge

theorem ColumnKind.classify_congr {typeName other : String}
    (same : Text.foldedWord other.toList = Text.foldedWord typeName.toList) :
    classify other = classify typeName := by
  unfold Text.foldedWord at same
  rw [classify, same, classify]

namespace ColumnMeta

/-- The type by which a column is classified, as the driver reports it. -/
def reported (column : ColumnMeta) : String :=
  column.declaredType.getD column.nativeType

theorem foldedWord_typeName (column : ColumnMeta) :
    Text.foldedWord column.typeName.toList = Text.foldedWord column.reported.toList := by
  unfold typeName reported
  cases column.declaredType with
  | none => rfl
  | some declared =>
    rw [Option.getD_some]
    dsimp only
    split
    next => rfl
    next => rw [String.toList_ofList, Text.foldedWord, Text.firstWord_firstWord, Text.foldedWord]

end ColumnMeta

namespace Column

/-- The reported type decides on the kind of a column, and of it nothing but the leading word:
neither blanks in front do, nor what is behind the word, nor the case of letters.  The type name that
the column keeps is of the same kind. -/
theorem ofMeta_kind (column : ColumnMeta) :
    (ofMeta column).kind = ColumnKind.classify column.reported ∧
      (∀ other : ColumnMeta,
        Text.foldedWord other.reported.toList = Text.foldedWord column.reported.toList →
          (ofMeta other).kind = (ofMeta column).kind) ∧
      (∀ other : ColumnMeta, Text.Respelled column.reported.toList other.reported.toList →
        (ofMeta other).kind = (ofMeta column).kind) ∧
      ColumnKind.classify (ofMeta column).nativeType = (ofMeta column).kind := by
  have classified : ∀ column : ColumnMeta,
      (ofMeta column).kind = ColumnKind.classify column.reported := by
    intro column
    rw [ofMeta, ColumnKind.classify_congr column.foldedWord_typeName]
  have decides : ∀ other : ColumnMeta,
      Text.foldedWord other.reported.toList = Text.foldedWord column.reported.toList →
        (ofMeta other).kind = (ofMeta column).kind := by
    intro other same
    rw [classified, classified, ColumnKind.classify_congr same]
  refine ⟨classified column, decides, ?_, ?_⟩
  · exact fun other respelled => decides other respelled.foldedWord_eq
  · rw [ofMeta]

def numbered : ColumnMeta :=
  ⟨"id", "char", some "int identity"⟩

def undeclared : ColumnMeta :=
  ⟨"id", "\u2003\nint identity", none⟩

def seeded : ColumnMeta :=
  ⟨"id", "char", some "int identity\u0085(1,1)"⟩

def shouted : ColumnMeta :=
  ⟨"id", "char", some "InT IDENtity"⟩

/-- No spelling of the other types, but with the same leading word. -/
def bare : ColumnMeta :=
  ⟨"count", "Int", none⟩

theorem ofMeta_kind_numbered :
    Text.Respelled numbered.reported.toList undeclared.reported.toList ∧
      (ofMeta undeclared).kind = .integer ∧
      Text.Respelled numbered.reported.toList seeded.reported.toList ∧
      (ofMeta seeded).kind = .integer ∧
      Text.Respelled numbered.reported.toList shouted.reported.toList ∧
      (ofMeta shouted).kind = .integer ∧
      Text.foldedWord bare.reported.toList = Text.foldedWord numbered.reported.toList ∧
      (ofMeta bare).kind = .integer := by
  obtain ⟨_, decides, respellings, _⟩ := ofMeta_kind numbered
  have kind : (ofMeta numbered).kind = .integer := by decide
  have padded : Text.Respelled numbered.reported.toList undeclared.reported.toList := by
    have split : undeclared.reported.toList = ['\u2003', '\n'] ++ numbered.reported.toList := by
      decide
    rw [split]
    exact .lead (List.all_eq_true.mp (by decide))
  have continued : Text.Respelled numbered.reported.toList seeded.reported.toList := by
    have split : seeded.reported.toList =
        numbered.reported.toList ++ ['\u0085'] ++ ['(', '1', ',', '1', ')'] := by
      decide
    rw [split]
    exact .trail ⟨'i', by decide, by decide⟩ (by decide) (List.all_eq_true.mp (by decide)) _
  have recased : Text.Respelled numbered.reported.toList shouted.reported.toList :=
    .recase (by decide)
  have shared : Text.foldedWord bare.reported.toList = Text.foldedWord numbered.reported.toList := by
    decide
  exact ⟨padded, (respellings undeclared padded).trans kind,
    continued, (respellings seeded continued).trans kind,
    recased, (respellings shouted recased).trans kind,
    shared, (decides bare shared).trans kind⟩

end Column

end SqlBridge
