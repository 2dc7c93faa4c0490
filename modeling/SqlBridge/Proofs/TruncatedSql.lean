import SqlBridge.Log.QueryReporter

/-!
# Truncated texts

Going back from a number of bytes, the first boundary found is the last one that these bytes reach.
A text that is cut there keeps the longest prefix of whole characters that fits.
-/

set_option autoImplicit false

namespace SqlBridge

namespace Text

/-! ## The search for a boundary -/

theorem lastBoundary_le (text : String) (limit : Nat) :
    (lastBoundary text limit).offset.byteIdx ≤ limit := by
  induction limit with
  | zero => exact Nat.le_refl 0
  | succ limit ih =>
    unfold lastBoundary
    split
    · exact Nat.le_refl (limit + 1)
    · exact Nat.le_succ_of_le ih

/-- Every boundary that the search passes over is beyond the limit. -/
theorem le_lastBoundary {text : String} {limit : Nat} (boundary : text.Pos)
    (reached : boundary.offset.byteIdx ≤ limit) : boundary ≤ lastBoundary text limit := by
  induction limit with
  | zero =>
    rw [String.Pos.le_iff, String.Pos.Raw.le_iff]
    exact reached
  | succ limit ih =>
    unfold lastBoundary
    split
    next valid =>
      rw [String.Pos.le_iff, String.Pos.Raw.le_iff]
      exact reached
    next invalid =>
      have other : boundary.offset.byteIdx ≠ limit + 1 := by
        intro same
        rw [← same] at invalid
        exact invalid (String.Pos.Raw.isValid_eq_true_iff.mpr boundary.isValid)
      exact ih (by omega)

/-! ## What is kept -/

/-- The longest prefix of a text that takes at most so many bytes. -/
structure LongestFitting (limit : Nat) (text kept : String) : Prop where
  begins : ∃ rest, text = kept ++ rest
  fits : kept.utf8ByteSize ≤ limit
  longest : ∀ other rest, text = other ++ rest → other.utf8ByteSize ≤ limit →
    ∃ between, kept = other ++ between

theorem LongestFitting.of_fits {limit : Nat} {text : String} (fits : text.utf8ByteSize ≤ limit) :
    LongestFitting limit text text where
  begins := ⟨"", String.append_empty.symm⟩
  fits := fits
  longest _ rest split _ := ⟨rest, split⟩

/-- Where something is cut off, the character after the cut did not fit, and it has at most four
bytes. -/
theorem LongestFitting.filled {limit : Nat} {text kept : String}
    (longest : LongestFitting limit text kept) :
    kept = text ∨ limit < kept.utf8ByteSize + 4 := by
  obtain ⟨rest, split⟩ := longest.begins
  by_cases whole : rest = ""
  · left
    rw [split, whole, String.append_empty]
  right
  obtain ⟨tail, begun⟩ := String.eq_singleton_append (mt String.startPos_eq_endPos_iff.mp whole)
  generalize rest.startPos.get _ = next at begun
  have tooLong : ¬ (kept ++ String.singleton next).utf8ByteSize ≤ limit := by
    intro fits
    obtain ⟨between, same⟩ := longest.longest (kept ++ String.singleton next) tail
      (by rw [split, begun, String.append_assoc]) fits
    have sizes := congrArg String.utf8ByteSize same
    have positive := next.utf8Size_pos
    simp only [String.utf8ByteSize_append, String.utf8ByteSize_singleton] at sizes
    omega
  have small := next.utf8Size_le_four
  rw [String.utf8ByteSize_append, String.utf8ByteSize_singleton] at tooLong
  omega

theorem longestFitting_lastBoundary (limit : Nat) (text : String) :
    LongestFitting limit text (text.sliceTo (lastBoundary text limit)).copy := by
  have split := (lastBoundary text limit).splits
  refine ⟨⟨_, split.eq_append⟩, ?_, ?_⟩
  · calc (text.sliceTo (lastBoundary text limit)).copy.utf8ByteSize
        = (lastBoundary text limit).offset.byteIdx := by
          rw [split.offset_eq_rawEndPos, String.byteIdx_rawEndPos]
      _ ≤ limit := lastBoundary_le text limit
  · -- Any other prefix ends at a boundary too, and so not after the last one.
    intro other rest whole fits
    have valid : String.Pos.Raw.IsValid text other.rawEndPos :=
      String.Pos.Raw.isValid_iff_exists_append.mpr ⟨other, rest, whole, rfl⟩
    have ends : String.Pos.Splits ⟨other.rawEndPos, valid⟩ other rest := ⟨whole, rfl⟩
    obtain ⟨between, kept, _⟩ := (ends.le_iff_exists_eq_append split).mp (le_lastBoundary _ fits)
    exact ⟨between, kept⟩

theorem longestFitting_truncate (limit : Nat) (text : String) :
    LongestFitting limit text (truncate limit text) := by
  unfold truncate
  split
  next fits => exact .of_fits fits
  next => exact longestFitting_lastBoundary limit text

end Text

namespace QueryReporter

inductive Shows (sql : String) : Option Nat → String → Prop where
  | unlimited : Shows sql none sql
  | whole {limit : Nat} (fits : sql.utf8ByteSize ≤ limit) : Shows sql (some limit) sql
  | cut {limit : Nat} {kept : String} (tooLong : limit < sql.utf8ByteSize)
      (longest : Text.LongestFitting limit sql kept) : Shows sql (some limit) (kept ++ "...")

/-- Truncating keeps the longest prefix of whole characters that fits, and wastes fewer than four
bytes.  SQL is shown as it is if it fits, and else as that prefix with three dots. -/
theorem truncateSql_keepsLongest (reporter : QueryReporter) (sql : String) :
    (∀ limit, Text.LongestFitting limit sql (Text.truncate limit sql) ∧
      (Text.truncate limit sql = sql ∨
        limit < (Text.truncate limit sql).utf8ByteSize + 4)) ∧
      Shows sql reporter.maxSqlBytes (reporter.truncateSql sql) := by
  constructor
  · intro limit
    have longest := Text.longestFitting_truncate limit sql
    exact ⟨longest, longest.filled⟩
  · unfold truncateSql
    split
    next unlimited =>
      rw [unlimited]
      exact .unlimited
    next limit limited =>
      rw [limited]
      split
      next fits => exact .whole fits
      next long =>
        exact .cut (Nat.lt_of_not_le long) (Text.longestFitting_truncate limit sql)

/-- The second byte is the first of a character. -/
example : Text.truncate 2 "héllo" = "h" := by decide +kernel

end QueryReporter

end SqlBridge
