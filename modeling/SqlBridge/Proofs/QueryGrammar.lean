import SqlBridge.Proofs.LeadingKeyword
import SqlBridge.Proofs.Words

/-!
# The grammar of leading keywords

In front of the keyword of a query there may be blanks and comments.  A comment goes from its opening
mark to the first end mark behind it: comments do not nest, and `/*/` leaves its comment open.  A
query is of a kind when the keyword of the kind comes next and no further letter follows it, and it
is of no kind otherwise.
-/

set_option autoImplicit false

namespace SqlBridge

theorem Comment.unclosed_iff_not_infix (text : List Char) :
    Unclosed text ↔ ¬ ['*', '/'] <:+: text := by
  induction text with
  | nil => simp [Unclosed]
  | cons c rest ih =>
    have front : ['*', '/'] <+: c :: rest ↔ c = '*' ∧ rest.head? = some '/' := by
      cases rest <;> simp [List.cons_prefix_cons, eq_comm]
    rw [Unclosed, ih, List.infix_cons_iff, front, not_or, not_and]

namespace QueryKind

inductive Skipped : List Char → Prop where
  | blanks {blanks : List Char} (blank : ∀ c ∈ blanks, Text.isBlank c = true) : Skipped blanks
  | comment {blanks body rest : List Char} (blank : ∀ c ∈ blanks, Text.isBlank c = true)
      (closed : ¬ ['*', '/'] <:+: body) (behind : Skipped rest) :
      Skipped (blanks ++ ['/', '*'] ++ body ++ ['*', '/'] ++ rest)

/-- What comes first and is not skipped is the keyword, in either ASCII case, and no letter follows
it. -/
def Begins (keyword : String) (text : List Char) : Prop :=
  ∃ lead word rest, text = lead ++ word ++ rest ∧ Skipped lead ∧
    word.map Char.toUpper = keyword.toList ∧ ∀ c ∈ rest.head?, c.isAlpha = false

def keywords : List (String × QueryKind) :=
  [("SELECT", .select), ("INSERT", .insert), ("UPDATE", .update), ("DELETE", .delete)]

/-! ## What is skipped -/

/-- A comment is closed by the first end mark, or it is not closed at all. -/
theorem afterCommentEnd_cases (text : List Char) :
    (Comment.Unclosed text ∧ afterCommentEnd text = []) ∨
      ∃ body, Comment.Unclosed body ∧ text = body ++ '*' :: '/' :: afterCommentEnd text := by
  fun_induction afterCommentEnd text with
  | case1 rest => exact .inr ⟨[], trivial, rfl⟩
  | case2 c rest unended ih =>
    rcases ih with ⟨unclosed, none⟩ | ⟨body, unclosed, split⟩
    · refine .inl ⟨⟨fun star slash => ?_, unclosed⟩, none⟩
      obtain ⟨tail, rfl⟩ := List.head?_eq_some_iff.mp slash
      exact unended tail star rfl
    · refine .inr ⟨c :: body, ⟨fun star slash => ?_, unclosed⟩, congrArg (c :: ·) split⟩
      obtain ⟨tail, rfl⟩ := List.head?_eq_some_iff.mp slash
      exact unended _ star split
  | case3 => exact .inl ⟨trivial, rfl⟩

theorem skipComments_append {lead : List Char} (skipped : Skipped lead) (text : List Char) :
    skipComments (lead ++ text) = skipComments text := by
  induction skipped with
  | blanks blank => exact skipComments_congr (Text.trimStart_append blank text)
  | @comment blanks body rest blank closed behind ih =>
    have split : blanks ++ ['/', '*'] ++ body ++ ['*', '/'] ++ rest ++ text =
        blanks ++ '/' :: '*' :: (body ++ '*' :: '/' :: (rest ++ text)) := by
      simp
    rw [split, skipComments_congr (Text.trimStart_append blank _), skipComments_of_trimStart rfl,
      afterCommentEnd_unclosed ((Comment.unclosed_iff_not_infix body).mpr closed), ih]

theorem skipComments_nil : skipComments [] = [] :=
  skipComments_eq_trimStart fun rest comment => by cases comment

/-- Nothing but what is to be skipped is gone, or a comment stays open and all is gone. -/
theorem skipComments_cases (text : List Char) :
    (∃ lead, Skipped lead ∧ text = lead ++ skipComments text) ∨ skipComments text = [] := by
  fun_induction skipComments text with
  | case1 text rest trimmed ih =>
    obtain ⟨blanks, blank, split⟩ := Text.exists_blanks text
    rw [trimmed] at split
    rcases afterCommentEnd_cases rest with ⟨_, none⟩ | ⟨body, unclosed, closed⟩
    · rw [none]
      exact .inr skipComments_nil
    · refine ih.imp ?_ id
      rintro ⟨lead, skipped, behind⟩
      refine ⟨_, .comment blank ((Comment.unclosed_iff_not_infix body).mp unclosed) skipped, ?_⟩
      generalize skipComments (afterCommentEnd rest) = left at behind ⊢
      rw [behind] at closed
      rw [split, closed]
      simp
  | case2 text _ =>
    obtain ⟨blanks, blank, split⟩ := Text.exists_blanks text
    exact .inl ⟨blanks, .blanks blank, split⟩

/-- A comment that stays open takes everything with it. -/
theorem skipComments_of_open {lead body : List Char} (skipped : Skipped lead)
    (unclosed : ¬ ['*', '/'] <:+: body) : skipComments (lead ++ ['/', '*'] ++ body) = [] := by
  have opened : lead ++ ['/', '*'] ++ body = lead ++ '/' :: '*' :: body := by simp
  rcases afterCommentEnd_cases body with ⟨_, none⟩ | ⟨front, _, split⟩
  · rw [opened, skipComments_append skipped, skipComments_of_trimStart rfl, none]
    exact skipComments_nil
  · exact absurd ⟨front, afterCommentEnd body, by simpa using split.symm⟩ unclosed

/-! ## The keyword -/

theorem isAlpha_of_isAlpha_toUpper {c : Char} (letter : c.toUpper.isAlpha = true) :
    c.isAlpha = true := by
  by_cases lower : c.isLower = true
  · exact Bool.or_eq_true_iff.mpr (.inr lower)
  · have same : c.toUpper = c := dif_neg fun ⟨least, greatest⟩ =>
      lower (Bool.and_eq_true_iff.mpr ⟨decide_eq_true least, decide_eq_true greatest⟩)
    rwa [same] at letter

theorem toNat_of_isAlpha {c : Char} (letter : c.isAlpha = true) :
    65 ≤ c.toNat ∧ c.toNat ≤ 90 ∨ 97 ≤ c.toNat ∧ c.toNat ≤ 122 := by
  rcases Bool.or_eq_true_iff.mp letter with upper | lower
  · exact .inl (of_decide_eq_true upper)
  · obtain ⟨least, greatest⟩ := Bool.and_eq_true_iff.mp lower
    exact .inr ⟨of_decide_eq_true least, of_decide_eq_true greatest⟩

theorem isBlank_of_isAlpha {c : Char} (letter : c.isAlpha = true) : Text.isBlank c = false := by
  have bounds := toNat_of_isAlpha letter
  simp [Text.isBlank, Text.blankRanges, Text.CharRanges.contains]
  omega

/-- A letter is neither blank nor the begin of a comment. -/
theorem skipComments_of_letter {c : Char} (letter : c.isAlpha = true) (rest : List Char) :
    skipComments (c :: rest) = c :: rest := by
  have kept : Text.trimStart (c :: rest) = c :: rest := by
    rw [Text.trimStart, List.dropWhile_cons_of_neg]
    simp [isBlank_of_isAlpha letter]
  have uncommented : ∀ tail, Text.trimStart (c :: rest) ≠ '/' :: '*' :: tail := by
    rw [kept]
    rintro tail comment
    rw [(List.cons.inj comment).1] at letter
    exact absurd letter (by decide)
  rw [skipComments_eq_trimStart uncommented, kept]

def leadingWord (text : List Char) : List Char :=
  (skipComments text).takeWhile Char.isAlpha

theorem leadingWord_append {lead word rest : List Char} (skipped : Skipped lead)
    (present : word ≠ []) (letters : ∀ c ∈ word, c.isAlpha = true)
    (ends : ∀ c ∈ rest.head?, c.isAlpha = false) : leadingWord (lead ++ word ++ rest) = word := by
  obtain ⟨c, tail, rfl⟩ := List.exists_cons_of_ne_nil present
  rw [leadingWord, List.append_assoc, skipComments_append skipped, List.cons_append,
    skipComments_of_letter (letters c List.mem_cons_self), ← List.cons_append,
    Text.takeWhile_append_of_ends letters ends]

/-- A text begins with a keyword exactly when that is its leading word. -/
theorem begins_iff {keyword : String} (present : keyword.toList ≠ [])
    (letters : ∀ c ∈ keyword.toList, c.isAlpha = true) (text : List Char) :
    Begins keyword text ↔ (leadingWord text).map Char.toUpper = keyword.toList := by
  constructor
  · rintro ⟨lead, word, rest, rfl, skipped, same, ends⟩
    have wordLetters : ∀ c ∈ word, c.isAlpha = true := by
      intro c listed
      apply isAlpha_of_isAlpha_toUpper
      exact letters _ (same ▸ List.mem_map_of_mem listed)
    have wordPresent : word ≠ [] := by
      rintro rfl
      exact present same.symm
    rw [leadingWord_append skipped wordPresent wordLetters ends, same]
  · intro same
    rcases skipComments_cases text with ⟨lead, skipped, split⟩ | none
    · refine ⟨lead, leadingWord text, (skipComments text).dropWhile Char.isAlpha, ?_, skipped,
        same, ?_⟩
      · rw [leadingWord, List.append_assoc, List.takeWhile_append_dropWhile]
        exact split
      · exact Text.not_of_mem_head?_dropWhile Char.isAlpha (skipComments text)
    · rw [leadingWord, none] at same
      exact absurd same.symm present

theorem letters_of_mem_keywords {entry : String × QueryKind} (listed : entry ∈ keywords) :
    entry.1.toList ≠ [] ∧ ∀ c ∈ entry.1.toList, c.isAlpha = true := by
  simp only [keywords, List.mem_cons, List.not_mem_nil, or_false] at listed
  rcases listed with rfl | rfl | rfl | rfl <;> exact ⟨by decide, List.all_eq_true.mp (by decide)⟩

theorem ofKeyword_eq_iff {entry : String × QueryKind} (listed : entry ∈ keywords) (word : String) :
    ofKeyword word = entry.2 ↔ word = entry.1 := by
  simp only [keywords, List.mem_cons, List.not_mem_nil, or_false] at listed
  unfold ofKeyword
  rcases listed with rfl | rfl | rfl | rfl <;> grind

theorem ofKeyword_eq_other_iff (word : String) :
    ofKeyword word = .other ↔ ∀ entry ∈ keywords, word ≠ entry.1 := by
  unfold ofKeyword
  simp only [keywords, List.forall_mem_cons]
  grind

theorem ofSql_eq_iff {entry : String × QueryKind} (listed : entry ∈ keywords) (sql : String) :
    ofSql sql = entry.2 ↔ Begins entry.1 sql.toList := by
  obtain ⟨present, letters⟩ := letters_of_mem_keywords listed
  rw [begins_iff present letters, ← String.ofList_inj, String.ofList_toList]
  exact ofKeyword_eq_iff listed _

theorem ofSql_eq_other_iff (sql : String) :
    ofSql sql = .other ↔ ∀ entry ∈ keywords, ¬ Begins entry.1 sql.toList := by
  constructor
  · intro other entry listed begins
    have unlisted : .other ∉ keywords.map Prod.snd := by decide
    have kind := (ofSql_eq_iff listed sql).mpr begins
    exact unlisted (other.symm.trans kind ▸ List.mem_map_of_mem listed)
  · intro none
    refine (ofKeyword_eq_other_iff _).mpr fun entry listed same => none entry listed ?_
    exact (ofSql_eq_iff listed sql).mp ((ofKeyword_eq_iff listed _).mpr same)

/-! ## The turns of the skipping -/

inductive Turns : Nat → List Char → List Char → Prop where
  | done {text : List Char} (plain : ¬ ['/', '*'] <+: text) : Turns 0 text text
  | turn {turns : Nat} {text last : List Char}
      (later : Turns turns (Text.trimStart (afterCommentEnd text)) last) :
      Turns (turns + 1) ('/' :: '*' :: text) last

/-- Every turn uses up an opening mark at least. -/
theorem exists_turns (text : List Char) :
    ∃ turns, 2 * turns ≤ text.length ∧ Turns turns (Text.trimStart text) (skipComments text) := by
  fun_induction skipComments text with
  | case1 text rest trimmed ih =>
    obtain ⟨turns, few, later⟩ := ih
    have shorter := Text.trimStart_length_le text
    have inner := afterCommentEnd_length_le rest
    rw [trimmed, List.length_cons, List.length_cons] at shorter
    rw [trimmed]
    exact ⟨turns + 1, by omega, .turn later⟩
  | case2 text uncommented =>
    refine ⟨0, Nat.zero_le _, .done ?_⟩
    rintro ⟨tail, comment⟩
    exact uncommented tail comment.symm

/-- A query is of a kind exactly when it begins with the kind's keyword, and of no kind when it
begins with none; so it is where a comment before the keyword stays open.  The comments are skipped
in finitely many turns. -/
theorem ofSql_recognizes (sql : String) :
    (∀ entry ∈ keywords, ofSql sql = entry.2 ↔ Begins entry.1 sql.toList) ∧
      (ofSql sql = .other ↔ ∀ entry ∈ keywords, ¬ Begins entry.1 sql.toList) ∧
        (∀ lead body, Skipped lead → ¬ ['*', '/'] <:+: body →
          sql.toList = lead ++ ['/', '*'] ++ body → ofSql sql = .other) ∧
          ∃ turns, 2 * turns ≤ sql.length ∧
            Turns turns (Text.trimStart sql.toList) (skipComments sql.toList) := by
  refine ⟨fun entry listed => ofSql_eq_iff listed sql, ofSql_eq_other_iff sql, ?_, ?_⟩
  · intro lead body skipped unclosed split
    rw [ofSql, split, skipComments_of_open skipped unclosed]
    rfl
  · exact exists_turns sql.toList

/-- The first comment holds marks that overlap and one that opens another comment, the second one
holds a lone star, and behind a no-break space comes the keyword, ended by a letter that is not
ASCII. -/
def overlapping : String :=
  "/*/ a /**//***/\u00a0UpDaTeé"

def leftOpen : String :=
  " /*/SELECT"

theorem ofSql_recognizes_overlapping :
    ("UPDATE", .update) ∈ keywords ∧ Begins "UPDATE" overlapping.toList ∧
      ofSql overlapping = .update ∧
        Skipped [' '] ∧ ¬ ['*', '/'] <:+: ['/', 'S', 'E', 'L', 'E', 'C', 'T'] ∧
          ofSql leftOpen = .other := by
  have second : Skipped ([] ++ ['/', '*'] ++ ['*'] ++ ['*', '/'] ++ ['\u00a0']) :=
    .comment (by simp) (by decide) (.blanks (List.all_eq_true.mp (by decide)))
  have first : Skipped ([] ++ ['/', '*'] ++ ['/', ' ', 'a', ' ', '/', '*'] ++ ['*', '/'] ++ _) :=
    .comment (by simp) (by decide) second
  have begins : Begins "UPDATE" overlapping.toList :=
    ⟨_, ['U', 'p', 'D', 'a', 'T', 'e'], ['é'], by decide, first, by decide, by simp⟩
  have recognized : ofSql overlapping = .update :=
    ((ofSql_recognizes overlapping).1 ("UPDATE", .update) (by decide)).mpr begins
  have lead : Skipped [' '] := .blanks (List.all_eq_true.mp (by decide))
  have unclosed : ¬ ['*', '/'] <:+: ['/', 'S', 'E', 'L', 'E', 'C', 'T'] := by decide
  have other : ofSql leftOpen = .other :=
    (ofSql_recognizes leftOpen).2.2.1 _ _ lead unclosed (by decide)
  exact ⟨by decide, begins, recognized, lead, unclosed, other⟩

end QueryKind

end SqlBridge
