import Mathlib.Data.List.Induction
import SqlBridge.Session.Call
import SqlBridge.Session.Script
import SqlBridge.Proofs.RowsLeft
import SqlBridge.Proofs.Transcript

/-!
# Keyed fetches

A keyed fetch files the rows that are left, one after the other, under one of their values.  A
result of two columns may come as pairs from the driver.  That is only a shorter way: what the
driver delivers is what fetching the rows one by one would.
-/

set_option autoImplicit false

namespace SqlBridge

variable {σ : Type}

def cells (keyIndex valueIndex : Nat) (row : List Value) : Value × Value :=
  (row.getD keyIndex .null, row.getD valueIndex .null)

namespace ValueMap

def ofPairs (pairs : List (Value × Value)) : ValueMap :=
  pairs.foldl (fun map pair => map.insert pair.1 pair.2) .empty

theorem ofPairs_concat (pairs : List (Value × Value)) (pair : Value × Value) :
    ofPairs (pairs ++ [pair]) = (ofPairs pairs).insert pair.1 pair.2 :=
  List.foldl_append

theorem lookup_ofPairs (pairs : List (Value × Value)) (key : Value) :
    (ofPairs pairs).lookup key = pairs.reverse.lookup key := by
  induction pairs using List.reverseRecOn with
  | nil => exact Std.HashMap.getElem?_empty
  | append_singleton front pair ih =>
    obtain ⟨first, second⟩ := pair
    rw [ofPairs_concat, List.reverse_append, List.reverse_singleton, List.singleton_append,
      List.lookup_cons, lookup, Std.HashMap.getElem?_insert]
    by_cases same : key = first
    · simp [same]
    · have unequal : (key == first) = false := beq_false_of_ne same
      have turned : (first == key) = false := beq_false_of_ne (Ne.symm same)
      rw [turned, unequal]
      exact ih

end ValueMap

/-! ## The driver's pairs -/

namespace Engine

/-- Where rows have a first and a second value, the pairs are those of the rows that are left, and
fetching them is fetching these rows. -/
def PairsRows (engine : Engine σ) (handle : Handle) : Prop :=
  ∀ state, (∀ row ∈ (engine.remaining handle state).rows, 2 ≤ row.length) →
    engine.answer (.fetchKeyPairs handle) state =
      ((engine.remaining handle state).outcome.map (·.map (cells 0 1)),
        (engine.remaining handle state).state)

end Engine

namespace Script

theorem fetchKeyPairsFrom_eq (dialect : Dialect) (handle : Handle) (pairs : List (Value × Value))
    (world : World) :
    world.fetchKeyPairsFrom handle pairs =
      (((engine dialect).remaining handle world).outcome.map fun rows =>
          pairs.reverse ++ rows.map (cells 0 1),
        ((engine dialect).remaining handle world).state) := by
  fun_induction World.fetchKeyPairsFrom handle pairs world with
  | case1 pairs world failure later fetched =>
    rw [Engine.remaining_of_error fetched]
    rfl
  | case2 pairs world later fetched =>
    rw [Engine.remaining_of_end fetched]
    exact Prod.ext (congrArg Except.ok (List.append_nil pairs.reverse).symm) rfl
  | case3 pairs world row later fetched ih =>
    have answered : (engine dialect).answer (.fetchRow handle) world = (.ok (some row), later) :=
      fetched
    rw [ih, Engine.remaining_of_row answered, Remaining.outcome_behind]
    refine Prod.ext ?_ rfl
    cases ((engine dialect).remaining handle later).outcome with
    | error failure => rfl
    | ok rows => simp [Except.map, cells]

theorem pairsRows_engine (dialect : Dialect) (handle : Handle) :
    (engine dialect).PairsRows handle := by
  intro world _
  exact fetchKeyPairsFrom_eq dialect handle [] world

theorem fetchRow_of_sound {handle : Handle} {world : World} {live : Live}
    (found : world.find? handle = some live) (sound : live.result.rowFault = none) :
    world.fetchRow handle = match live.result.rows[live.cursor]? with
      | none => (.ok none, world)
      | some row =>
        (.ok (some row), world.store handle { live with cursor := live.cursor + 1 }) := by
  rw [World.fetchRow, found]
  simp only [sound, check]
  split <;> simp_all

/-- Without a fault the rows from the cursor on are left. -/
theorem remaining_of_sound (dialect : Dialect) {handle : Handle} {world : World} {live : Live}
    (found : world.find? handle = some live) (sound : live.result.rowFault = none) :
    ((engine dialect).remaining handle world).outcome =
      .ok (live.result.rows.drop live.cursor) := by
  fun_induction Engine.remaining (engine dialect) handle world generalizing live with
  | case1 world failure later answered =>
    have fetched := answered.symm.trans (fetchRow_of_sound found sound)
    split at fetched <;> cases fetched
  | case2 world later answered =>
    have fetched := answered.symm.trans (fetchRow_of_sound found sound)
    split at fetched
    · rename_i beyond
      rw [List.drop_eq_nil_of_le (List.getElem?_eq_none_iff.mp beyond)]
      rfl
    · cases fetched
  | case3 world row later answered ih =>
    have fetched := answered.symm.trans (fetchRow_of_sound found sound)
    split at fetched
    · cases fetched
    · rename_i present
      cases fetched
      obtain ⟨inside, rfl⟩ := List.getElem?_eq_some_iff.mp present
      rw [Remaining.outcome_behind, ih (World.find?_store_self world handle _) sound,
        List.drop_eq_getElem_cons inside]
      rfl

end Script

/-! ## The rows that a keyed fetch files -/

namespace Statement

variable (engine : Engine σ)

theorem valueAt_of_lt {row : List Value} {index : Nat} (inside : index < row.length) :
    valueAt row index = .ok (row.getD index .null) := by
  rw [valueAt, List.getD_eq_getElem?_getD, List.getElem?_eq_getElem inside]
  rfl

theorem fileRow_of_lt {keyIndex valueIndex : Nat} {row : List Value}
    (keyed : keyIndex < row.length) (valued : valueIndex < row.length) (map : ValueMap) :
    fileRow keyIndex valueIndex map row =
      .ok (map.insert (cells keyIndex valueIndex row).1 (cells keyIndex valueIndex row).2) := by
  rw [fileRow, valueAt_of_lt keyed, valueAt_of_lt valued]
  rfl

/-- The numeric loop over rows in which both values are present. -/
theorem foldRows_fileRow {handle : Handle} {keyIndex valueIndex : Nat} (session : Session σ)
    (full : ∀ row ∈ (engine.remaining handle session.state).rows,
      keyIndex < row.length ∧ valueIndex < row.length) :
    let filed := (Session.foldRows engine handle (fileRow keyIndex valueIndex)
      ValueMap.empty).run session
    let left := engine.remaining handle session.state
    filed.1 = left.outcome.map (fun rows => .ofPairs (rows.map (cells keyIndex valueIndex))) ∧
      filed.2.state = left.state := by
  intro filed left
  have folded := engine.foldRows_of_taken handle ValueMap.empty session fun row kept =>
    fileRow_of_lt (full row kept).1 (full row kept).2
  refine ⟨?_, folded.2⟩
  rw [folded.1]
  simp only [ValueMap.ofPairs, List.foldl_map]
  rfl

def inMode (mode : FetchMode) (start : Statement × Session σ) : Session σ :=
  start.2.answered engine (.setFetchMode start.1.handle mode)

def keyedSession (keyIndex valueIndex : Nat) (start : Statement × Session σ) : Session σ :=
  let count := engine.columnCount start.2.state start.1.handle
  inMode engine (if keyIndex = 0 ∧ valueIndex = 1 ∧ count = 2 then .keyPair else .num) start

section

variable {keyIndex valueIndex : Nat} {start : Statement × Session σ}

theorem run_fetchAllKeyed_of_pairs
    (paired : keyIndex = 0 ∧ valueIndex = 1 ∧
      engine.columnCount start.2.state start.1.handle = 2) :
    (fetchAllKeyed engine keyIndex valueIndex).run start =
      (liftM (Session.fetchKeyPairs engine start.1.handle) >>= fun pairs =>
          pure (.ofPairs pairs) : Step (Statement × Session σ) ValueMap).run
        ({ start.1 with fetchMode := .keyPair },
          keyedSession engine keyIndex valueIndex start) := by
  rw [fetchAllKeyed, Step.run_bind_ok (Step.run_own start), Step.run_bind, Step.run_lift]
  simp only [Session.reading, Step.run_reading, if_pos paired, keyedSession]
  rfl

theorem run_fetchAllKeyed_of_num
    (unpaired : ¬ (keyIndex = 0 ∧ valueIndex = 1 ∧
      engine.columnCount start.2.state start.1.handle = 2)) :
    (fetchAllKeyed engine keyIndex valueIndex).run start =
      (liftM (Session.foldRows engine start.1.handle (fileRow keyIndex valueIndex)
          ValueMap.empty) : Step (Statement × Session σ) ValueMap).run
        ({ start.1 with fetchMode := .num }, keyedSession engine keyIndex valueIndex start) := by
  rw [fetchAllKeyed, Step.run_bind_ok (Step.run_own start), Step.run_bind, Step.run_lift]
  simp only [Session.reading, Step.run_reading, if_neg unpaired, keyedSession]
  rfl

def keyedRows (keyIndex valueIndex : Nat) (start : Statement × Session σ) : Remaining σ :=
  engine.remaining start.1.handle (keyedSession engine keyIndex valueIndex start).state

/-- Both ways of a keyed fetch file the rows that are left. -/
theorem run_fetchAllKeyed (pairs : engine.PairsRows start.1.handle)
    (keyed : keyIndex < engine.columnCount start.2.state start.1.handle)
    (valued : valueIndex < engine.columnCount start.2.state start.1.handle)
    (full : ∀ row ∈ (keyedRows engine keyIndex valueIndex start).rows,
      engine.columnCount start.2.state start.1.handle ≤ row.length) :
    let ran := (fetchAllKeyed engine keyIndex valueIndex).run start
    let left := keyedRows engine keyIndex valueIndex start
    ran.1 = left.outcome.map (fun rows => .ofPairs (rows.map (cells keyIndex valueIndex))) ∧
      ran.2.2.state = left.state := by
  intro ran left
  by_cases paired : keyIndex = 0 ∧ valueIndex = 1 ∧
      engine.columnCount start.2.state start.1.handle = 2
  · -- The rows have two values, as the driver's promise asks.
    obtain ⟨rfl, rfl, two⟩ := id paired
    have answered := pairs (keyedSession engine 0 1 start).state (two ▸ full)
    have delivered := congrArg Prod.fst answered
    have last := congrArg Prod.snd answered
    have asked : (Session.fetchKeyPairs engine start.1.handle).run (keyedSession engine 0 1 start) =
        (left.outcome.map (·.map (cells 0 1)),
          (keyedSession engine 0 1 start).answered engine (.fetchKeyPairs start.1.handle)) :=
      Prod.ext delivered rfl
    have same : ran = _ := run_fetchAllKeyed_of_pairs engine paired
    rw [same, Step.run_bind, Step.run_lift, asked]
    cases left.outcome <;> exact ⟨rfl, last⟩
  · have filed := foldRows_fileRow engine (keyedSession engine keyIndex valueIndex start)
      fun row kept =>
        ⟨Nat.lt_of_lt_of_le keyed (full row kept), Nat.lt_of_lt_of_le valued (full row kept)⟩
    have same : ran = _ := run_fetchAllKeyed_of_num engine paired
    rw [same, Step.run_lift]
    exact filed

end

/-- A keyed fetch files the rows that are left, and of two rows with the same key the later one
counts.  It answers what the loop over the rows answers from any session with the cursor at the
same place, and leaves the cursor where the loop does. -/
theorem fetchAllKeyed_filesRows (keyIndex valueIndex : Nat) (start : Statement × Session σ)
    (pairs : engine.PairsRows start.1.handle)
    (keyed : keyIndex < engine.columnCount start.2.state start.1.handle)
    (valued : valueIndex < engine.columnCount start.2.state start.1.handle)
    (full : ∀ row ∈ (keyedRows engine keyIndex valueIndex start).rows,
      engine.columnCount start.2.state start.1.handle ≤ row.length) :
    let ran := (fetchAllKeyed engine keyIndex valueIndex).run start
    let left := keyedRows engine keyIndex valueIndex start
    ran.1 = left.outcome.map (fun rows => .ofPairs (rows.map (cells keyIndex valueIndex))) ∧
      ran.2.2.state = left.state ∧
      (∀ map key, ran.1 = .ok map →
        map.lookup key = (left.rows.map (cells keyIndex valueIndex)).reverse.lookup key) ∧
      ∀ session : Session σ,
        engine.SameCursor start.1.handle session.state
          (keyedSession engine keyIndex valueIndex start).state →
        let numeric := (Session.foldRows engine start.1.handle (fileRow keyIndex valueIndex)
          ValueMap.empty).run session
        numeric.1 = ran.1 ∧
          engine.SameCursor start.1.handle numeric.2.state ran.2.2.state := by
  intro ran left
  obtain ⟨answer, last⟩ : ran.1 = left.outcome.map _ ∧ ran.2.2.state = left.state :=
    run_fetchAllKeyed engine pairs keyed valued full
  refine ⟨answer, last, ?_, ?_⟩
  · intro map key answered
    rw [answer] at answered
    rcases fetched : left.outcome with failure | rows
    · rw [fetched] at answered
      cases answered
    · rw [fetched] at answered
      cases answered
      rw [ValueMap.lookup_ofPairs, Remaining.rows_of_outcome fetched]
  · intro session same numeric
    obtain ⟨rows, outcome, ends⟩ := same.remaining
    obtain ⟨filed, stopped⟩ :
        numeric.1 = (engine.remaining start.1.handle session.state).outcome.map _ ∧
          numeric.2.state = (engine.remaining start.1.handle session.state).state := by
      apply foldRows_fileRow engine session
      intro row kept
      have long := full row (rows ▸ kept)
      exact ⟨Nat.lt_of_lt_of_le keyed long, Nat.lt_of_lt_of_le valued long⟩
    rw [answer, last, filed, stopped, outcome]
    exact ⟨rfl, ends⟩

/-- A table of two columns in which one key comes twice. -/
def pairTable : Session Script.World where
  state := { handles := [{ runs := [
    { columns := [⟨"k", "varchar", none⟩, ⟨"v", "int", none⟩]
      rows := [[.text "a", .int 1], [.text "b", .int 2], [.text "a", .int 3]] }] }] }

def pairStatement : Statement × Session Script.World :=
  after (Script.engine {}) [.execute .empty {}] (⟨⟨0⟩, {}, .assoc, false, [], [], []⟩,
    ((prepare (Script.engine {}) "SELECT k, v FROM pairs" {}).run pairTable).2)

theorem fetchAllKeyed_filesRows_pairStatement :
    let engine := Script.engine {}
    let ran := (fetchAllKeyed engine 0 1).run pairStatement
    let numeric := (Session.foldRows engine ⟨0⟩ (fileRow 0 1) ValueMap.empty).run
      (inMode engine .num pairStatement)
    (∃ map, ran.1 = .ok map ∧ map.lookup (.text "a") = some (.int 3) ∧
      map.lookup (.text "b") = some (.int 2)) ∧
    numeric.1 = ran.1 ∧ engine.SameCursor ⟨0⟩ numeric.2.state ran.2.2.state := by
  intro engine ran numeric
  obtain ⟨live, found, sound, content⟩ : ∃ live,
      (keyedSession engine 0 1 pairStatement).state.find? ⟨0⟩ = some live ∧
        live.result.rowFault = none ∧ live.result.rows.drop live.cursor =
          [[.text "a", .int 1], [.text "b", .int 2], [.text "a", .int 3]] := ⟨_, rfl, rfl, rfl⟩
  have fetched : (keyedRows engine 0 1 pairStatement).outcome = .ok _ :=
    (Script.remaining_of_sound {} found sound).trans (congrArg Except.ok content)
  have rows := Remaining.rows_of_outcome fetched
  obtain ⟨answer, _, lookups, plain⟩ := fetchAllKeyed_filesRows engine 0 1 pairStatement
    (Script.pairsRows_engine {} _) (by decide +kernel) (by decide +kernel)
    (by rw [rows]; decide +kernel)
  rw [fetched] at answer
  refine ⟨⟨_, answer, ?_, ?_⟩, plain _ (.refl _)⟩
  · rw [lookups _ _ answer, rows]
    decide
  · rw [lookups _ _ answer, rows]
    decide

end Statement

end SqlBridge
