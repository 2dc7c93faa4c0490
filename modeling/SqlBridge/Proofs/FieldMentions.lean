import Mathlib.Data.List.Induction
import Mathlib.Data.List.Nodup
import SqlBridge.Update.Query

/-!
# Fields and their mentions

Fields come from mentions that are taken in one after the other.  A name stands where it was
mentioned first, with the content of its last mention; this settles the fields.
-/

set_option autoImplicit false

namespace SqlBridge

variable {α : Type}

namespace Fields

def lastOf? (name : String) (mentions : Fields α) : Option α :=
  (mentions.reverse.find? fun mention => mention.1 = name).map Prod.snd

/-- Each mentioned name stands in the order of first mentions, with the content of its last. -/
structure Settles (mentions fields : Fields α) : Prop where
  ordered : (names fields).Pairwise fun first second =>
    (names mentions).idxOf first < (names mentions).idxOf second
  latest : ∀ name content, (name, content) ∈ fields ↔ lastOf? name mentions = some content

theorem lastOf?_concat (name other : String) (content : α) (mentions : Fields α) :
    lastOf? name (mentions ++ [(other, content)]) =
      if other = name then some content else lastOf? name mentions := by
  by_cases same : other = name <;> simp [lastOf?, same]

theorem isSome_lastOf? (name : String) (mentions : Fields α) :
    (lastOf? name mentions).isSome = true ↔ name ∈ names mentions := by
  simp [lastOf?, names, List.find?_isSome]

theorem mem_names {name : String} {fields : Fields α} :
    name ∈ names fields ↔ ∃ content, (name, content) ∈ fields := by
  simp [names]

theorem names_append (front back : Fields α) : names (front ++ back) = names front ++ names back :=
  List.map_append

namespace Settles

variable {mentions fields others : Fields α}

theorem mem_names_iff (settles : Settles mentions fields) (name : String) :
    name ∈ names fields ↔ name ∈ names mentions := by
  rw [mem_names, ← isSome_lastOf?, Option.isSome_iff_exists]
  exact exists_congr fun content => settles.latest name content

theorem nodup_names (settles : Settles mentions fields) : (names fields).Nodup :=
  settles.ordered.imp fun before same => by simp [same] at before

theorem unique (settles : Settles mentions fields) (also : Settles mentions others) :
    fields = others := by
  have permuted : fields.Perm others := by
    rw [List.perm_ext_iff_of_nodup (List.Nodup.of_map Prod.fst settles.nodup_names)
      (List.Nodup.of_map Prod.fst also.nodup_names)]
    rintro ⟨name, content⟩
    rw [settles.latest, also.latest]
  have first : fields.Pairwise _ := List.pairwise_map.mp settles.ordered
  have second : others.Pairwise _ := List.pairwise_map.mp also.ordered
  refine permuted.eq_of_pairwise (fun _ _ _ _ before behind => ?_) first second
  exact absurd behind (Nat.lt_asymm before)

end Settles

theorem mem_upsert {name : String} {content : α} {fields : Fields α}
    (distinct : (names fields).Nodup) (other : String) (old : α) :
    (other, old) ∈ upsert name content fields ↔
      if name = other then content = old else (other, old) ∈ fields := by
  induction fields with
  | nil =>
    by_cases same : name = other <;> simp [upsert, same, eq_comm]
  | cons field rest ih =>
    obtain ⟨present, was⟩ := field
    obtain ⟨absent, distinctRest⟩ := List.nodup_cons.mp distinct
    have below : other = present → (other, old) ∉ rest := by
      rintro rfl listed
      exact absent (mem_names.mpr ⟨old, listed⟩)
    by_cases here : present = name
    · rw [upsert, if_pos here, List.mem_cons, List.mem_cons]
      grind
    · rw [upsert, if_neg here, List.mem_cons, List.mem_cons, ih distinctRest]
      grind

/-! ## Gathering mentions -/

def upsertAll (mentions fields : Fields α) : Fields α :=
  mentions.foldl (fun fields mention => upsert mention.1 mention.2 fields) fields

def gathered (mentions : Fields α) : Fields α :=
  upsertAll mentions []

theorem gathered_append (front back : Fields α) :
    gathered (front ++ back) = upsertAll back (gathered front) :=
  List.foldl_append

theorem gathered_concat (mentions : Fields α) (mention : String × α) :
    gathered (mentions ++ [mention]) = upsert mention.1 mention.2 (gathered mentions) :=
  gathered_append mentions [mention]

/-- One more mention changes the content under its name, or comes last. -/
theorem Settles.upsert {mentions fields : Fields α} (settles : Settles mentions fields)
    (name : String) (content : α) :
    Settles (mentions ++ [(name, content)]) (upsert name content fields) where
  latest other old := by
    rw [mem_upsert settles.nodup_names, lastOf?_concat, settles.latest]
    split <;> simp
  ordered := by
    have place : ∀ first ∈ names fields,
        (names (mentions ++ [(name, content)])).idxOf first = (names mentions).idxOf first := by
      intro first listed
      rw [names_append]
      exact List.idxOf_append_of_mem ((settles.mem_names_iff first).mp listed)
    have kept : (names fields).Pairwise fun first second =>
        (names (mentions ++ [(name, content)])).idxOf first <
          (names (mentions ++ [(name, content)])).idxOf second := by
      apply settles.ordered.imp_of_mem
      intro first second listed also before
      rwa [place first listed, place second also]
    rw [names_upsert]
    split
    next => exact kept
    next absent =>
      rw [List.pairwise_append]
      refine ⟨kept, List.pairwise_singleton _ _, ?_⟩
      intro first listed second last
      obtain rfl := List.mem_singleton.mp last
      have mentioned := (settles.mem_names_iff first).mp listed
      have unmentioned := mt (settles.mem_names_iff second).mpr absent
      rw [place first listed, names_append, List.idxOf_append_of_notMem unmentioned]
      exact Nat.lt_add_right _ (List.idxOf_lt_length_of_mem mentioned)

theorem settles_gathered (mentions : Fields α) : Settles mentions (gathered mentions) := by
  induction mentions using List.reverseRecOn with
  | nil => exact ⟨.nil, by simp [gathered, upsertAll, lastOf?]⟩
  | append_singleton before last ih =>
    rw [gathered_concat]
    exact ih.upsert last.1 last.2

theorem filter_upsert (keep : String → Bool) (name : String) (content : α) (fields : Fields α) :
    (upsert name content fields).filter (fun field => keep field.1) =
      if keep name then upsert name content (fields.filter fun field => keep field.1)
      else fields.filter fun field => keep field.1 := by
  induction fields with
  | nil => cases kept : keep name <;> simp [upsert, kept]
  | cons field rest ih =>
    obtain ⟨other, old⟩ := field
    by_cases same : other = name
    · cases kept : keep name <;> simp [upsert, same, kept]
    · cases kept : keep name <;> cases also : keep other <;> simp_all [upsert]

theorem filter_gathered (keep : String → Bool) (mentions : Fields α) :
    (gathered mentions).filter (fun field => keep field.1) =
      gathered (mentions.filter fun mention => keep mention.1) := by
  induction mentions using List.reverseRecOn with
  | nil => rfl
  | append_singleton before last ih =>
    rw [gathered_concat, filter_upsert, ih, List.filter_append]
    cases kept : keep last.1 <;> simp [kept, gathered_concat]

end Fields

end SqlBridge
