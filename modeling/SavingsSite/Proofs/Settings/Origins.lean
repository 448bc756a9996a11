import SavingsSite.Proofs.Text.Parts
import SavingsSite.Settings.Basic

set_option autoImplicit false

/-! The origins that a text lists. A comma between two texts joins their lists, so a list of entries
is read back from its text, and exactly the lists of entries are. -/

namespace SavingsSite.Settings

/-- A part of the text between commas, without the blanks around it and not empty. -/
def IsListed (text origin : String) : Prop :=
  origin ≠ "" ∧ ∃ part, Text.IsPart ',' text.toList part ∧
    Text.IsCore Text.isBlank part origin.toList

theorem mem_originList_iff (text origin : String) :
    origin ∈ originList text ↔ IsListed text origin := by
  simp only [originList, List.mem_map, List.mem_filter, Text.mem_splitOn_iff, Text.trim_eq_iff,
    IsListed, Bool.not_eq_true', List.isEmpty_eq_false_iff]
  constructor
  · rintro ⟨core, ⟨⟨part, isPart, isCore⟩, nonempty⟩, rfl⟩
    refine ⟨?_, part, isPart, ?_⟩
    · rintro empty
      exact nonempty (String.ofList_eq_empty_iff.mp empty)
    · rw [String.toList_ofList]
      exact isCore
  · rintro ⟨nonempty, part, isPart, isCore⟩
    refine ⟨origin.toList, ⟨⟨part, isPart, isCore⟩, ?_⟩, String.ofList_toList⟩
    intro empty
    exact nonempty (String.toList_eq_nil_iff.mp empty)

/-! ### Entries -/

/-- An origin as it stands in a list: not empty, and without commas and outer blanks. -/
structure IsEntry (origin : String) : Prop where
  nonempty : origin ≠ ""
  undivided : ',' ∉ origin.toList
  begins : ∀ c ∈ origin.toList.head?, Text.isBlank c = false
  ends : ∀ c ∈ origin.toList.getLast?, Text.isBlank c = false

theorem IsListed.isEntry {text origin : String} (listed : IsListed text origin) :
    IsEntry origin := by
  obtain ⟨nonempty, part, ⟨unmarked, _⟩, left, right, whole, _, _, begins, ends⟩ := listed
  refine ⟨nonempty, ?_, begins, ends⟩
  intro comma
  apply unmarked
  rw [whole]
  exact List.mem_append_right left (List.mem_append_left right comma)

theorem IsEntry.originList {origin : String} (entry : IsEntry origin) :
    originList origin = [origin] := by
  have kept : Text.trim Text.isBlank origin.toList = origin.toList := by
    apply Text.trim_eq_of_isCore
    exact ⟨[], [], (List.append_nil _).symm, List.forall_mem_nil _, List.forall_mem_nil _,
      entry.begins, entry.ends⟩
  have shown : origin.toList.isEmpty = false := by
    rw [List.isEmpty_eq_false_iff]
    exact mt String.toList_eq_nil_iff.mp entry.nonempty
  rw [Settings.originList, Text.splitOn_of_not_mem entry.undivided, List.map_singleton, kept,
    List.filter_cons, shown]
  change [String.ofList origin.toList] = [origin]
  rw [String.ofList_toList]

/-! ### Texts with commas between them -/

theorem originList_append (a b : String) :
    originList (a ++ "," ++ b) = originList a ++ originList b := by
  have whole : (a ++ "," ++ b).toList = a.toList ++ ',' :: b.toList := by
    rw [String.toList_append, String.toList_append, List.append_assoc]
    rfl
  simp only [originList, whole, Text.splitOn_append_mark, List.map_append, List.filter_append]

theorem originList_intercalate (texts : List String) :
    originList (",".intercalate texts) = texts.flatMap originList := by
  induction texts with
  | nil => rfl
  | cons text rest ih =>
      cases rest with
      | nil => rw [String.intercalate_singleton, List.flatMap_singleton]
      | cons next rest =>
          rw [String.intercalate_cons_cons, originList_append, ih, ← List.flatMap_cons]

theorem originList_of_entries {origins : List String}
    (entries : ∀ origin ∈ origins, IsEntry origin) :
    originList (",".intercalate origins) = origins := by
  rw [originList_intercalate]
  induction origins with
  | nil => rfl
  | cons origin rest ih =>
      rw [List.forall_mem_cons] at entries
      rw [List.flatMap_cons, entries.1.originList, ih entries.2, List.singleton_append]

theorem isEntry_of_mem {text origin : String} (member : origin ∈ originList text) :
    IsEntry origin :=
  ((mem_originList_iff text origin).mp member).isEntry

/-- A comma between two texts puts the list of the first before that of the second. A list holds
entries only and is read back from them with commas between, and no other list of texts is. -/
theorem origins_read_back :
    (∀ a b, originList (a ++ "," ++ b) = originList a ++ originList b) ∧
    (∀ text, ∀ origin ∈ originList text, IsEntry origin) ∧
    (∀ text, originList (",".intercalate (originList text)) = originList text) ∧
    ∀ origins, originList (",".intercalate origins) = origins ↔
      ∀ origin ∈ origins, IsEntry origin := by
  have listed (text : String) : ∀ origin ∈ originList text, IsEntry origin :=
    fun _ member => isEntry_of_mem member
  refine ⟨originList_append, listed, fun text => originList_of_entries (listed text), ?_⟩
  intro origins
  constructor
  · intro same
    rw [← same]
    exact listed _
  · exact originList_of_entries

/-- Entries with an inner blank and a port, among blanks of several kinds and empty parts. -/
theorem origins_read_back_spaced :
    let text := "\u3000https://a.io:80\u00a0, ,x y" ++ "," ++ "\t,null "
    let entries := ["https://a.io:80", "x y", "null"]
    originList text = entries ∧ (∀ origin ∈ entries, IsEntry origin) ∧
      originList "https://a.io:80,x y,null" = entries := by
  intro text entries
  obtain ⟨joins, isEntry, _, readBack⟩ := origins_read_back
  have listed : originList text = entries := by
    rw [joins]
    decide +kernel
  have sound : ∀ origin ∈ entries, IsEntry origin := by
    rw [← listed]
    exact isEntry text
  exact ⟨listed, sound, (readBack entries).mpr sound⟩

end SavingsSite.Settings
