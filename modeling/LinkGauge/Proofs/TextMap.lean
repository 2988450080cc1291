import LinkGauge.Archive

/-!
# Maps and their entries

Entries that ascend are put in one behind the other, so a map is made again from its entries
(`TextMap.ofList_entries`) and read again from its object (`Archive.mapOfJson?_mapToJson`). A map
has one entry for each key and is known by its entries in any order (`TextMap.ext_of_mem`), or by
its values (`TextMap.ext_of_get?`); the map of a list whose keys differ has the entries of the list
(`TextMap.mem_ofList`).
-/

namespace LinkGauge

namespace TextMap

private theorem insertEntry_of_last {key : String} {entries : List (String × String)}
    (last : ∀ entry ∈ entries, entry.1 < key) (value : String) :
    insertEntry key value entries = entries ++ [(key, value)] := by
  induction entries with
  | nil => rfl
  | cons head rest ih =>
      obtain ⟨other, kept⟩ := head
      obtain ⟨first, later⟩ := List.forall_mem_cons.mp last
      have notBefore : ¬ key < other := String.lt_asymm first
      rw [insertEntry, if_neg notBefore, if_pos first, ih later, List.cons_append]

private theorem foldl_insert {more : List (String × String)} (m : TextMap)
    (ascending : Ascending (m.entries ++ more)) :
    (more.foldl (fun m (key, value) => m.insert key value) m).entries = m.entries ++ more := by
  induction more generalizing m with
  | nil => exact (List.append_nil _).symm
  | cons entry rest ih =>
      obtain ⟨key, value⟩ := entry
      have last : ∀ entry ∈ m.entries, entry.1 < key := fun entry member =>
        (List.pairwise_append.mp ascending).2.2 entry member (key, value) List.mem_cons_self
      have inserted : (m.insert key value).entries = m.entries ++ [(key, value)] :=
        insertEntry_of_last last value
      have regrouped : m.entries ++ (key, value) :: rest =
          (m.insert key value).entries ++ rest := by
        rw [inserted, List.append_assoc, List.singleton_append]
      rw [regrouped] at ascending ⊢
      exact ih _ ascending

/-- A map is the map of its entries. -/
theorem ofList_entries (m : TextMap) : ofList m.entries = m := by
  ext1
  exact foldl_insert empty m.ascending

private theorem mem_insertEntry_iff {key value : String} {entries : List (String × String)}
    (ascending : Ascending entries) {entry : String × String} :
    entry ∈ insertEntry key value entries ↔
      entry = (key, value) ∨ entry.1 ≠ key ∧ entry ∈ entries := by
  induction entries with
  | nil => simp only [insertEntry, List.mem_singleton, List.not_mem_nil, and_false, or_false]
  | cons head rest ih =>
      obtain ⟨other, kept⟩ := head
      obtain ⟨first, later⟩ := List.pairwise_cons.mp ascending
      rw [insertEntry]
      by_cases before : key < other
      · rw [if_pos before, List.mem_cons]
        refine or_congr_right ⟨fun member => ⟨?_, member⟩, And.right⟩
        intro same
        rcases List.mem_cons.mp member with rfl | there
        · exact String.lt_irrefl _ (same ▸ before)
        · exact String.lt_asymm before (same ▸ first entry there)
      by_cases behind : other < key
      · have differs : other ≠ key := fun same => String.lt_irrefl _ (same ▸ behind)
        rw [if_neg before, if_pos behind, List.mem_cons, List.mem_cons, ih later]
        constructor
        · rintro (rfl | rfl | there)
          · exact .inr ⟨differs, .inl rfl⟩
          · exact .inl rfl
          · exact .inr ⟨there.1, .inr there.2⟩
        · rintro (rfl | ⟨apart, rfl | there⟩)
          · exact .inr (.inl rfl)
          · exact .inl rfl
          · exact .inr (.inr ⟨apart, there⟩)
      · have same : key = other :=
          String.le_antisymm (String.not_lt.mp behind) (String.not_lt.mp before)
        subst same
        rw [if_neg before, if_neg behind, List.mem_cons, List.mem_cons]
        refine or_congr_right ⟨fun there => ⟨?_, .inr there⟩, ?_⟩
        · intro equal
          exact String.lt_irrefl _ (equal ▸ first entry there)
        · rintro ⟨apart, rfl | there⟩
          · exact absurd rfl apart
          · exact there

private theorem mem_insert {m : TextMap} {key value : String} {entry : String × String} :
    entry ∈ (m.insert key value).entries ↔
      entry = (key, value) ∨ entry.1 ≠ key ∧ entry ∈ m.entries :=
  mem_insertEntry_iff m.ascending

private theorem mem_foldl_insert {more : List (String × String)} (distinct : (more.map (·.1)).Nodup)
    {m : TextMap} {entry : String × String} :
    entry ∈ (more.foldl (fun m (key, value) => m.insert key value) m).entries ↔
      entry ∈ more ∨ entry.1 ∉ more.map (·.1) ∧ entry ∈ m.entries := by
  induction more generalizing m with
  | nil => simp only [List.foldl_nil, List.map_nil, List.not_mem_nil, not_false_eq_true, true_and,
      false_or]
  | cons head rest ih =>
      obtain ⟨key, value⟩ := head
      obtain ⟨new, distinct⟩ := List.nodup_cons.mp distinct
      rw [List.foldl_cons, ih distinct, mem_insert, List.map_cons, List.mem_cons, List.mem_cons]
      constructor
      · rintro (later | ⟨unknown, rfl | ⟨apart, old⟩⟩)
        · exact .inl (.inr later)
        · exact .inl (.inl rfl)
        · exact .inr ⟨not_or.mpr ⟨apart, unknown⟩, old⟩
      · rintro ((rfl | later) | ⟨unknown, old⟩)
        · exact .inr ⟨new, .inl rfl⟩
        · exact .inl later
        · exact .inr ⟨(not_or.mp unknown).2, .inr ⟨(not_or.mp unknown).1, old⟩⟩

/-- A map has the entries that it was made from when their keys are distinct. -/
theorem mem_ofList {entries : List (String × String)} (distinct : (entries.map (·.1)).Nodup)
    {entry : String × String} : entry ∈ (ofList entries).entries ↔ entry ∈ entries := by
  rw [ofList, mem_foldl_insert distinct]
  exact or_iff_left fun old => List.not_mem_nil old.2

/-- No key stands twice in a map. -/
theorem nodup_keys (m : TextMap) : (m.entries.map (·.1)).Nodup := by
  refine List.pairwise_map.mpr (m.ascending.imp ?_)
  intro first second less same
  exact String.lt_irrefl _ (same ▸ less)

/-- No entry stands twice in a map. -/
theorem nodup_entries (m : TextMap) : m.entries.Nodup := by
  refine List.Pairwise.of_map (·.1) ?_ m.nodup_keys
  intro first second apart same
  exact apart (same ▸ rfl)

/-- Maps with the same entries are equal. -/
theorem ext_of_mem {m n : TextMap} (same : ∀ entry, entry ∈ m.entries ↔ entry ∈ n.entries) :
    m = n := by
  have permuted : m.entries.Perm n.entries :=
    (List.perm_ext_iff_of_nodup m.nodup_entries n.nodup_entries).mpr same
  refine TextMap.ext (permuted.eq_of_pairwise ?_ m.ascending n.ascending)
  intro a b _ _ less greater
  exact absurd greater (String.lt_asymm less)

private theorem get?_eq_some_iff {m : TextMap} {key value : String} :
    m.get? key = some value ↔ (key, value) ∈ m.entries := by
  have distinct := m.nodup_keys
  rw [get?]
  generalize m.entries = entries at distinct
  induction entries with
  | nil => exact ⟨nofun, nofun⟩
  | cons head rest ih =>
      obtain ⟨other, kept⟩ := head
      obtain ⟨new, distinct⟩ := List.nodup_cons.mp distinct
      rw [List.lookup_cons, List.mem_cons, Prod.mk.injEq]
      by_cases same : key = other
      · subst same
        have later : (key, value) ∉ rest := fun among =>
          new (List.mem_map.mpr ⟨_, among, rfl⟩)
        simp only [BEq.rfl, Option.some.injEq, true_and, later, or_false, eq_comm]
      · have apart : (key == other) = false := beq_false_of_ne same
        simp only [apart, same, false_and, false_or, ih distinct]

/-- What stands under a key was inserted there, or was there before. -/
theorem get?_insert {m : TextMap} {key value other : String} :
    (m.insert key value).get? other = if other = key then some value else m.get? other := by
  refine Option.ext fun found => ?_
  rw [get?_eq_some_iff, mem_insert, Prod.mk.injEq]
  by_cases same : other = key
  · simp only [same, true_and, ne_eq, not_true_eq_false, false_and, or_false, ↓reduceIte,
      Option.some.injEq, eq_comm]
  · simp only [same, false_and, ne_eq, not_false_eq_true, true_and, false_or, ↓reduceIte,
      get?_eq_some_iff]

/-- Maps with the same values are equal. -/
theorem ext_of_get? {m n : TextMap} (same : ∀ key, m.get? key = n.get? key) : m = n := by
  refine ext_of_mem fun (key, value) => ?_
  rw [← get?_eq_some_iff, ← get?_eq_some_iff, same]

end TextMap

namespace Archive

private theorem entries?_map (entries : List (String × String)) :
    entries? (entries.map fun (key, value) => (some key, Json.text value)) = some entries := by
  induction entries with
  | nil => rfl
  | cons entry rest ih =>
      obtain ⟨key, value⟩ := entry
      rw [List.map_cons, entries?, ih]
      rfl

/-- A map is read back from its object. -/
theorem mapOfJson?_mapToJson (m : TextMap) : mapOfJson? (mapToJson m) = some m := by
  rw [mapToJson, mapOfJson?, entries?_map, Option.map_some, TextMap.ofList_entries]

end Archive

end LinkGauge
