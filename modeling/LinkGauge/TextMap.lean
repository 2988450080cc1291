/-!
# Maps from texts to texts

A map is the list of its entries with strictly ascending keys, so that two maps
with the same entries are equal. Keys are compared by their code points, which is
also the order of their bytes.
-/

namespace LinkGauge

namespace TextMap

/-- Whether the keys of entries ascend strictly. -/
def Ascending (entries : List (String × String)) : Prop := entries.Pairwise (·.1 < ·.1)

/-- No entries are ascending. -/
theorem ascending_nil : Ascending [] := .nil

/-- Puts an entry at its place, instead of one with the same key. -/
def insertEntry (key value : String) : List (String × String) → List (String × String)
  | [] => [(key, value)]
  | (other, kept) :: rest =>
    if key < other then (key, value) :: (other, kept) :: rest
    else if other < key then (other, kept) :: insertEntry key value rest
    else (key, value) :: rest

private theorem mem_insertEntry {key value : String} {entries : List (String × String)}
    {entry : String × String} (member : entry ∈ insertEntry key value entries) :
    entry = (key, value) ∨ entry ∈ entries := by
  induction entries with
  | nil => simpa [insertEntry] using member
  | cons head rest ih =>
    obtain ⟨other, kept⟩ := head
    unfold insertEntry at member
    split at member
    · simpa using member
    · split at member
      · rcases List.mem_cons.mp member with here | there
        · exact .inr (by simp [here])
        · rcases ih there with new | old
          · exact .inl new
          · exact .inr (by simp [old])
      · rcases List.mem_cons.mp member with here | there
        · exact .inl here
        · exact .inr (by simp [there])

private theorem Ascending.insertEntry {entries : List (String × String)}
    (ascending : Ascending entries)
    (key value : String) : Ascending (insertEntry key value entries) := by
  induction entries with
  | nil => simp [TextMap.insertEntry, Ascending]
  | cons head rest ih =>
    obtain ⟨other, kept⟩ := head
    obtain ⟨first, later⟩ := List.pairwise_cons.mp ascending
    unfold TextMap.insertEntry
    split
    · rename_i less
      refine List.pairwise_cons.mpr ⟨?_, ascending⟩
      intro entry member
      rcases List.mem_cons.mp member with here | there
      · simpa [here] using less
      · exact String.lt_trans less (first entry there)
    · split
      · rename_i less
        refine List.pairwise_cons.mpr ⟨?_, ih later⟩
        intro entry member
        rcases mem_insertEntry member with new | old
        · simpa [new] using less
        · exact first entry old
      · rename_i notLess notGreater
        have same : key = other := String.le_antisymm
          (String.not_lt.mp notGreater) (String.not_lt.mp notLess)
        refine List.pairwise_cons.mpr ⟨?_, later⟩
        intro entry member
        simpa [same] using first entry member

end TextMap

/-- A map from texts to texts. -/
@[ext]
structure TextMap where
  entries : List (String × String) := []
  ascending : TextMap.Ascending entries := by exact TextMap.ascending_nil

namespace TextMap

/-- The map without entries. -/
def empty : TextMap := {}

/-- Sets the value of a key. -/
def insert (m : TextMap) (key value : String) : TextMap where
  entries := insertEntry key value m.entries
  ascending := m.ascending.insertEntry key value

/-- The map of a list of entries; of entries with one key the last one counts. -/
def ofList (entries : List (String × String)) : TextMap :=
  entries.foldl (fun m (key, value) => m.insert key value) empty

/-- The value of a key. -/
def get? (m : TextMap) (key : String) : Option String := m.entries.lookup key

/-- The entries that satisfy a condition on the key. -/
def filterKeys (m : TextMap) (keep : String → Bool) : TextMap where
  entries := m.entries.filter fun entry => keep entry.1
  ascending := m.ascending.filter _

/-- Whether there is no entry. -/
def isEmpty (m : TextMap) : Bool := m.entries.isEmpty

end TextMap

end LinkGauge
