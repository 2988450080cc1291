import LinkGauge.FileTree

/-!
# Trees with more directories

Making directories leaves every file where it is and as it is (`FileTree.Grown`). A new file is
made only where nothing stands once the directories on the way have been made
(`FileTree.create_eq_ok_iff`), at a place that the path alone decides (`FileTree.target?`), and
otherwise the tree has more directories at most (`FileTree.grown_of_refused`).
-/

namespace LinkGauge.FileTree

variable {t made : FileTree} {place other : Place} {path name : String}

private theorem entryAt?_nil (t : FileTree) : t.entryAt? [] = some .directory := if_pos rfl

/-- What was put at a place stands there. -/
theorem entryAt?_insert_self (some_name : place ≠ []) (entry : Entry) :
    (t.insert place entry).entryAt? place = some entry := by
  rw [entryAt?, if_neg some_name]
  exact List.lookup_cons_self

/-- What stands elsewhere stays when something is put at a place. -/
theorem entryAt?_insert_of_ne (apart : other ≠ place) (entry : Entry) :
    (t.insert place entry).entryAt? other = t.entryAt? other := by
  rw [entryAt?, entryAt?]
  by_cases root : other = []
  · rw [if_pos root, if_pos root]
  · rw [if_neg root, if_neg root, insert, List.lookup_cons, beq_eq_false_iff_ne.mpr apart]

/-- What a change of the content at a place makes of what stands at another one. -/
def Entry.changed (here : Bool) (change : ByteSink → ByteSink) : Entry → Entry
  | .directory => .directory
  | .file compressed content => .file compressed (if here then change content else content)

private theorem entryAt?_update (t : FileTree) (place : Place) (change : ByteSink → ByteSink)
    (other : Place) :
    (t.update place change).entryAt? other =
      (t.entryAt? other).map (Entry.changed (other = place) change) := by
  rw [entryAt?, entryAt?]
  by_cases root : other = []
  · rw [if_pos root, if_pos root]
    rfl
  · rw [if_neg root, if_neg root, update]
    induction t.entries with
    | nil => rfl
    | cons first rest ih =>
        obtain ⟨at_, entry⟩ := first
        by_cases same : other = at_
        · subst same
          cases entry <;>
            simp only [List.map_cons, List.lookup_cons_self, Option.map_some, Entry.changed,
              decide_eq_true_eq]
        · cases entry <;>
            simp only [List.map_cons, List.lookup_cons, beq_eq_false_iff_ne.mpr same, ih]

/-- A file at a place is changed there. -/
theorem entryAt?_update_self {compressed : Bool} {content : ByteSink}
    (there : t.entryAt? place = some (.file compressed content)) (change : ByteSink → ByteSink) :
    (t.update place change).entryAt? place = some (.file compressed (change content)) := by
  rw [entryAt?_update, there, Option.map_some, Entry.changed, decide_eq_true rfl, if_pos rfl]

/-- What stands elsewhere stays when a file is changed. -/
theorem entryAt?_update_of_ne (apart : other ≠ place) (change : ByteSink → ByteSink) :
    (t.update place change).entryAt? other = t.entryAt? other := by
  have unchanged : Entry.changed false change = id := by
    funext entry
    cases entry <;> rfl
  rw [entryAt?_update, decide_eq_false apart, unchanged, Option.map_id_fun, id_eq]

/-! ### Growing -/

/-- Whether a tree has what another one has, and besides this only directories. -/
structure Grown (t made : FileTree) : Prop where
  base : made.base = t.base
  entryAt? (place : Place) :
    made.entryAt? place = t.entryAt? place ∨
      t.entryAt? place = none ∧ made.entryAt? place = some .directory

namespace Grown

private theorem refl (t : FileTree) : Grown t t where
  base := rfl
  entryAt? _ := .inl rfl

private theorem trans {later : FileTree} (first : Grown t made) (second : Grown made later) :
    Grown t later where
  base := second.base.trans first.base
  entryAt? place := by
    rcases second.entryAt? place with same | ⟨nothing, directory⟩
    · rw [same]
      exact first.entryAt? place
    · rcases first.entryAt? place with kept | ⟨_, standing⟩
      · exact .inr ⟨kept.symm.trans nothing, directory⟩
      · exact nomatch standing.symm.trans nothing

private theorem insert (free : t.entryAt? place = none) : Grown t (t.insert place .directory) where
  base := rfl
  entryAt? other := by
    by_cases same : other = place
    · subst same
      have some_name : other ≠ [] := by
        rintro rfl
        exact nomatch free.symm.trans (entryAt?_nil t)
      exact .inr ⟨free, entryAt?_insert_self some_name _⟩
    · exact .inl (entryAt?_insert_of_ne same _)

/-- Files stay where they are and as they are. -/
theorem file_iff (grown : Grown t made) {compressed : Bool} {content : ByteSink} :
    made.entryAt? place = some (.file compressed content) ↔
      t.entryAt? place = some (.file compressed content) := by
  rcases grown.entryAt? place with same | ⟨nothing, directory⟩
  · rw [same]
  · rw [nothing, directory]
    exact iff_of_false nofun nofun

end Grown

private theorem grown_makeDirectories (t : FileTree) (place : Place) (names : List String) :
    Grown t (t.makeDirectories place names).2 := by
  induction names generalizing t place with
  | nil => exact .refl t
  | cons name rest ih =>
      rw [makeDirectories]
      split
      · exact ih t place.tail
      split
      · exact .refl t
      split
      · exact ih t (name :: place)
      · exact .refl t
      · next free => exact (Grown.insert free).trans (ih _ (name :: place))

/-! ### New files -/

/-- The place to which names lead from another one; two points lead back. -/
def follow (place : Place) : List String → Place
  | [] => place
  | name :: rest => if name = ".." then follow place.tail rest else follow (name :: place) rest

private theorem eq_follow_of_makeDirectories {names : List String}
    (ok : t.makeDirectories place names = (.ok other, made)) : other = follow place names := by
  induction names generalizing t place with
  | nil =>
      rw [makeDirectories] at ok
      cases ok
      rfl
  | cons name rest ih =>
      rw [makeDirectories] at ok
      rw [follow]
      by_cases back : name = ".."
      · rw [if_pos back] at ok ⊢
        exact ih ok
      · rw [if_neg back] at ok ⊢
        split at ok
        · exact nomatch ok
        split at ok
        · exact ih ok
        · exact nomatch ok
        · exact ih ok

/-- The place of the file that a path leads to. -/
def target? (t : FileTree) (path : String) : Option Place :=
  (names path).getLast?.map (· :: follow (t.origin path) (names path).dropLast)

/-- Where a path leads depends only on where paths begin. -/
theorem target?_congr (base : made.base = t.base) (path : String) :
    made.target? path = t.target? path := by
  rw [target?, target?, origin, origin, base]

/-- Whether the directories on the way to a path can be made, which gives another tree, and the
system takes the path, at the end of which stands a name in a directory. -/
structure Leads (t : FileTree) (path : String) (directory : Place) (name : String)
    (made : FileTree) : Prop where
  textual : (names path).dropLast.any (·.contains '\x00') = false
  directories : t.makeDirectories (t.origin path) (names path).dropLast = (.ok directory, made)
  taken : checkPath path = .ok ()
  last : (names path).getLast? = some name
  short : name.utf8ByteSize ≤ nameLimit

section Leads

variable {directory : Place} (leads : Leads t path directory name made)
include leads

/-- A path leads to its last name in its directory. -/
theorem Leads.target? : t.target? path = some (name :: directory) := by
  rw [FileTree.target?, leads.last, ← eq_follow_of_makeDirectories leads.directories]
  rfl

/-- Making the directories on the way changes nothing else. -/
theorem Leads.grown : Grown t made := by
  have grown := grown_makeDirectories t (t.origin path) (names path).dropLast
  rwa [leads.directories] at grown

end Leads

/-- A file is made exactly where a path leads and nothing stands. -/
theorem create_eq_ok_iff {compressed : Bool} {after : FileTree} :
    t.create path compressed = (.ok place, after) ↔
      ∃ directory name made, Leads t path directory name made ∧ place = name :: directory ∧
        made.entryAt? place = none ∧ after = made.insert place (.file compressed {}) := by
  constructor
  · intro ok
    rw [create] at ok
    split at ok
    · exact nomatch ok
    next textual =>
    split at ok
    · exact nomatch ok
    next directory made directories =>
    split at ok
    · exact nomatch ok
    · exact nomatch ok
    next name taken last =>
    rw [createFile] at ok
    split at ok
    · exact nomatch ok
    next short =>
    split at ok
    · exact nomatch ok
    next free =>
    cases ok
    have leads : Leads t path directory name made :=
      ⟨Bool.eq_false_iff.mpr textual, directories, taken, last, Nat.le_of_not_lt short⟩
    exact ⟨directory, name, made, leads, rfl, free, rfl⟩
  · rintro ⟨directory, name, made, leads, rfl, free, rfl⟩
    simp only [create, leads.textual, Bool.false_eq_true, ↓reduceIte, leads.directories,
      leads.taken, leads.last, createFile, Nat.not_lt.mpr leads.short, free]

/-- A file that is refused leaves at most directories. -/
theorem grown_of_refused {compressed : Bool} {error : SystemError} {after : FileTree}
    (refused : t.create path compressed = (.error error, after)) : Grown t after := by
  have grown := grown_makeDirectories t (t.origin path) (names path).dropLast
  rw [create] at refused
  split at refused
  · cases refused
    exact .refl t
  split at refused
  · next directories =>
      rw [directories] at grown
      cases refused
      exact grown
  · next directories =>
      rw [directories] at grown
      split at refused
      · cases refused
        exact grown
      · cases refused
        exact grown
      · rw [createFile] at refused
        split at refused
        · cases refused
          exact grown
        · split at refused
          · cases refused
            exact grown
          · exact nomatch refused

end LinkGauge.FileTree
