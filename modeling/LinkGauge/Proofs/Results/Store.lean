import LinkGauge.Proofs.FileTree
import LinkGauge.Proofs.Results.CutOff
import LinkGauge.Proofs.Results.Path
import LinkGauge.Proofs.Run
import LinkGauge.Results.Store

/-!
# Results files keep apart

What has passed on to a file and then what is held back for it is what has been written to it,
however much a write passes on (`ResultsFile.Wrote`); finishing a file passes on the rest.

A store is asked for one operation after another. A file is made where nothing stands, so no two
files have one place, and an operation on one file leaves the others as they are. Whatever has
been asked, every file therefore has its header and the records that were written to it, in
their order, and this is what it is finished with (`ResultsStore.files_keep_apart`).
-/

namespace LinkGauge

open FileTree

namespace ResultsFile

variable {o : Outflow} {f g h : ResultsFile} {t u v : FileTree} {all bytes more : List UInt8}

/-- Whether bytes are what has passed on to a file in a tree and then what is held back. -/
def Holds (f : ResultsFile) (t : FileTree) (bytes : List UInt8) : Prop :=
  ∃ content, t.entryAt? f.place = some (.file f.compressed content) ∧ content.room = none ∧
    content.bytes ++ f.held = bytes

/-- What writing bytes to a file makes of it and of the tree: only the file's own place is
touched, and the bytes stand behind all others. -/
structure Wrote (f : ResultsFile) (t : FileTree) (bytes : List UInt8) (g : ResultsFile)
    (u : FileTree) : Prop where
  same : ∃ held, g = { f with held }
  base : u.base = t.base
  aside {other : Place} : other ≠ f.place → u.entryAt? other = t.entryAt? other
  holds {all : List UInt8} : f.Holds t all → g.Holds u (all ++ bytes)

private theorem Wrote.trans (first : f.Wrote t bytes g u) (second : g.Wrote u more h v) :
    f.Wrote t (bytes ++ more) h v := by
  obtain ⟨held, rfl⟩ := first.same
  refine ⟨second.same, second.base.trans first.base, fun apart => ?_, fun there => ?_⟩
  · exact (second.aside apart).trans (first.aside apart)
  · rw [← List.append_assoc]
    exact second.holds (first.holds there)

private theorem wrote_pass (f : ResultsFile) (count : Nat) (t : FileTree) :
    f.Wrote t [] (f.pass count t).1 (f.pass count t).2 where
  same := ⟨_, rfl⟩
  base := rfl
  aside apart := entryAt?_update_of_ne apart _
  holds := by
    rintro all ⟨content, there, roomless, rfl⟩
    obtain ⟨stillRoomless, grown⟩ := ByteSink.bytes_write roomless (f.held.take count)
    refine ⟨_, entryAt?_update_self there _, stillRoomless, ?_⟩
    rw [grown, List.append_assoc, List.append_nil]
    exact congrArg _ (List.take_append_drop count f.held)

/-- Bytes are written however many of them pass on at once. -/
theorem wrote_put (o : Outflow) (f : ResultsFile) (bytes : List UInt8) (t : FileTree) :
    f.Wrote t bytes (f.put o bytes t).1 (f.put o bytes t).2 := by
  have taken : f.Wrote t bytes { f with held := f.held ++ bytes } t := by
    refine ⟨⟨_, rfl⟩, rfl, fun _ => rfl, ?_⟩
    rintro all ⟨content, there, roomless, rfl⟩
    exact ⟨content, there, roomless, (List.append_assoc ..).symm⟩
  have passed : f.Wrote t (bytes ++ []) (f.put o bytes t).1 (f.put o bytes t).2 :=
    taken.trans (wrote_pass _ _ t)
  rwa [List.append_nil] at passed

private theorem wrote_writeLine (o : Outflow) (f : ResultsFile) (value : Json) (t : FileTree) :
    f.Wrote t (ByteSink.lineOf value ++ [ByteSink.newline]) (f.writeLine o value t).1
      (f.writeLine o value t).2 :=
  (wrote_put o f _ t).trans (wrote_put o _ _ _)

/-- A file that is finished has everything that was written to it. -/
theorem holds_finish (there : f.Holds t all) :
    { f with held := [] }.Holds (f.finish t) all := by
  obtain ⟨content, entry, roomless, bytes⟩ := (wrote_pass f f.held.length t).holds there
  refine ⟨content, entry, roomless, ?_⟩
  rw [List.append_nil] at bytes
  rw [← bytes]
  exact congrArg _ List.drop_length.symm

/-- Where nothing is held back, everything is in the file. -/
theorem bytes_stored (there : { f with held := [] }.Holds t all) : (f.stored t).bytes = all := by
  obtain ⟨content, entry, -, bytes⟩ := there
  rw [List.append_nil] at bytes
  simp only [stored, content?, entry, Option.getD_some, bytes]

end ResultsFile

namespace ResultsStore

/-- What a store was asked and what it answered, oldest first. -/
abbrev History := List (Operation × Answer)

/-- Asks a store for operations, one after another. -/
def perform (s : ResultsStore) (operations : List Operation) : History × ResultsStore :=
  operations.foldl
    (fun (history, s) operation =>
      (history ++ [(operation, (s.apply operation).1)], (s.apply operation).2))
    ([], s)

private theorem perform_concat (s : ResultsStore) (operations : List Operation)
    (operation : Operation) :
    s.perform (operations ++ [operation]) =
      ((s.perform operations).1 ++ [(operation, ((s.perform operations).2.apply operation).1)],
        ((s.perform operations).2.apply operation).2) := by
  rw [perform, List.foldl_append]
  rfl

/-- The request for which a file was made. -/
def request? : Operation × Answer → Option ResultsRequest
  | (.create request, .done) => some request
  | _ => none

/-- The record that was written to the file with a number. -/
def record? (number : Nat) : Operation × Answer → Option Record
  | (.write other record, .done) => if other = number then some record else none
  | _ => none

/-- Whether the file with a number was finished. -/
def ends (number : Nat) : Operation × Answer → Bool
  | (.finish other, .finished ..) => other == number
  | _ => false

/-- The requests for which files were made, in the order of their numbers. -/
def requests (history : History) : List ResultsRequest := history.filterMap request?

/-- The records that were written to the file with a number, in their order. -/
def written (history : History) (number : Nat) : List Record := history.filterMap (record? number)

/-- Whether the file with a number has been finished. -/
def isFinished (history : History) (number : Nat) : Bool := history.any (ends number)

/-- The bytes of a file: its header's line and a line for each record. -/
def contentOf (header : TextMap) (records : List Record) : List UInt8 :=
  ByteSink.linesOf (Archive.mapToJson header :: records.map Record.toJson)

private theorem contentOf_concat (header : TextMap) (records : List Record) (record : Record) :
    contentOf header (records ++ [record]) =
      contentOf header records ++ (ByteSink.lineOf record.toJson ++ [ByteSink.newline]) := by
  rw [contentOf, List.map_append, ← List.cons_append, ByteSink.linesOf_append, contentOf]
  exact congrArg _ (List.append_nil _)

/-- A file that was made for a request and stands at a place. -/
def handle (request : ResultsRequest) (place : Place) (held : List UInt8) : ResultsFile where
  path := request.path
  place := place
  compressed := request.compressed
  held := held

variable {s next : ResultsStore} {history : History} {number : Nat} {request : ResultsRequest}

/-- What an operation does to a store. -/
inductive Applied (s : ResultsStore) : Operation → Answer → ResultsStore → Prop where
  | made {request : ResultsRequest} {directory : Place} {name : String} {made tree : FileTree}
      {file : ResultsFile} (leads : Leads s.tree request.path directory name made)
      (free : made.entryAt? (name :: directory) = none)
      (wrote : (handle request (name :: directory) []).Wrote
        (made.insert (name :: directory) (.file request.compressed {}))
        (contentOf request.header []) file tree) :
      Applied s (.create request) .done { s with tree, files := s.files ++ [some file] }
  | refused {request : ResultsRequest} {error : StoreError} {tree : FileTree}
      (grown : Grown s.tree tree) :
      Applied s (.create request) (.refused error) { s with tree }
  | wrote {number : Nat} {record : Record} {file later : ResultsFile} {tree : FileTree}
      (opened : s.open? number = some file)
      (wrote : file.Wrote s.tree (ByteSink.lineOf record.toJson ++ [ByteSink.newline]) later tree) :
      Applied s (.write number record) .done
        { s with tree, files := s.files.set number (some later) }
  | finished {number : Nat} {file : ResultsFile} (opened : s.open? number = some file) :
      Applied s (.finish number)
        (.finished file.path (file.stored (file.finish s.tree)).bytes)
        { s with tree := file.finish s.tree, files := s.files.set number none }
  | unwritten {number : Nat} {record : Record} (closed : s.open? number = none) :
      Applied s (.write number record) .noFile s
  | unfinished {number : Nat} (closed : s.open? number = none) :
      Applied s (.finish number) .noFile s

private theorem apply_create_of_leads {directory : Place} {name : String} {made : FileTree}
    (leads : Leads s.tree request.path directory name made)
    (free : made.entryAt? (name :: directory) = none) :
    ∃ file tree, s.apply (.create request) =
        (.done, { s with tree, files := s.files ++ [some file] }) ∧
      (handle request (name :: directory) []).Wrote
        (made.insert (name :: directory) (.file request.compressed {}))
        (contentOf request.header []) file tree := by
  have created : s.tree.create request.path request.compressed = (.ok (name :: directory), _) :=
    create_eq_ok_iff.mpr ⟨directory, name, made, leads, rfl, free, rfl⟩
  have header : contentOf request.header [] =
      ByteSink.lineOf (Archive.mapToJson request.header) ++ [ByteSink.newline] :=
    List.append_nil _
  refine ⟨_, _, ?_, header ▸ ResultsFile.wrote_writeLine s.outflow _ _ _⟩
  rw [apply, ResultsFile.create, created]
  rfl

private theorem applied (s : ResultsStore) (operation : Operation) :
    Applied s operation (s.apply operation).1 (s.apply operation).2 := by
  cases operation with
  | create request =>
      rcases created : s.tree.create request.path request.compressed with ⟨cause | place, tree⟩
      · have answer : s.apply (.create request) = (.refused (.io cause), { s with tree }) := by
          rw [apply, ResultsFile.create, created]
        rw [answer]
        exact .refused (grown_of_refused created)
      · obtain ⟨directory, name, made, leads, rfl, free, rfl⟩ := create_eq_ok_iff.mp created
        obtain ⟨file, tree, answer, wrote⟩ := apply_create_of_leads leads free
        rw [answer]
        exact .made leads free wrote
  | write number record =>
      cases opened : s.open? number with
      | none =>
          simp only [apply, opened]
          exact .unwritten opened
      | some file =>
          simp only [apply, opened]
          exact .wrote opened (ResultsFile.wrote_writeLine s.outflow file _ s.tree)
  | finish number =>
      cases opened : s.open? number with
      | none =>
          simp only [apply, opened]
          exact .unfinished opened
      | some file =>
          simp only [apply, opened]
          exact .finished opened

/-! ### What is kept of every file -/

/-- Whether a store has the file with a number that was made for a request: its header and its
records are what stands at its place and then what is held back. It is open until it has been
finished, and then nothing is held back. -/
def Keeps (history : History) (s : ResultsStore) (number : Nat) (request : ResultsRequest) :
    Prop :=
  ∃ place held, s.tree.target? request.path = some place ∧
    (handle request place held).Holds s.tree
      (contentOf request.header (written history number)) ∧
    s.files[number]? =
      some (if isFinished history number then none else some (handle request place held)) ∧
    (isFinished history number = true → held = [])

/-- The store has every file that was made, and no two at one place; nothing was done to a file
that was not made. -/
structure Books (history : History) (s : ResultsStore) : Prop where
  numbered : s.files.length = (requests history).length
  untouched {number : Nat} : (requests history)[number]? = none →
    written history number = [] ∧ isFinished history number = false
  keeps {number : Nat} {request : ResultsRequest} :
    (requests history)[number]? = some request → Keeps history s number request
  apart {first second : Nat} {early late : ResultsRequest} :
    (requests history)[first]? = some early → (requests history)[second]? = some late →
      s.tree.target? early.path = s.tree.target? late.path → first = second

private theorem Books.start (tree : FileTree) (outflow : Outflow) : Books [] { tree, outflow } where
  numbered := rfl
  untouched _ := ⟨rfl, rfl⟩
  keeps there := nomatch there
  apart there := nomatch there

private theorem requests_concat (history : History) (event : Operation × Answer) :
    requests (history ++ [event]) = requests history ++ (request? event).toList :=
  filterMap_concat request? history event

private theorem written_concat (history : History) (event : Operation × Answer) (number : Nat) :
    written (history ++ [event]) number =
      written history number ++ (record? number event).toList :=
  filterMap_concat (record? number) history event

private theorem isFinished_concat (history : History) (event : Operation × Answer) (number : Nat) :
    isFinished (history ++ [event]) number = (isFinished history number || ends number event) := by
  rw [isFinished, List.any_append, isFinished, List.any_cons, List.any_nil, Bool.or_false]

private theorem old_or_new {late : ResultsRequest}
    (found : (requests (history ++ [(.create request, .done)]))[number]? = some late) :
    (requests history)[number]? = some late ∨
      number = (requests history).length ∧ late = request := by
  rw [requests_concat] at found
  rcases Nat.lt_or_ge number (requests history).length with old | new
  · rw [List.getElem?_append_left old] at found
    exact .inl found
  · rw [List.getElem?_append_right new] at found
    obtain ⟨last, rfl⟩ := List.getElem?_eq_some_iff.mp found
    have last : number - (requests history).length < 1 := last
    exact .inr ⟨by omega, List.eq_of_mem_singleton (List.getElem_mem _)⟩

private theorem Keeps.aside {event : Operation × Answer} (keeps : Keeps history s number request)
    (base : next.tree.base = s.tree.base)
    (place : ∀ {place compressed content}, s.tree.target? request.path = some place →
      s.tree.entryAt? place = some (.file compressed content) →
        next.tree.entryAt? place = some (.file compressed content))
    (handle : next.files[number]? = s.files[number]?) (noRecord : record? number event = none)
    (goesOn : ends number event = false) : Keeps (history ++ [event]) next number request := by
  obtain ⟨there, held, target, ⟨content, entry, roomless, bytes⟩, opened, complete⟩ := keeps
  refine ⟨there, held, (target?_congr base _).trans target,
    ⟨content, place target entry, roomless, ?_⟩, ?_, ?_⟩
  · rw [written_concat, noRecord, Option.toList_none, List.append_nil]
    exact bytes
  · rw [handle, opened, isFinished_concat, goesOn, Bool.or_false]
  · rw [isFinished_concat, goesOn, Bool.or_false]
    exact complete

namespace Books

/-- A file that takes records was made for a request, has not been finished, and has what was
written to it. -/
private theorem of_open (books : Books history s) {file : ResultsFile}
    (opened : s.open? number = some file) :
    ∃ request place held, (requests history)[number]? = some request ∧
      isFinished history number = false ∧ s.tree.target? request.path = some place ∧
      file = handle request place held ∧
      file.Holds s.tree (contentOf request.header (written history number)) := by
  have there : s.files[number]? = some (some file) := Option.join_eq_some_iff.mp opened
  have inside : number < (requests history).length := by
    rw [← books.numbered]
    exact (List.getElem?_eq_some_iff.mp there).1
  have made := List.getElem?_eq_getElem inside
  obtain ⟨place, held, target, holds, entry, -⟩ := books.keeps made
  rw [there] at entry
  cases going : isFinished history number with
  | true =>
      rw [going] at entry
      exact nomatch entry
  | false =>
      rw [going] at entry
      obtain rfl : file = handle _ place held := Option.some.inj (Option.some.inj entry)
      exact ⟨_, place, held, made, rfl, target, rfl, holds⟩

private theorem exists_open (books : Books history s)
    (made : (requests history)[number]? = some request)
    (going : isFinished history number = false) : ∃ file, s.open? number = some file := by
  obtain ⟨place, held, -, -, entry, -⟩ := books.keeps made
  rw [going] at entry
  exact ⟨_, Option.join_eq_some_iff.mpr entry⟩

/-- A file is kept when another one is written to, since the two have different places. -/
private theorem beside {event : Operation × Answer} {other : Nat} {file later : ResultsFile}
    {tree : FileTree} {bytes : List UInt8} {slot : Option ResultsFile} (books : Books history s)
    (opened : s.open? number = some file) (wrote : file.Wrote s.tree bytes later tree)
    (differ : other ≠ number) (found : (requests history)[other]? = some request)
    (noRecord : record? other event = none) (goesOn : ends other event = false) :
    Keeps (history ++ [event]) { s with tree, files := s.files.set number slot } other request := by
  obtain ⟨request', place, held, made, -, target, rfl, -⟩ := books.of_open opened
  refine (books.keeps found).aside wrote.base (fun {there _ _} elsewhere entry => ?_) ?_
    noRecord goesOn
  · have apart : there ≠ place := by
      rintro rfl
      exact differ (books.apart found made (elsewhere.trans target.symm))
    exact (wrote.aside apart).trans entry
  · exact List.getElem?_set_ne (Ne.symm differ)

/-- The books go on when no file is made, and only files that were made are touched. -/
private theorem going {event : Operation × Answer} (books : Books history s)
    (noRequest : request? event = none)
    (known : ∀ {number}, (requests history)[number]? = none →
      record? number event = none ∧ ends number event = false)
    (length : next.files.length = s.files.length) (base : next.tree.base = s.tree.base)
    (keeps : ∀ {number request}, (requests history)[number]? = some request →
      Keeps history s number request → Keeps (history ++ [event]) next number request) :
    Books (history ++ [event]) next := by
  have same : requests (history ++ [event]) = requests history := by
    rw [requests_concat, noRequest, Option.toList_none, List.append_nil]
  refine ⟨?_, ?_, ?_, ?_⟩
  · rw [length, same, books.numbered]
  · intro number none
    rw [same] at none
    obtain ⟨noRecords, going⟩ := books.untouched none
    obtain ⟨noRecord, goesOn⟩ := known none
    rw [written_concat, isFinished_concat, noRecords, going, noRecord, goesOn]
    exact ⟨rfl, rfl⟩
  · intro number request made
    rw [same] at made
    exact keeps made (books.keeps made)
  · intro first second early late made also targets
    rw [same] at made also
    rw [target?_congr base, target?_congr base] at targets
    exact books.apart made also targets

private theorem refused (books : Books history s) {error : StoreError} {tree : FileTree}
    (grown : Grown s.tree tree) :
    Books (history ++ [(.create request, .refused error)]) { s with tree } :=
  books.going rfl (fun _ => ⟨rfl, rfl⟩) rfl grown.base fun _ keeps =>
    keeps.aside grown.base (fun _ there => grown.file_iff.mpr there) rfl rfl rfl

private theorem made (books : Books history s) {directory : Place} {name : String}
    {made tree : FileTree} {file : ResultsFile}
    (leads : Leads s.tree request.path directory name made)
    (free : made.entryAt? (name :: directory) = none)
    (wrote : (handle request (name :: directory) []).Wrote
      (made.insert (name :: directory) (.file request.compressed {}))
      (contentOf request.header []) file tree) :
    Books (history ++ [(.create request, .done)])
      { s with tree, files := s.files ++ [some file] } := by
  have base : tree.base = s.tree.base := wrote.base.trans leads.grown.base
  -- A place where a file stands is another one than the new place.
  have apart {place compressed content}
      (there : s.tree.entryAt? place = some (.file compressed content)) :
      place ≠ name :: directory := by
    rintro rfl
    exact nomatch free.symm.trans (leads.grown.file_iff.mpr there)
  have elsewhere {number : Nat} {early : ResultsRequest}
      (found : (requests history)[number]? = some early) :
      s.tree.target? early.path ≠ s.tree.target? request.path := by
    obtain ⟨place, held, target, ⟨content, entry, -⟩, -⟩ := books.keeps found
    rw [target, leads.target?]
    exact fun same => apart entry (Option.some.inj same)
  refine ⟨?_, ?_, ?_, ?_⟩
  · rw [requests_concat, List.length_append, List.length_append, ← books.numbered]
    rfl
  · intro number none
    rw [requests_concat, List.getElem?_eq_none_iff, List.length_append] at none
    obtain ⟨noRecords, going⟩ :=
      books.untouched (List.getElem?_eq_none_iff.mpr ((Nat.le_add_right _ _).trans none))
    rw [written_concat, isFinished_concat, noRecords, going]
    exact ⟨rfl, rfl⟩
  · intro number late found
    rcases old_or_new found with old | ⟨rfl, rfl⟩
    · refine (books.keeps old).aside base (fun _ there => ?_) ?_ rfl rfl
      · have kept := wrote.aside (apart there)
        rw [kept, entryAt?_insert_of_ne (apart there)]
        exact leads.grown.file_iff.mpr there
      · exact List.getElem?_append_left
          (books.numbered ▸ (List.getElem?_eq_some_iff.mp old).1)
    · obtain ⟨noRecords, going⟩ := books.untouched (List.getElem?_eq_none (Nat.le_refl _))
      obtain ⟨held, rfl⟩ := wrote.same
      have empty : (handle late (name :: directory) []).Holds
          (made.insert (name :: directory) (.file late.compressed {})) [] :=
        ⟨{}, entryAt?_insert_self (List.cons_ne_nil name directory) _, rfl, rfl⟩
      refine ⟨_, held, (target?_congr base _).trans leads.target?, ?_, ?_, ?_⟩
      · rw [written_concat, noRecords]
        exact wrote.holds empty
      · rw [isFinished_concat, going, ← books.numbered]
        exact List.getElem?_concat_length
      · rw [isFinished_concat, going]
        exact nofun
  · intro first second early late found also targets
    rw [target?_congr base, target?_congr base] at targets
    rcases old_or_new found with old | ⟨rfl, rfl⟩ <;> rcases old_or_new also with older | ⟨rfl, rfl⟩
    · exact books.apart old older targets
    · exact absurd targets (elsewhere old)
    · exact absurd targets.symm (elsewhere older)
    · rfl

private theorem wrote (books : Books history s) {record : Record} {file later : ResultsFile}
    {tree : FileTree} (opened : s.open? number = some file)
    (wrote : file.Wrote s.tree (ByteSink.lineOf record.toJson ++ [ByteSink.newline]) later tree) :
    Books (history ++ [(.write number record, .done)])
      { s with tree, files := s.files.set number (some later) } := by
  obtain ⟨request, place, held, made, going, target, rfl, holds⟩ := books.of_open opened
  obtain ⟨left, rfl⟩ := wrote.same
  have only {other : Nat} (differ : other ≠ number) :
      record? other (.write number record, .done) = none := if_neg differ.symm
  refine books.going rfl ?_ List.length_set wrote.base fun {other} {request'} found keeps => ?_
  · intro other none
    refine ⟨only ?_, rfl⟩
    rintro rfl
    exact nomatch none.symm.trans made
  by_cases same : other = number
  · subst same
    obtain rfl := Option.some.inj (made.symm.trans found)
    obtain ⟨_, _, -, -, entry, -⟩ := keeps
    have goesOn : isFinished (history ++ [(.write other record, .done)]) other = false := by
      rw [isFinished_concat, going]
      rfl
    refine ⟨place, left, (target?_congr wrote.base _).trans target, ?_, ?_, ?_⟩
    · have this_one : record? other (.write other record, .done) = some record := if_pos rfl
      rw [written_concat, this_one, Option.toList_some, contentOf_concat]
      exact wrote.holds holds
    · rw [goesOn]
      exact List.getElem?_set_self (List.getElem?_eq_some_iff.mp entry).1
    · rw [goesOn]
      exact nofun
  · exact books.beside opened wrote same found (only same) rfl

private theorem finished (books : Books history s) {file : ResultsFile}
    (opened : s.open? number = some file) (path : String) (written : List UInt8) :
    Books (history ++ [(.finish number, .finished path written)])
      { s with tree := file.finish s.tree, files := s.files.set number none } := by
  obtain ⟨request, place, held, made, -, target, rfl, holds⟩ := books.of_open opened
  have passed := ResultsFile.wrote_pass (handle request place held) held.length s.tree
  have only {other : Nat} (differ : other ≠ number) :
      ends other (.finish number, .finished path written) = false :=
    beq_eq_false_iff_ne.mpr differ.symm
  refine books.going rfl ?_ List.length_set passed.base fun {other} {request'} found keeps => ?_
  · intro other none
    refine ⟨rfl, only ?_⟩
    rintro rfl
    exact nomatch none.symm.trans made
  by_cases same : other = number
  · subst same
    obtain rfl := Option.some.inj (made.symm.trans found)
    obtain ⟨_, _, -, -, entry, -⟩ := keeps
    refine ⟨place, [], (target?_congr passed.base _).trans target, ?_, ?_, fun _ => rfl⟩
    · have noRecord : record? other (.finish other, .finished path written) = none := rfl
      rw [written_concat, noRecord, Option.toList_none, List.append_nil]
      exact ResultsFile.holds_finish holds
    · have ended : ends other (.finish other, .finished path written) = true :=
        beq_self_eq_true other
      rw [isFinished_concat, ended, Bool.or_true, if_pos rfl]
      exact List.getElem?_set_self (List.getElem?_eq_some_iff.mp entry).1
  · exact books.beside opened passed same found rfl (only same)

private theorem unanswered (books : Books history s) (operation : Operation) :
    Books (history ++ [(operation, .noFile)]) s := by
  have nothing (number : Nat) : record? number (operation, .noFile) = none ∧
      ends number (operation, .noFile) = false := by
    cases operation <;> exact ⟨rfl, rfl⟩
  refine books.going ?_ (fun _ => nothing _) rfl rfl fun _ keeps =>
    keeps.aside rfl (fun _ there => there) rfl (nothing _).1 (nothing _).2
  cases operation <;> rfl

private theorem step {operation : Operation} {answer : Answer} (books : Books history s)
    (applied : Applied s operation answer next) :
    Books (history ++ [(operation, answer)]) next := by
  cases applied with
  | made leads free wrote => exact books.made leads free wrote
  | refused grown => exact books.refused grown
  | wrote opened wrote => exact books.wrote opened wrote
  | finished opened => exact books.finished opened _ _
  | unwritten | unfinished => exact books.unanswered _

/-- A store has its books whatever it has been asked. -/
theorem perform (tree : FileTree) (outflow : Outflow) (operations : List Operation) :
    Books (ResultsStore.perform { tree, outflow } operations).1
      (ResultsStore.perform { tree, outflow } operations).2 := by
  induction operations using List.reverseRecOn with
  | nil => exact .start tree outflow
  | append_singleton operations operation ih =>
      rw [perform_concat]
      exact ih.step (applied _ operation)

/-- The file with a number takes a record when it has been made and not finished. -/
theorem write_done_iff (books : Books history s) (record : Record) :
    (s.apply (.write number record)).1 = .done ↔
      (∃ request, (requests history)[number]? = some request) ∧
        isFinished history number = false := by
  constructor
  · intro done
    cases opened : s.open? number with
    | none =>
        simp only [apply, opened] at done
        exact nomatch done
    | some file =>
        obtain ⟨request, place, held, made, going, -⟩ := books.of_open opened
        exact ⟨⟨request, made⟩, going⟩
  · rintro ⟨⟨request, made⟩, going⟩
    obtain ⟨file, opened⟩ := books.exists_open made going
    simp only [apply, opened]

/-- The file with a number is finished, once, with its header and its records. -/
theorem finish_eq_finished_iff (books : Books history s) {path : String} {content : List UInt8} :
    (s.apply (.finish number)).1 = .finished path content ↔
      ∃ request, (requests history)[number]? = some request ∧ isFinished history number = false ∧
        path = request.path ∧ content = contentOf request.header (written history number) := by
  -- What a file that takes records is finished with.
  have answer {file} (opened : s.open? number = some file) :
      ∃ request, (requests history)[number]? = some request ∧
        isFinished history number = false ∧ (s.apply (.finish number)).1 =
          .finished request.path (contentOf request.header (written history number)) := by
    obtain ⟨request, place, held, made, going, -, rfl, holds⟩ := books.of_open opened
    refine ⟨request, made, going, ?_⟩
    have bytes := ResultsFile.bytes_stored (ResultsFile.holds_finish holds)
    simp only [apply, opened, bytes]
    rfl
  constructor
  · intro finished
    cases opened : s.open? number with
    | none =>
        simp only [apply, opened] at finished
        exact nomatch finished
    | some file =>
        obtain ⟨request, made, going, same⟩ := answer opened
        obtain ⟨rfl, rfl⟩ := Answer.finished.inj (same.symm.trans finished)
        exact ⟨request, made, going, rfl, rfl⟩
  · rintro ⟨request, made, going, rfl, rfl⟩
    obtain ⟨file, opened⟩ := books.exists_open made going
    obtain ⟨other, also, -, same⟩ := answer opened
    obtain rfl := Option.some.inj (made.symm.trans also)
    exact same

end Books

/-- A file is made exactly where its path leads and nothing stands. -/
theorem create_done_iff (s : ResultsStore) (request : ResultsRequest) :
    (s.apply (.create request)).1 = .done ↔
      ∃ directory name made, Leads s.tree request.path directory name made ∧
        made.entryAt? (name :: directory) = none := by
  constructor
  · intro done
    have applied := applied s (.create request)
    rw [done] at applied
    generalize (s.apply (.create request)).2 = next at applied
    cases applied with
    | made leads free _ => exact ⟨_, _, _, leads, free⟩
  · rintro ⟨directory, name, made, leads, free⟩
    obtain ⟨file, tree, answer, -⟩ := apply_create_of_leads leads free
    rw [answer]

/-- A file that is refused changes no file and closes none. -/
theorem kept_of_refused {error : StoreError}
    (refused : s.apply (.create request) = (.refused error, next)) :
    next.files = s.files ∧ ∀ place compressed content,
      next.tree.entryAt? place = some (.file compressed content) ↔
        s.tree.entryAt? place = some (.file compressed content) := by
  have applied := applied s (.create request)
  rw [refused] at applied
  cases applied with
  | refused grown => exact ⟨rfl, fun _ _ _ => grown.file_iff⟩

/-- **Results files keep apart.** Whatever a store has been asked that began without files, and
however much of what is written passes on at once: a file is made exactly when its path leads to
a name in a directory and nothing stands there, and otherwise no file is changed and none is
closed; records are taken for the files that were made and are not finished; and every file that
was made has its header and the records that were written to it in their order, compressed or
not, and is finished with these and nothing else, all of them in the file. Compression is seen in
the path's ending and in how the bytes are stored. -/
theorem files_keep_apart (tree : FileTree) (outflow : Outflow) (operations : List Operation) :
    ∃ history store, perform { tree, outflow } operations = (history, store) ∧
      (∀ request, (store.apply (.create request)).1 = .done ↔
        ∃ directory name made, Leads store.tree request.path directory name made ∧
          made.entryAt? (name :: directory) = none) ∧
      (∀ request error next, store.apply (.create request) = (.refused error, next) →
        next.files = store.files ∧ ∀ place compressed content,
          next.tree.entryAt? place = some (.file compressed content) ↔
            store.tree.entryAt? place = some (.file compressed content)) ∧
      (∀ number record, (store.apply (.write number record)).1 = .done ↔
        (∃ request, (requests history)[number]? = some request) ∧
          isFinished history number = false) ∧
      (∀ number request, (requests history)[number]? = some request →
        Keeps history store number request) ∧
      (∀ number path content, (store.apply (.finish number)).1 = .finished path content ↔
        ∃ request, (requests history)[number]? = some request ∧
          isFinished history number = false ∧ path = request.path ∧
          content = contentOf request.header (written history number)) ∧
      ∀ request : ResultsRequest, { request with compressed := true }.path =
        { request with compressed := false }.path ++ ".gz" := by
  have books := Books.perform tree outflow operations
  exact ⟨_, _, rfl, create_done_iff _, fun _ _ _ => kept_of_refused,
    fun _ => books.write_done_iff, fun _ _ => books.keeps,
    fun _ _ _ => books.finish_eq_finished_iff, fun request => ResultsPath.path_compressed ..⟩

end ResultsStore

end LinkGauge
