import LinkGauge.Json.Record

/-!
# Records are read back

A field is lawful when it reads back what it writes and when its default stands for what it
leaves out (`Field.Lawful`). A record whose fields are lawful and have different names is read
back from what is written for it (`Schema.read?_write`).
-/

namespace LinkGauge.Json

/-- Whether a value has no `null` in it, however deep. -/
inductive NullFree : Json → Prop where
  | bool (value : Bool) : NullFree (.bool value)
  | int (value : Int) : NullFree (.int value)
  | real : NullFree .real
  | string (text : Option String) : NullFree (.string text)
  | array {items : List Json} (each : ∀ item ∈ items, NullFree item) : NullFree (.array items)
  | object {members : Members} (each : ∀ member ∈ members, NullFree member.2) :
      NullFree (.object members)

namespace Field

variable {α : Type}

/-- A field reads back a value, whether it writes it or leaves it out. -/
structure Restores (field : Field α) (a : α) : Prop where
  written : ∀ {json}, field.write a = some json → field.read? json = some a
  omitted : field.write a = none → field.absent = some a

/-- A field reads back what it writes and what it leaves out. -/
structure Lawful (field : Field α) : Prop where
  written : ∀ {a json}, field.write a = some json → field.read? json = some a
  omitted : ∀ {a}, field.write a = none → field.absent = some a

/-- A lawful field restores every value. -/
theorem Lawful.restores {field : Field α} (lawful : field.Lawful) (a : α) : field.Restores a where
  written := lawful.written
  omitted := lawful.omitted

/-- A lawful field that leaves out what is absent and does not write `null` for it. -/
structure Explicit (field : Field α) : Prop extends Lawful field where
  present : ∀ {a json}, field.write a = some json → NullFree json

/-- A counter is read back as it was. -/
theorem counter?_ofCounter [Counter α] (a : α) : counter? (ofCounter a) = some a := by
  rw [ofCounter, counter?, if_pos ⟨Counter.least_le_toInt a, Counter.toInt_le_greatest a⟩,
    Counter.ofInt_toInt]

/-- A field for a counter is always written. -/
theorem explicit_counter [Counter α] (name : String) : (counter (α := α) name).Explicit where
  written {a json} written := by
    cases written
    exact counter?_ofCounter a
  omitted nothing := nomatch nothing
  present written := by
    cases written
    exact .int _

/-- A field for a text is always written. -/
theorem explicit_text (name : String) : (text name).Explicit where
  written written := by
    cases written
    rfl
  omitted nothing := nomatch nothing
  present written := by
    cases written
    exact .string _

/-- An optional field is read back when its values are, none of which is written as `null`. -/
theorem explicit_optional {name : String} {read? : Json → Option α} {write : α → Json}
    (back : ∀ a, read? (write a) = some a) (present : ∀ a, NullFree (write a)) :
    (optional name read? write).Explicit where
  written {a json} written := by
    obtain ⟨value, rfl, rfl⟩ := Option.map_eq_some_iff.mp written
    have free := present value
    change optional? read? (write value) = _
    unfold optional?
    split
    · next isNull =>
        rw [isNull] at free
        cases free
    · rw [back, Option.map_some]
  omitted {a} nothing := by
    rw [Option.map_eq_none_iff.mp nothing]
    rfl
  present {a json} written := by
    obtain ⟨value, _, rfl⟩ := Option.map_eq_some_iff.mp written
    exact present value

end Field

namespace Schema

/-- The names of the members. -/
def names : {types : List Type} → Schema types → List String
  | _, .nil => []
  | _, .cons field fields => field.name :: fields.names

/-- Whether every field of a schema has a property. -/
def All (P : {α : Type} → Field α → Prop) : {types : List Type} → Schema types → Prop
  | _, .nil => True
  | _, .cons field fields => P field ∧ fields.All P

/-- What every field of a schema has, it has in any weaker form. -/
theorem All.imp {P Q : {α : Type} → Field α → Prop}
    (weaker : ∀ {α : Type} {field : Field α}, P field → Q field) {types : List Type}
    {schema : Schema types} (holds : schema.All P) : schema.All Q := by
  induction schema with
  | nil => trivial
  | cons field fields ih => exact ⟨weaker holds.1, ih holds.2⟩

private theorem key_of_mem_members :
    ∀ {types : List Type} (schema : Schema types) (row : Row types),
    ∀ member ∈ schema.members row, ∃ name ∈ schema.names, member.1 = some name
  | _, .nil, _, _, found => nomatch found
  | _, .cons field fields, (value, rest), member, found => by
      have later : member ∈ fields.members rest →
          ∃ name ∈ names (.cons field fields), member.1 = some name := by
        intro found
        obtain ⟨name, known, same⟩ := fields.key_of_mem_members rest member found
        exact ⟨name, List.mem_cons_of_mem _ known, same⟩
      rw [members] at found
      split at found
      · rcases List.mem_cons.mp found with rfl | found
        · exact ⟨field.name, List.mem_cons_self, rfl⟩
        · exact later found
      · exact later found

/-- The names of the members that are written for a record. -/
def written : {types : List Type} → Schema types → Row types → List String
  | _, .nil, () => []
  | _, .cons field fields, (value, rest) =>
    if (field.write value).isSome then field.name :: fields.written rest else fields.written rest

/-- The keys of the members are the names of the fields that are written. -/
theorem keys_members : ∀ {types : List Type} (schema : Schema types) (row : Row types),
    (schema.members row).map (·.1) = (schema.written row).map some
  | _, .nil, () => rfl
  | _, .cons field fields, (value, rest) => by
      have later := fields.keys_members rest
      rw [members, written]
      cases field.write value with
      | none => exact later
      | some json => exact congrArg (some field.name :: ·) later

private theorem named_members_of_notMem {types : List Type} (schema : Schema types)
    (row : Row types) {name : String} (unknown : name ∉ schema.names) :
    Members.named (schema.members row) name = [] := by
  rw [Members.named, List.map_eq_nil_iff, List.filter_eq_nil_iff]
  intro member found same
  obtain ⟨known, listed, key⟩ := schema.key_of_mem_members row member found
  rw [key, beq_iff_eq] at same
  exact unknown (Option.some.inj same ▸ listed)

private theorem named_cons (key : String) (value : Json) (members : Members) (name : String) :
    Members.named ((some key, value) :: members) name =
      if key = name then value :: members.named name else members.named name := by
  by_cases same : key = name
  · subst same
    simp only [Members.named, List.filter_cons, beq_self_eq_true, List.map_cons, ↓reduceIte]
  · have other : (some key == some name) = false := by simpa using same
    simp only [Members.named, List.filter_cons, other, same, Bool.false_eq_true, ↓reduceIte]

section Named

variable {α : Type} {types : List Type} {field : Field α} {fields : Schema types}

/-- Under the name of a field stands what is written for it. -/
theorem named_members_self (new : field.name ∉ fields.names) (value : α) (rest : Row types) :
    Members.named (members (.cons field fields) (value, rest)) field.name =
      (field.write value).toList := by
  have nothing := fields.named_members_of_notMem rest new
  rw [members]
  cases field.write value with
  | none => exact nothing
  | some json => exact (named_cons _ _ _ _).trans (by rw [if_pos rfl, nothing]; rfl)

/-- A field has no member under the name of another one. -/
theorem named_members_of_ne {name : String} (other : field.name ≠ name) (value : α)
    (rest : Row types) :
    Members.named (members (.cons field fields) (value, rest)) name =
      Members.named (fields.members rest) name := by
  rw [members]
  cases field.write value with
  | none => rfl
  | some json => exact (named_cons _ _ _ _).trans (if_neg other)

end Named

/-- Whether every field of a schema reads back its value in a record. -/
def Restores : {types : List Type} → Schema types → Row types → Prop
  | _, .nil, () => True
  | _, .cons field fields, (value, rest) => field.Restores value ∧ fields.Restores rest

private theorem restores_of_lawful : ∀ {types : List Type} {schema : Schema types},
    schema.All Field.Lawful → ∀ row : Row types, schema.Restores row
  | _, .nil, _, () => trivial
  | _, .cons _ _, lawful, (value, rest) =>
      ⟨lawful.1.restores value, restores_of_lawful lawful.2 rest⟩

/-- A record is read from any members that have the same values under its names. -/
theorem readMembers?_of_named {all : Members} : ∀ {types : List Type} {schema : Schema types},
    schema.names.Nodup → ∀ {row : Row types}, schema.Restores row →
    (∀ name ∈ schema.names, all.named name = Members.named (schema.members row) name) →
    schema.readMembers? all = some row
  | _, .nil, _, (), _, _ => rfl
  | _, .cons field fields, distinct, (value, rest), restores, same => by
      obtain ⟨new, distinct⟩ := List.nodup_cons.mp distinct
      have own := (same field.name List.mem_cons_self).trans (named_members_self new value rest)
      have later : fields.readMembers? all = some rest := by
        refine readMembers?_of_named distinct restores.2 fun name known => ?_
        have other : field.name ≠ name := fun equal => new (equal ▸ known)
        rw [same name (List.mem_cons_of_mem _ known), named_members_of_ne other]
      rw [readMembers?, later, own]
      cases written : field.write value with
      | none =>
          simp only [Option.toList_none, restores.1.omitted written]
          rfl
      | some json =>
          simp only [Option.toList_some, restores.1.written written]
          rfl

private theorem keyed_members {types : List Type} (schema : Schema types) (row : Row types) :
    (schema.members row).all (·.1.isSome) = true := by
  refine List.all_eq_true.mpr fun member found => ?_
  obtain ⟨name, _, key⟩ := schema.key_of_mem_members row member found
  rw [key]
  rfl

/-- A record whose values are all read back is read back itself. -/
theorem read?_write_of_restores {types : List Type} {schema : Schema types}
    (distinct : schema.names.Nodup) {row : Row types} (restores : schema.Restores row) :
    schema.read? (schema.write row) = some row := by
  rw [write, read?, if_pos (schema.keyed_members row)]
  exact readMembers?_of_named distinct restores fun _ _ => rfl

/-- A record is read back from what is written for it. -/
theorem read?_write {types : List Type} {schema : Schema types} (lawful : schema.All Field.Lawful)
    (distinct : schema.names.Nodup) (row : Row types) :
    schema.read? (schema.write row) = some row :=
  read?_write_of_restores distinct (restores_of_lawful lawful row)

/-- A value that is made of a record is made again of what is read back. -/
theorem map_read?_write {α : Type} {types : List Type} {schema : Schema types} (f : Row types → α)
    (explicit : schema.All Field.Explicit) (distinct : schema.names.Nodup) (row : Row types) :
    (schema.read? (schema.write row)).map f = some (f row) := by
  rw [read?_write (explicit.imp (·.toLawful)) distinct, Option.map_some]

/-- What is written for explicit fields has no `null` in it. -/
theorem nullFree_write {types : List Type} {schema : Schema types}
    (explicit : schema.All Field.Explicit) (row : Row types) : NullFree (schema.write row) := by
  refine .object ?_
  induction schema with
  | nil => exact fun _ found => nomatch found
  | cons field fields ih =>
      obtain ⟨value, rest⟩ := row
      rw [members]
      split
      · next json written =>
          intro member found
          rcases List.mem_cons.mp found with rfl | found
          · exact explicit.1.present written
          · exact ih explicit.2 rest member found
      · exact ih explicit.2 rest

end Schema

/-!
## The order of members does not matter

A record takes from an object what stands under the names of its fields. So neither the order of
the members matters (`Schema.readMembers?_perm`) nor a member under another name
(`Schema.readMembers?_insert`), and a value can be replaced by one that is read alike
(`Schema.readMembers?_replace`). One field that takes nothing is enough to refuse an object
(`Schema.readMembers?_eq_none`).
-/

namespace Members

variable {members permuted : Members} {key name : String} {value other : Json}

private theorem named_append (before after : Members) (name : String) :
    Members.named (before ++ after) name = before.named name ++ after.named name := by
  rw [named, List.filter_append, List.map_append]
  rfl

private theorem named_perm (perm : members.Perm permuted) (name : String) :
    (members.named name).Perm (permuted.named name) :=
  (perm.filter _).map _

private theorem length_named (members : Members) (name : String) :
    (members.named name).length = members.countP (·.1 == some name) := by
  rw [named, List.length_map, List.countP_eq_length_filter]

end Members

namespace Field

variable {α : Type} (field : Field α) {values permuted : List Json}

/-- What a field takes from the values under its name. -/
def take? : List Json → Option α
  | [] => field.absent
  | [value] => field.read? value
  | _ => none

private theorem take?_perm (perm : values.Perm permuted) :
    field.take? values = field.take? permuted := by
  match values, permuted, perm.length_eq with
  | [], [], _ => rfl
  | [value], [other], _ => rw [List.perm_singleton.mp perm]
  | _ :: _ :: _, _ :: _ :: _, _ => rfl

private theorem take?_replace {value other : Json} (alike : field.read? value = field.read? other)
    (before after : List Json) :
    field.take? (before ++ value :: after) = field.take? (before ++ other :: after) := by
  match before, after with
  | [], [] => exact alike
  | [], _ :: _ | [_], _ | _ :: _ :: _, _ => rfl

private theorem take?_eq_none_of_refused {value : Json} (refused : field.read? value = none)
    (found : value ∈ values) : field.take? values = none := by
  match values with
  | [_] =>
      obtain rfl := List.eq_of_mem_singleton found
      exact refused
  | _ :: _ :: _ => rfl

private theorem take?_eq_none_of_twice (twice : 2 ≤ values.length) : field.take? values = none := by
  match values, twice with
  | _ :: _ :: _, _ => rfl

end Field

namespace Schema

variable {types : List Type} {schema : Schema types} {members other : Members}

private theorem readMembers?_cons {α : Type} (field : Field α) (fields : Schema types)
    (members : Members) :
    readMembers? members (.cons field fields) = do
      return (← field.take? (members.named field.name), ← fields.readMembers? members) := by
  rw [readMembers?]
  rcases members.named field.name with _ | ⟨value, _ | _⟩ <;> rfl

/-- What holds of every field with a name of the schema holds of all its fields. -/
private theorem all_of_forall {P : {α : Type} → Field α → Prop}
    (holds : ∀ {α : Type} (field : Field α), field.name ∈ schema.names → P field) :
    schema.All P := by
  induction schema with
  | nil => trivial
  | cons field fields ih =>
      exact ⟨holds field List.mem_cons_self,
        ih fun other known => holds other (List.mem_cons_of_mem _ known)⟩

/-- Objects are read alike when every field takes the same from them. -/
theorem readMembers?_congr
    (same : schema.All fun field =>
      field.take? (members.named field.name) = field.take? (other.named field.name)) :
    schema.readMembers? members = schema.readMembers? other := by
  induction schema with
  | nil => rfl
  | cons field fields ih => rw [readMembers?_cons, readMembers?_cons, same.1, ih same.2]

/-- The order of the members does not matter. -/
theorem readMembers?_perm (perm : members.Perm other) :
    schema.readMembers? members = schema.readMembers? other :=
  readMembers?_congr (all_of_forall fun field _ => field.take?_perm (Members.named_perm perm _))

/-- A member under an unknown name does not matter. -/
theorem readMembers?_insert {key : String} (unknown : key ∉ schema.names) (value : Json)
    (before after : Members) :
    schema.readMembers? (before ++ (some key, value) :: after) =
      schema.readMembers? (before ++ after) := by
  refine readMembers?_congr (all_of_forall fun field known => ?_)
  have other : key ≠ field.name := fun same => unknown (same ▸ known)
  rw [Members.named_append, Members.named_append, named_cons, if_neg other]

/-- A value can be replaced by one that is read alike. -/
theorem readMembers?_replace {key : String} {value instead : Json}
    (alike : schema.All fun field =>
      field.name = key → field.read? value = field.read? instead) (before after : Members) :
    schema.readMembers? (before ++ (some key, value) :: after) =
      schema.readMembers? (before ++ (some key, instead) :: after) := by
  refine readMembers?_congr (alike.imp fun {α field} alike => ?_)
  rw [Members.named_append, Members.named_append, named_cons, named_cons]
  by_cases same : key = field.name
  · rw [if_pos same, if_pos same]
    exact field.take?_replace (alike same.symm) _ _
  · rw [if_neg same, if_neg same]

/-- A field that takes nothing makes the whole be refused. -/
theorem readMembers?_eq_none {key : String} (known : key ∈ schema.names)
    (refuses : schema.All fun field =>
      field.name = key → field.take? (members.named key) = none) :
    schema.readMembers? members = none := by
  induction schema with
  | nil => exact nomatch known
  | cons field fields ih =>
      rw [readMembers?_cons]
      rcases List.mem_cons.mp known with rfl | later
      · rw [refuses.1 rfl]
        rfl
      · rw [ih later refuses.2]
        cases field.take? (members.named field.name) <;> rfl

/-- An object is read as a record whatever the order of its members. -/
theorem read?_perm (perm : members.Perm other) :
    schema.read? (.object members) = schema.read? (.object other) := by
  rw [read?, read?, perm.all_eq, readMembers?_perm perm]

/-- An object is read as a record whatever stands in it under an unknown name. -/
theorem read?_insert {key : String} (unknown : key ∉ schema.names) (value : Json)
    (before after : Members) :
    schema.read? (.object (before ++ (some key, value) :: after)) =
      schema.read? (.object (before ++ after)) := by
  rw [read?, read?, readMembers?_insert unknown, List.all_append, List.all_append, List.all_cons,
    Option.isSome_some, Bool.true_and]

/-- An object is read as the same record when a value is replaced by one that is read alike. -/
theorem read?_replace {key : String} {value instead : Json}
    (alike : schema.All fun field =>
      field.name = key → field.read? value = field.read? instead) (before after : Members) :
    schema.read? (.object (before ++ (some key, value) :: after)) =
      schema.read? (.object (before ++ (some key, instead) :: after)) := by
  rw [read?, read?, readMembers?_replace alike, List.all_append, List.all_append, List.all_cons,
    List.all_cons]

/-- A record is read from its members in any order, with others between them. -/
theorem read?_mixed (lawful : schema.All Field.Lawful) (distinct : schema.names.Nodup)
    (row : Row types) {extra : Members}
    (unknown : ∀ member ∈ extra, ∃ name, member.1 = some name ∧ name ∉ schema.names)
    (mixed : members.Perm (schema.members row ++ extra)) :
    schema.read? (.object members) = some row := by
  have keyed : (schema.members row ++ extra).all (·.1.isSome) = true := by
    rw [List.all_append, schema.keyed_members row, Bool.true_and, List.all_eq_true]
    intro member found
    obtain ⟨name, key, -⟩ := unknown member found
    rw [key]
    rfl
  have nothing {name : String} (known : name ∈ schema.names) : extra.named name = [] := by
    rw [Members.named, List.map_eq_nil_iff, List.filter_eq_nil_iff]
    intro member found same
    obtain ⟨other, key, new⟩ := unknown member found
    rw [key, beq_iff_eq] at same
    exact new (Option.some.inj same ▸ known)
  rw [read?_perm mixed, read?, if_pos keyed]
  refine readMembers?_of_named distinct (restores_of_lawful lawful row) fun name known => ?_
  rw [Members.named_append, nothing known, List.append_nil]

/-- An object is refused when a field refuses the value under its name. -/
theorem read?_eq_none_of_refused {key : String} (known : key ∈ schema.names) {value : Json}
    (refuses : schema.All fun field => field.name = key → field.read? value = none)
    (found : (some key, value) ∈ members) : schema.read? (.object members) = none := by
  have under : value ∈ members.named key :=
    List.mem_map.mpr ⟨_, List.mem_filter.mpr ⟨found, beq_self_eq_true _⟩, rfl⟩
  have refused : schema.readMembers? members = none := by
    refine readMembers?_eq_none known (refuses.imp fun {α field} refuses same => ?_)
    exact field.take?_eq_none_of_refused (refuses same) under
  rw [read?, refused, ite_self]

/-- An object is refused when a known name stands in it twice. -/
theorem read?_eq_none_of_twice {key : String} (known : key ∈ schema.names)
    (twice : 2 ≤ members.countP (·.1 == some key)) : schema.read? (.object members) = none := by
  have refused : schema.readMembers? members = none :=
    readMembers?_eq_none known (all_of_forall fun field _ _ =>
      field.take?_eq_none_of_twice (members.length_named key ▸ twice))
  rw [read?, refused, ite_self]

/-- An object is refused when a key is no text. -/
theorem read?_eq_none_of_unkeyed {value : Json} (found : (none, value) ∈ members) :
    schema.read? (.object members) = none := by
  have unkeyed : members.all (·.1.isSome) ≠ true := fun keyed =>
    nomatch List.all_eq_true.mp keyed _ found
  rw [read?, if_neg unkeyed]

end Schema

end LinkGauge.Json
