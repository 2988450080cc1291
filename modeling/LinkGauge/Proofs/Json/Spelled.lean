import LinkGauge.Proofs.Json.Reading
import LinkGauge.Proofs.Json.Scanned

/-!
# A text that is read spells its value

The containers that a reader holds open tell the tokens that it has taken (`Reader.before`), so
the tokens that complete a value are those of the value. A text is therefore read as a value
exactly when it spells it (`Json.ofText?_eq_some_iff`), whatever blanks and escapes it has.
-/

namespace LinkGauge.Json

/-- The items of an array, with a comma behind each. -/
def itemsAndCommas (items : List Json) : List Token :=
  items.flatMap fun item => spelling item ++ [.comma]

/-- The members of an object, with a comma behind each. -/
def membersAndCommas (members : Members) : List Token :=
  members.flatMap fun (key, value) =>
    .scalar (.string key) :: .colon :: spelling value ++ [.comma]

private theorem itemsAndCommas_eq : ∀ {items : List Json}, items ≠ [] →
    itemsAndCommas items = itemSpelling items ++ [.comma]
  | [], some_part => absurd rfl some_part
  | [item], _ => List.append_nil _
  | item :: second :: rest, _ => by
      have later := itemsAndCommas_eq (List.cons_ne_nil second rest)
      have spelled : itemSpelling (item :: second :: rest) =
          spelling item ++ .comma :: itemSpelling (second :: rest) := rfl
      rw [itemsAndCommas, List.flatMap_cons, ← itemsAndCommas, later, spelled]
      simp only [List.append_assoc, List.cons_append, List.nil_append]

private theorem membersAndCommas_eq : ∀ {members : Members}, members ≠ [] →
    membersAndCommas members = memberSpelling members ++ [.comma]
  | [], some_part => absurd rfl some_part
  | [(key, value)], _ => List.append_nil _
  | (key, value) :: second :: rest, _ => by
      have later := membersAndCommas_eq (List.cons_ne_nil second rest)
      have spelled : memberSpelling ((key, value) :: second :: rest) =
          .scalar (.string key) :: .colon :: spelling value ++
            .comma :: memberSpelling (second :: rest) := rfl
      rw [membersAndCommas, List.flatMap_cons, ← membersAndCommas, later, spelled]
      simp only [List.append_assoc, List.cons_append, List.nil_append]

private theorem spelling_of_isScalar {value : Json} (scalar : value.isScalar) :
    spelling value = [.scalar value] := by
  cases value <;> first | rfl | exact nomatch scalar

namespace Reader

/-- The tokens in front of the next part of the innermost container that is open. -/
def before : List Container → List Token
  | [] => []
  | .array items :: outer => before outer ++ .beginArray :: itemsAndCommas items.reverse
  | .object members :: outer => before outer ++ .beginObject :: membersAndCommas members.reverse
  | .member members key :: outer =>
    before outer ++ .beginObject ::
      (membersAndCommas members.reverse ++ [.scalar (.string key), .colon])

/-- Whether a reader is in a state because it has taken some tokens. -/
inductive Taken : Reader → List Token → Prop where
  | part {expecting : Expecting} {opened : List Container}
      (begins : expecting = .value ∨ expecting = .key) :
      Taken ⟨expecting, opened, none⟩ (before opened)
  | firstItem {outer : List Container} :
      Taken ⟨.item, .array [] :: outer, none⟩ (before (.array [] :: outer))
  | firstKey {outer : List Container} :
      Taken ⟨.firstKey, .object [] :: outer, none⟩ (before (.object [] :: outer))
  | colon {opened : List Container} {ts : List Token} (same : ts ++ [.colon] = before opened) :
      Taken ⟨.colon, opened, none⟩ ts
  | more {opened : List Container} {ts : List Token} (same : ts ++ [.comma] = before opened) :
      Taken ⟨.more, opened, none⟩ ts
  | whole {value : Json} : Taken ⟨.more, [], some value⟩ (spelling value)

variable {r next : Reader} {opened outer : List Container} {ts : List Token} {token : Token}
  {value : Json}

private theorem taken_complete (completed : complete value opened = some r) :
    Taken r (before opened ++ spelling value) := by
  match opened with
  | [] =>
      cases completed
      exact .whole
  | .array items :: outer =>
      cases completed
      refine .more ?_
      simp only [before, itemsAndCommas, List.reverse_cons, List.flatMap_append, List.flatMap_cons,
        List.flatMap_nil, List.append_assoc, List.cons_append, List.append_nil]
  | .member members key :: outer =>
      cases completed
      refine .more ?_
      simp only [before, membersAndCommas, List.reverse_cons, List.flatMap_append,
        List.flatMap_cons, List.flatMap_nil, List.append_assoc, List.cons_append, List.append_nil,
        List.nil_append]
  | .object _ :: _ => exact nomatch completed

private theorem taken_stepValue (plain : token.Plain) (step : stepValue opened token = some r) :
    Taken r (before opened ++ [token]) := by
  cases token with
  | scalar value =>
      rw [← spelling_of_isScalar plain]
      exact taken_complete step
  | beginArray =>
      cases step
      exact .firstItem
  | beginObject =>
      cases step
      exact .firstKey
  | _ => exact nomatch step

private theorem taken_stepKey (step : stepKey opened token = some r) :
    Taken r (before opened ++ [token]) := by
  unfold stepKey at step
  split at step
  · cases step
    refine .colon ?_
    simp only [before, List.append_assoc, List.cons_append, List.nil_append]
  · exact nomatch step

private theorem last_eq {front : List Token} {last : Token}
    (same : ts ++ [token] = front ++ [last]) : token = last :=
  List.singleton_inj.mp (List.append_inj_right' same rfl)

private theorem end_array {items : List Json}
    (same : ts ++ [.comma] = before (.array items :: outer)) :
    ts ++ [.endArray] = before outer ++ spelling (.array items.reverse) := by
  have some_item : items.reverse ≠ [] := by
    intro none
    rw [before, none] at same
    exact nomatch last_eq same
  rw [before, itemsAndCommas_eq some_item, ← List.cons_append, ← List.append_assoc] at same
  rw [List.append_cancel_right same, spelling, List.append_assoc, List.cons_append]

private theorem end_object {members : Members}
    (same : ts ++ [.comma] = before (.object members :: outer)) :
    ts ++ [.endObject] = before outer ++ spelling (.object members.reverse) := by
  have some_member : members.reverse ≠ [] := by
    intro none
    rw [before, none] at same
    exact nomatch last_eq same
  rw [before, membersAndCommas_eq some_member, ← List.cons_append, ← List.append_assoc] at same
  rw [List.append_cancel_right same, spelling, List.append_assoc, List.cons_append]

private theorem Taken.step (taken : Taken r ts) (plain : token.Plain)
    (step : r.step token = some next) : Taken next (ts ++ [token]) := by
  cases taken with
  | part begins =>
      rcases begins with rfl | rfl
      · exact taken_stepValue plain step
      · exact taken_stepKey step
  | @firstItem outer =>
      cases token with
      | endArray =>
          have ends : before (.array [] :: outer) ++ [.endArray] =
              before outer ++ spelling (.array []) := List.append_assoc ..
          rw [ends]
          exact taken_complete step
      | _ => exact taken_stepValue plain step
  | @firstKey outer =>
      cases token with
      | endObject =>
          have ends : before (.object [] :: outer) ++ [.endObject] =
              before outer ++ spelling (.object []) := List.append_assoc ..
          rw [ends]
          exact taken_complete step
      | _ => exact taken_stepKey step
  | colon same =>
      simp only [Reader.step] at step
      split at step
      · cases step
        rw [same]
        exact .part (.inl rfl)
      · exact nomatch step
  | more same =>
      simp only [Reader.step] at step
      split at step
      · cases step
        rw [same]
        exact .part (.inl rfl)
      · cases step
        rw [same]
        exact .part (.inr rfl)
      · rw [end_array same]
        exact taken_complete step
      · rw [end_object same]
        exact taken_complete step
      · exact nomatch step
  | whole => cases token <;> exact nomatch step

private theorem Taken.takes {taken : List Token} (so_far : Taken r taken)
    (plain : ∀ token ∈ ts, token.Plain) (takes : r.takes ts = some next) :
    Taken next (taken ++ ts) := by
  induction ts generalizing r taken with
  | nil =>
      cases takes
      rwa [List.append_nil]
  | cons token ts ih =>
      obtain ⟨_, step, takes⟩ := Option.bind_eq_some_iff.mp (takes_cons r token ts ▸ takes)
      have one_more := so_far.step (plain token List.mem_cons_self) step
      rw [List.append_cons]
      exact ih one_more (fun token later => plain token (List.mem_cons_of_mem _ later)) takes

end Reader

/-- Tokens that complete a value are the tokens of the value. -/
theorem eq_spelling_of_ofTokens? {ts : List Token} (plain : ∀ token ∈ ts, token.Plain)
    {value : Json} (read : ofTokens? ts = some value) : ts = spelling value := by
  obtain ⟨r, takes, result⟩ := Option.bind_eq_some_iff.mp read
  have taken := Reader.Taken.takes (.part (.inl rfl)) plain takes
  rw [Reader.before, List.nil_append] at taken
  cases taken with
  | whole =>
      cases result
      rfl
  | _ => exact nomatch result

/-- A text is read as a value exactly when it spells the value. -/
theorem ofText?_eq_some_iff {text : String} {value : Json} :
    ofText? text = some value ↔ Scanner.Spells text.toList (spelling value) := by
  have scanned {ts : List Token} :
      scan? (Text.glyphsOf text) = some ts ↔ Scanner.Spells text.toList ts := by
    rw [Scanner.spells_iff, Scanner.Emits, scan?, Text.glyphsOf, List.foldlM_map]
    exact Option.bind_eq_some_iff
  constructor
  · intro read
    obtain ⟨ts, scan, read⟩ := Option.bind_eq_some_iff.mp read
    have spells := scanned.mp scan
    rwa [eq_spelling_of_ofTokens? spells.plain read] at spells
  · intro spells
    exact Option.bind_eq_some_iff.mpr ⟨_, scanned.mpr spells, ofTokens?_spelling value⟩

/-!
## Texts of objects

The text of an object is made of the texts of its members: any text that is read as a string for
a key, any text that is read as a value behind it, and blanks. A text made in this way is read as
the object of these members (`Json.ofText?_objectText`), and every text that is read as an object
is made in this way (`Json.exists_objectText`).
-/

open Scanner

/-- A member of an object as it stands in a text. Blanks belong to the texts of its key and of its
value. -/
structure MemberText where
  key : String
  value : String
  /-- The name that the key spells. -/
  name : Option String
  /-- The value that is spelled behind the key. -/
  content : Json
  key_reads : ofText? key = some (.string name)
  value_reads : ofText? value = some content

namespace MemberText

/-- The member that a text spells. -/
def member (m : MemberText) : Option String × Json := (m.name, m.content)

/-- The characters of a member. -/
def chars (m : MemberText) : List Char := m.key.toList ++ ':' :: m.value.toList

/-- The characters of members, divided by commas. -/
def joined : List MemberText → List Char
  | [] => []
  | [m] => m.chars
  | m :: rest => m.chars ++ ',' :: joined rest

private theorem spells_member_iff {cs : List Char} {key : Option String} {value : Json} :
    Spells cs (.scalar (.string key) :: .colon :: spelling value) ↔
      ∃ first second, cs = first ++ ':' :: second ∧
        Spells first [.scalar (.string key)] ∧ Spells second (spelling value) :=
  Spells.mark_iff [.scalar (.string key)] rfl

private theorem spells_chars (m : MemberText) :
    Spells m.chars (.scalar (.string m.name) :: .colon :: spelling m.content) :=
  spells_member_iff.mpr
    ⟨_, _, rfl, ofText?_eq_some_iff.mp m.key_reads, ofText?_eq_some_iff.mp m.value_reads⟩

private theorem spells_joined : ∀ members : List MemberText,
    Spells (joined members) (memberSpelling (members.map member))
  | [] => .nil
  | [m] => m.spells_chars
  | m :: second :: rest => m.spells_chars.comma (spells_joined (second :: rest))

private theorem exists_chars {cs : List Char} {key : Option String} {value : Json}
    (spells : Spells cs (.scalar (.string key) :: .colon :: spelling value)) :
    ∃ m : MemberText, cs = m.chars ∧ m.member = (key, value) := by
  obtain ⟨first, second, rfl, keySpells, valueSpells⟩ := spells_member_iff.mp spells
  refine ⟨⟨String.ofList first, String.ofList second, key, value, ?_, ?_⟩, ?_, rfl⟩
  · exact ofText?_eq_some_iff.mpr (by rwa [String.toList_ofList])
  · exact ofText?_eq_some_iff.mpr (by rwa [String.toList_ofList])
  · simp only [chars, String.toList_ofList]

private theorem exists_joined : ∀ {members : Members} {cs : List Char}, members ≠ [] →
    Spells cs (memberSpelling members) →
      ∃ texts : List MemberText, cs = joined texts ∧ texts.map member = members
  | [], _, some_member, _ => absurd rfl some_member
  | [(key, value)], cs, _, spells => by
      obtain ⟨m, rfl, same⟩ := exists_chars spells
      exact ⟨[m], rfl, congrArg ([·]) same⟩
  | (key, value) :: second :: rest, cs, _, spells => by
      obtain ⟨first, behind, rfl, early, late⟩ := (Spells.mark_iff _ rfl).mp spells
      obtain ⟨m, rfl, same⟩ := exists_chars early
      obtain ⟨texts, rfl, others⟩ := exists_joined (List.cons_ne_nil second rest) late
      cases texts with
      | nil => exact nomatch others
      | cons next texts => exact ⟨m :: next :: texts, rfl, congrArg₂ List.cons same others⟩

end MemberText

/-- The blanks of an object: in front of its first brace, behind it, and behind its last one. -/
structure Braces where
  lead : String := ""
  gap : String := ""
  trail : String := ""
  blank_lead : lead.toList.all isBlank := by rfl
  blank_gap : gap.toList.all isBlank := by rfl
  blank_trail : trail.toList.all isBlank := by rfl

/-- The text of an object. -/
def objectText (braces : Braces) (members : List MemberText) : String :=
  String.ofList (braces.lead.toList ++ '\x7b' :: (braces.gap.toList ++ MemberText.joined members ++
    '\x7d' :: braces.trail.toList))

/-- An object is spelled between its braces. -/
theorem spells_object_iff {cs : List Char} {members : Members} :
    Spells cs (spelling (.object members)) ↔
      ∃ lead inside trail, cs = lead ++ '\x7b' :: (inside ++ '\x7d' :: trail) ∧
        lead.all isBlank ∧ trail.all isBlank ∧ Spells inside (memberSpelling members) := by
  have opened : Spells cs (spelling (.object members)) ↔
      ∃ lead rest, cs = lead ++ '\x7b' :: rest ∧ Spells lead [] ∧
        Spells rest (memberSpelling members ++ [.endObject]) := Spells.mark_iff [] rfl
  have closed {rest : List Char} : Spells rest (memberSpelling members ++ [.endObject]) ↔
      ∃ inside trail, rest = inside ++ '\x7d' :: trail ∧ Spells inside (memberSpelling members) ∧
        Spells trail [] := Spells.mark_iff _ rfl
  rw [opened]
  constructor
  · rintro ⟨lead, rest, rfl, before, behind⟩
    obtain ⟨inside, trail, rfl, spells, after⟩ := closed.mp behind
    exact ⟨lead, inside, trail, rfl, Spells.nil_iff.mp before, Spells.nil_iff.mp after, spells⟩
  · rintro ⟨lead, inside, trail, rfl, before, after, spells⟩
    exact ⟨lead, _, rfl, Spells.nil_iff.mpr before,
      closed.mpr ⟨inside, trail, rfl, spells, Spells.nil_iff.mpr after⟩⟩

/-- The text of an object is read as the object of its members. -/
theorem ofText?_objectText (braces : Braces) (members : List MemberText) :
    ofText? (objectText braces members) = some (.object (members.map (·.member))) := by
  rw [ofText?_eq_some_iff, objectText, String.toList_ofList, spells_object_iff]
  have inside := (MemberText.spells_joined members).behind_blank braces.blank_gap
  exact ⟨_, _, _, rfl, braces.blank_lead, braces.blank_trail, inside⟩

/-- The member whose value is the text of an object. -/
def MemberText.ofObject (key name : String) (reads : ofText? key = some (.string (some name)))
    (braces : Braces) (members : List MemberText) : MemberText where
  key
  value := objectText braces members
  name := some name
  content := .object (members.map (·.member))
  key_reads := reads
  value_reads := ofText?_objectText braces members

/-- Every text that is read as an object is the text of an object. -/
theorem exists_objectText {text : String} {members : Members}
    (read : ofText? text = some (.object members)) :
    ∃ braces texts, text = objectText braces texts ∧ texts.map MemberText.member = members := by
  obtain ⟨lead, inside, trail, whole, before, after, spells⟩ :=
    spells_object_iff.mp (ofText?_eq_some_iff.mp read)
  obtain ⟨gap, texts, blank, rfl, same⟩ : ∃ gap texts, gap.all isBlank ∧
      inside = gap ++ MemberText.joined texts ∧ texts.map MemberText.member = members := by
    cases members with
    | nil => exact ⟨inside, [], Spells.nil_iff.mp spells, (List.append_nil inside).symm, rfl⟩
    | cons first rest =>
        obtain ⟨texts, rfl, same⟩ := MemberText.exists_joined (List.cons_ne_nil first rest) spells
        exact ⟨[], texts, rfl, rfl, same⟩
  let braces : Braces :=
    { lead := String.ofList lead
      gap := String.ofList gap
      trail := String.ofList trail
      blank_lead := by rwa [String.toList_ofList]
      blank_gap := by rwa [String.toList_ofList]
      blank_trail := by rwa [String.toList_ofList] }
  refine ⟨braces, texts, ?_, same⟩
  rw [← String.toList_inj, whole, objectText]
  simp only [braces, String.toList_ofList]

end LinkGauge.Json
