import LinkGauge.Json.Basic
import LinkGauge.Json.Reader
import LinkGauge.Proofs.Text.Decimal
import Mathlib.Tactic.IntervalCases

/-!
# Written values are read back

The text of a value is one line, is scanned into the tokens of the value, and is read back as the
value (`Json.ofText?_write`).
-/

namespace LinkGauge.Json

/-!
## A written value is one line

A newline in a string is escaped, and no number, name or mark contains one, so the text of a
value never does (`Json.newline_notMem_chars`).
-/

section

open Text

private theorem newline_notMem_signedDecimal (n : Int) : '\n' ∉ signedDecimal n :=
  notMem_signedDecimal (by decide) (by decide) n

private theorem newline_notMem_escaped (c : Char) : '\n' ∉ escaped c := by
  unfold escaped
  split
  · decide
  split
  · decide
  split
  · decide
  split
  · decide
  split
  · decide
  split
  · decide
  split
  · decide
  split
  · have code : '\n' ∉ padded 4 (numeral 16 c.toNat) := notMem_padded (by decide) _ _
    simp only [List.mem_append, List.mem_cons, List.not_mem_nil, code, Char.reduceEq, or_self,
      not_false_eq_true]
  · next other _ _ _ =>
      rw [List.mem_singleton]
      exact Ne.symm other

private theorem newline_notMem_quoted (text : Option String) : '\n' ∉ quoted text := by
  cases text with
  | none => decide
  | some text =>
      have inside : '\n' ∉ text.toList.flatMap escaped := by
        rw [List.mem_flatMap]
        rintro ⟨c, -, member⟩
        exact newline_notMem_escaped c member
      simp only [quoted, List.mem_append, List.mem_cons, List.not_mem_nil, inside, Char.reduceEq,
        or_self, not_false_eq_true]

mutual

/-- The text of a value is one line. -/
theorem newline_notMem_chars : ∀ value : Json, '\n' ∉ chars value
  | .null => by decide
  | .bool true => by decide
  | .bool false => by decide
  | .int n => newline_notMem_signedDecimal n
  | .real => by decide
  | .string text => newline_notMem_quoted text
  | .array items => by
      have inside := newline_notMem_itemChars items
      simp only [chars, List.mem_cons, List.mem_append, List.not_mem_nil, inside, Char.reduceEq,
        or_self, not_false_eq_true]
  | .object members => by
      have inside := newline_notMem_memberChars members
      simp only [chars, List.mem_cons, List.mem_append, List.not_mem_nil, inside, Char.reduceEq,
        or_self, not_false_eq_true]

private theorem newline_notMem_itemChars : ∀ items : List Json, '\n' ∉ itemChars items
  | [] => List.not_mem_nil
  | [item] => newline_notMem_chars item
  | item :: second :: rest => by
      have first := newline_notMem_chars item
      have later := newline_notMem_itemChars (second :: rest)
      simp only [itemChars, List.mem_append, List.mem_cons, first, later, Char.reduceEq, or_self,
        not_false_eq_true]

private theorem newline_notMem_memberChars : ∀ members : Members, '\n' ∉ memberChars members
  | [] => List.not_mem_nil
  | [(key, value)] => by
      have first := newline_notMem_quoted key
      have inside := newline_notMem_chars value
      simp only [memberChars, List.mem_append, List.mem_cons, first, inside, Char.reduceEq, or_self,
        not_false_eq_true]
  | (key, value) :: second :: rest => by
      have first := newline_notMem_quoted key
      have inside := newline_notMem_chars value
      have later := newline_notMem_memberChars (second :: rest)
      simp only [memberChars, List.mem_append, List.mem_cons, first, inside, later, Char.reduceEq,
        or_self, not_false_eq_true]

end

end

/-!
## Scanning what was written

The text of a value is scanned into the tokens of the value (`Json.scan?_chars`). A number that
has just been read is not a token yet, because digits could follow: a scanner rests on tokens
when it has them, or when it would have them at the next delimiter (`Scanner.Rests`).
-/

section

open Text

mutual

/-- The tokens of a value. -/
def spelling : Json → List Token
  | .array items => .beginArray :: (itemSpelling items ++ [.endArray])
  | .object members => .beginObject :: (memberSpelling members ++ [.endObject])
  | value => [.scalar value]

/-- The tokens of the items of an array. -/
def itemSpelling : List Json → List Token
  | [] => []
  | [item] => spelling item
  | item :: rest => spelling item ++ .comma :: itemSpelling rest

/-- The tokens of the members of an object. -/
def memberSpelling : List (Option String × Json) → List Token
  | [] => []
  | [(key, value)] => .scalar (.string key) :: .colon :: spelling value
  | (key, value) :: rest =>
    .scalar (.string key) :: .colon :: spelling value ++ .comma :: memberSpelling rest

end

namespace Scanner

/-- The state after further characters. -/
def reads (s : Scanner) (cs : List Char) : Option Scanner :=
  cs.foldlM (fun s c => s.step (some c)) s

/-- Reading characters is a step for the first one and reading the others. -/
theorem reads_cons (s : Scanner) (c : Char) (cs : List Char) :
    s.reads (c :: cs) = (s.step (some c)).bind (·.reads cs) := rfl

/-- Reading two texts is reading the one and then the other. -/
theorem reads_append (s : Scanner) (first second : List Char) :
    s.reads (first ++ second) = (s.reads first).bind (·.reads second) :=
  List.foldlM_append

/-- The piece as which a character of a text is read back. -/
def spelled (c : Char) : Piece :=
  if c.toNat < 32 ∧ c ∉ ['\x08', '\x0c', '\n', '\r', '\t'] then .unit c.toNat else .char c

private theorem step_code (pieces : List Piece) (found : List Token) (left value : Nat) {d : Nat}
    (small : d < 16) :
    step ⟨.code pieces left value, found⟩ (some (digitChar d)) =
      if left ≤ 1 then some ⟨.string (.unit (value * 16 + d) :: pieces), found⟩
      else some ⟨.code pieces (left - 1) (value * 16 + d), found⟩ := by
  simp only [step, hexValue?_digitChar small]
  rfl

private theorem reads_code (pieces : List Piece) (found : List Token) {n : Nat} (small : n < 256) :
    reads ⟨.code pieces 4 0, found⟩ (padded 4 (numeral 16 n)) =
      some ⟨.string (.unit n :: pieces), found⟩ := by
  have zero : '0' = digitChar 0 := rfl
  have whole : (((0 * 16 + 0) * 16 + 0) * 16 + n / 16) * 16 + n % 16 = n := by omega
  rw [padded_byte small, zero, reads_cons, step_code _ _ _ _ (by omega), if_neg (by omega),
    Option.bind_some, reads_cons, step_code _ _ _ _ (by omega), if_neg (by omega),
    Option.bind_some, reads_cons, step_code _ _ _ _ (by omega), if_neg (by omega),
    Option.bind_some, reads_cons, step_code _ _ _ _ (by omega), if_pos (by omega),
    Option.bind_some, whole]
  rfl

private theorem reads_escaped (pieces : List Piece) (found : List Token) (c : Char) :
    reads ⟨.string pieces, found⟩ (escaped c) = some ⟨.string (spelled c :: pieces), found⟩ := by
  unfold escaped
  split
  · next same => subst same; rfl
  split
  · next same => subst same; rfl
  split
  · next same => subst same; rfl
  split
  · next same => subst same; rfl
  split
  · next same => subst same; rfl
  split
  · next same => subst same; rfl
  split
  · next same => subst same; rfl
  split
  · next low =>
      have unit : spelled c = .unit c.toNat := by
        rw [spelled, if_pos]
        simp only [List.mem_cons, List.not_mem_nil, not_or, *, not_false_eq_true, and_self]
      rw [unit]
      exact reads_code pieces found (by omega : c.toNat < 256)
  · next noQuote noBackslash _ _ _ _ _ high =>
      have plain : spelled c = .char c := by
        rw [spelled, if_neg]
        exact fun low => high low.1
      rw [plain, reads_cons, step]
      dsimp only
      rw [stepString, if_neg noQuote, if_neg noBackslash, if_neg high]
      rfl

private theorem reads_escaped_all (pieces : List Piece) (found : List Token) (cs : List Char) :
    reads ⟨.string pieces, found⟩ (cs.flatMap escaped) =
      some ⟨.string ((cs.map spelled).reverse ++ pieces), found⟩ := by
  induction cs generalizing pieces with
  | nil => rfl
  | cons c cs ih =>
      rw [List.flatMap_cons, reads_append, reads_escaped, Option.bind_some, ih, List.map_cons,
        List.reverse_cons, List.append_assoc, List.singleton_append]

private theorem decode?_unit {code : Nat} (low : code < 0xD800) (rest : List Piece) :
    decode? (.unit code :: rest) = (decode? rest).map (Char.ofNat code :: ·) := by
  have notHigh : isHighSurrogate code = false := by
    simp only [isHighSurrogate, Bool.and_eq_false_iff, decide_eq_false_iff_not]
    omega
  have notLow : isLowSurrogate code = false := by
    simp only [isLowSurrogate, Bool.and_eq_false_iff, decide_eq_false_iff_not]
    omega
  cases rest with
  | nil => simp only [decode?, notHigh, notLow, Bool.or_self, Bool.false_eq_true, ↓reduceIte]
  | cons piece rest =>
      cases piece <;>
        simp only [decode?, notHigh, notLow, Bool.or_self, Bool.false_eq_true, ↓reduceIte]

private theorem decode?_spelled (cs : List Char) : decode? (cs.map spelled) = some cs := by
  induction cs with
  | nil => rfl
  | cons c cs ih =>
      rw [List.map_cons, spelled]
      split
      · next low =>
          rw [decode?_unit (by omega), ih, Char.ofNat_toNat]
          rfl
      · rw [decode?, ih]
        rfl

private theorem reads_quoted (found : List Token) (text : Option String) :
    reads ⟨.between, found⟩ (quoted text) =
      some ⟨.between, .scalar (.string text) :: found⟩ := by
  cases text with
  | none => rfl
  | some text =>
      have opened (cs : List Char) :
          reads ⟨.between, found⟩ ('"' :: cs) = reads ⟨.string [], found⟩ cs := rfl
      have closed (pieces : List Piece) : reads ⟨.string pieces, found⟩ ['"'] =
          some ⟨.between,
            .scalar (.string ((decode? pieces.reverse).map String.ofList)) :: found⟩ :=
        rfl
      rw [quoted, List.cons_append, opened, reads_append, reads_escaped_all, Option.bind_some,
        closed, List.append_nil, List.reverse_reverse, decode?_spelled, Option.map_some,
        String.ofList_toList]

private theorem reads_numeral {s : Scanner} {negative : Bool} {found : List Token}
    (starts : ∀ d < 10, s.step (some (digitChar d)) =
      some ⟨.number (if d = 0 then .zero negative else .whole negative d), found⟩)
    {n : Nat} (positive : 0 < n) :
    s.reads (numeral 10 n) = some ⟨.number (.whole negative n), found⟩ := by
  induction n using Nat.strongRecOn with
  | ind n ih =>
      by_cases digit : n < 10
      · rw [numeral_of_lt digit, reads_cons, starts n digit, if_neg (by omega)]
        rfl
      · have shorter := ih (n / 10) (by omega) (by omega)
        have last := digitValue?_digitChar (d := n % 10) (by omega)
        have whole : n / 10 * 10 + n % 10 = n := Nat.div_add_mod' n 10
        rw [numeral_of_le (by omega) (by omega), reads_append, shorter, Option.bind_some,
          reads_cons, step]
        simp only [NumberPart.next?, last, whole]
        rfl

/-- Whether a scanner has the given tokens, or would have them at the next delimiter. -/
inductive Rests (found : List Token) : Scanner → Prop where
  | between : Rests found ⟨.between, found⟩
  | number {part : NumberPart} {value : Json} {before : List Token}
      (complete : part.value? = some value) (last : found = .scalar value :: before) :
      Rests found ⟨.number part, before⟩

/-- The characters that are tokens by themselves. -/
abbrev marks : List Char := ['[', ']', '\x7b', '\x7d', ':', ',']

private theorem next?_mark (part : NumberPart) {c : Char} (mark : c ∈ marks) :
    part.next? c = none := by
  simp only [List.mem_cons, List.not_mem_nil, or_false] at mark
  rcases mark with rfl | rfl | rfl | rfl | rfl | rfl <;> cases part <;> rfl

private theorem Rests.step {s : Scanner} {found : List Token} (rests : Rests found s) {c : Char}
    (mark : c ∈ marks) : s.step (some c) = stepBetween ⟨.between, found⟩ c := by
  cases rests with
  | between => rfl
  | @number part value before complete last =>
      simp only [Scanner.step, next?_mark part mark, complete, last]
      rfl

/-- A scanner that rests has found its tokens. -/
theorem Rests.finish {s : Scanner} {found : List Token} (rests : Rests found s) :
    s.finish = some found.reverse := by
  cases rests with
  | between => rfl
  | number complete last =>
      simp only [Scanner.finish, complete, last]
      rfl

/-- Whether characters are scanned into tokens, whatever came before. -/
def Spells (cs : List Char) (ts : List Token) : Prop :=
  ∀ found, ∃ s, reads ⟨.between, found⟩ cs = some s ∧ Rests (ts.reverse ++ found) s

namespace Spells

variable {cs rest : List Char} {ts more : List Token} {c : Char} {token : Token}

/-- No characters spell no tokens. -/
theorem nil : Spells [] [] := fun _ => ⟨_, rfl, .between⟩

private theorem after
    (mark : ∀ found, stepBetween ⟨.between, found⟩ c = some ⟨.between, token :: found⟩)
    (spelled : Spells cs ts) : Spells (c :: cs) (token :: ts) := by
  intro found
  obtain ⟨s, read, rests⟩ := spelled (token :: found)
  refine ⟨s, ?_, ?_⟩
  · rw [reads_cons, step]
    dsimp only
    rw [mark, Option.bind_some, read]
  · rw [List.reverse_cons, List.append_assoc]
    exact rests

/-- A mark divides what was spelled before it from what is spelled after it. -/
theorem divided (mark : ∀ found, stepBetween ⟨.between, found⟩ c = some ⟨.between, token :: found⟩)
    (listed : c ∈ marks) (first : Spells cs ts) (second : Spells rest more) :
    Spells (cs ++ c :: rest) (ts ++ token :: more) := by
  intro found
  obtain ⟨early, read, pausing⟩ := first found
  obtain ⟨s, goes, rests⟩ := second (token :: (ts.reverse ++ found))
  refine ⟨s, ?_, ?_⟩
  · rw [reads_append, read, Option.bind_some, reads_cons, pausing.step listed, mark,
      Option.bind_some, goes]
  · rw [List.reverse_append, List.reverse_cons, List.append_assoc, List.append_assoc]
    exact rests

private theorem array (items : Spells cs ts) :
    Spells ('[' :: (cs ++ [']'])) (.beginArray :: (ts ++ [.endArray])) :=
  after (fun _ => rfl) (divided (fun _ => rfl) (by decide) items nil)

private theorem object (members : Spells cs ts) :
    Spells ('\x7b' :: (cs ++ ['\x7d'])) (.beginObject :: (ts ++ [.endObject])) :=
  after (fun _ => rfl) (divided (fun _ => rfl) (by decide) members nil)

/-- A comma between two texts stands between their tokens. -/
theorem comma (first : Spells cs ts) (second : Spells rest more) :
    Spells (cs ++ ',' :: rest) (ts ++ .comma :: more) :=
  divided (fun _ => rfl) (by decide) first second

private theorem string (text : Option String) : Spells (quoted text) [.scalar (.string text)] :=
  fun found => ⟨_, reads_quoted found text, .between⟩

private theorem member (key : Option String) (value : Spells cs ts) :
    Spells (quoted key ++ ':' :: cs) (.scalar (.string key) :: .colon :: ts) := by
  intro found
  have colon : ∀ found, stepBetween ⟨.between, found⟩ ':' = some ⟨.between, .colon :: found⟩ :=
    fun _ => rfl
  obtain ⟨s, read, rests⟩ := after colon value (.scalar (.string key) :: found)
  refine ⟨s, ?_, ?_⟩
  · rw [reads_append, reads_quoted, Option.bind_some, read]
  · rw [List.reverse_cons, List.append_assoc]
    exact rests

private theorem int (n : Int) : Spells (signedDecimal n) [.scalar (.int n)] := by
  intro found
  have positive : ∀ d < 10, step ⟨.between, found⟩ (some (digitChar d)) =
      some ⟨.number (if d = 0 then .zero false else .whole false d), found⟩ := by
    intro d small
    interval_cases d <;> rfl
  have negative : ∀ d < 10, step ⟨.number .sign, found⟩ (some (digitChar d)) =
      some ⟨.number (if d = 0 then .zero true else .whole true d), found⟩ := by
    intro d small
    interval_cases d <;> rfl
  cases n with
  | ofNat n =>
      rcases Nat.eq_zero_or_pos n with rfl | large
      · refine ⟨⟨.number (.zero false), found⟩, ?_, .number rfl rfl⟩
        rw [signedDecimal, decimal, numeral_of_lt (by omega)]
        rfl
      · exact ⟨_, reads_numeral positive large, .number rfl rfl⟩
  | negSucc n =>
      have started : reads ⟨.between, found⟩ ('-' :: decimal (n + 1)) =
          reads ⟨.number .sign, found⟩ (decimal (n + 1)) := rfl
      exact ⟨_, started.trans (reads_numeral negative (Nat.succ_pos n)), .number rfl rfl⟩

end Spells

mutual

/-- What is written for a value spells its tokens. -/
theorem spells_chars : ∀ value : Json, Spells (chars value) (spelling value)
  | .null => fun _ => ⟨_, rfl, .between⟩
  | .bool true => fun _ => ⟨_, rfl, .between⟩
  | .bool false => fun _ => ⟨_, rfl, .between⟩
  | .int n => .int n
  | .real => fun _ => ⟨⟨.number (.zero true), _⟩, rfl, .number rfl rfl⟩
  | .string text => .string text
  | .array items => (spells_itemChars items).array
  | .object members => (spells_memberChars members).object

private theorem spells_itemChars :
    ∀ items : List Json, Spells (itemChars items) (itemSpelling items)
  | [] => .nil
  | [item] => spells_chars item
  | item :: second :: rest => (spells_chars item).comma (spells_itemChars (second :: rest))

private theorem spells_memberChars : ∀ members : Members,
    Spells (memberChars members) (memberSpelling members)
  | [] => .nil
  | [(key, value)] => (spells_chars value).member key
  | (key, value) :: second :: rest =>
    ((spells_chars value).member key).comma (spells_memberChars (second :: rest))

end

end Scanner

/-- The tokens of a value are found in its text. -/
theorem scan?_chars (value : Json) : scan? ((chars value).map some) = some (spelling value) := by
  obtain ⟨s, read, rests⟩ := Scanner.spells_chars value []
  have scanned : ((chars value).map some).foldlM Scanner.step Scanner.start = some s := by
    rw [List.foldlM_map]
    exact read
  rw [scan?, scanned]
  exact rests.finish.trans (by rw [List.append_nil, List.reverse_reverse])

end

/-!
## Reading what was written

The tokens of a value complete exactly this value (`Reader.completes_spelling`), so a written
value is read back as it was, whatever its nesting (`Json.ofText?_write`).
-/

namespace Reader

/-- The state after further tokens. -/
def takes (r : Reader) (ts : List Token) : Option Reader := ts.foldlM step r

/-- Taking tokens is a step for the first one and taking the others. -/
theorem takes_cons (r : Reader) (t : Token) (ts : List Token) :
    r.takes (t :: ts) = (r.step t).bind (·.takes ts) := rfl

private theorem takes_append (r : Reader) (first second : List Token) :
    r.takes (first ++ second) = (r.takes first).bind (·.takes second) :=
  List.foldlM_append

private theorem step_begin {e : Expecting} (begins : e = .value ∨ e = .item)
    (opened : List Container) (result : Option Json) {t : Token} (goesOn : t ≠ .endArray) :
    step ⟨e, opened, result⟩ t = stepValue opened t := by
  rcases begins with rfl | rfl
  · rfl
  · cases t <;> first | rfl | exact absurd rfl goesOn

private theorem step_key {e : Expecting} (begins : e = .key ∨ e = .firstKey) (members : Members)
    (outer : List Container) (result : Option Json) (key : Option String) :
    step ⟨e, .object members :: outer, result⟩ (.scalar (.string key)) =
      some ⟨.colon, .member members key :: outer, none⟩ := by
  rcases begins with rfl | rfl <;> rfl

/-- Whether tokens complete a value wherever one may begin. -/
def Completes (value : Json) (ts : List Token) : Prop :=
  ∀ ⦃e : Expecting⦄ (_ : e = .value ∨ e = .item) (opened : List Container) (result : Option Json),
    takes ⟨e, opened, result⟩ ts = complete value opened

/-- Whether tokens add items to an array and end it; only the first item may be missing. -/
def FillsArray (items : List Json) (ts : List Token) : Prop :=
  ∀ ⦃e : Expecting⦄ (_ : e = .value ∨ e = .item) (done : List Json) (outer : List Container)
    (result : Option Json), (items = [] → e = .item ∧ done = []) →
    takes ⟨e, .array done :: outer, result⟩ (ts ++ [.endArray]) =
      complete (.array (done.reverse ++ items)) outer

/-- Whether tokens add members to an object and end it; only the first member may be missing. -/
def FillsObject (members : Members) (ts : List Token) : Prop :=
  ∀ ⦃e : Expecting⦄ (_ : e = .key ∨ e = .firstKey) (done : Members) (outer : List Container)
    (result : Option Json), (members = [] → e = .firstKey ∧ done = []) →
    takes ⟨e, .object done :: outer, result⟩ (ts ++ [.endObject]) =
      complete (.object (done.reverse ++ members)) outer

private theorem takes_singleton (r : Reader) (t : Token) : r.takes [t] = r.step t := by
  rw [takes_cons]
  cases r.step t <;> rfl

private theorem Completes.scalar (value : Json) : Completes value [.scalar value] := by
  intro e begins opened result
  have goesOn : Token.scalar value ≠ .endArray := nofun
  rw [takes_singleton, step_begin begins opened result goesOn]
  rfl

private theorem FillsArray.completes {items : List Json} {ts : List Token}
    (fills : FillsArray items ts) :
    Completes (.array items) (.beginArray :: (ts ++ [.endArray])) := by
  intro e begins opened result
  have goesOn : Token.beginArray ≠ .endArray := nofun
  rw [takes_cons, step_begin begins opened result goesOn]
  exact fills (.inr rfl) [] opened none fun _ => ⟨rfl, rfl⟩

private theorem FillsObject.completes {members : Members} {ts : List Token}
    (fills : FillsObject members ts) :
    Completes (.object members) (.beginObject :: (ts ++ [.endObject])) := by
  intro e begins opened result
  have goesOn : Token.beginObject ≠ .endArray := nofun
  rw [takes_cons, step_begin begins opened result goesOn]
  exact fills (.inr rfl) [] opened none fun _ => ⟨rfl, rfl⟩

private theorem FillsArray.nil : FillsArray [] [] := by
  intro e _ done outer result first
  obtain ⟨rfl, rfl⟩ := first rfl
  rw [List.nil_append, takes_singleton]
  rfl

private theorem FillsArray.last {item : Json} {ts : List Token} (completes : Completes item ts) :
    FillsArray [item] ts := by
  intro e begins done outer result _
  rw [takes_append, completes begins, complete, Option.bind_some, takes_singleton,
    ← List.reverse_cons]
  rfl

private theorem FillsArray.cons {item : Json} {ts more : List Token} {items : List Json}
    (completes : Completes item ts) (fills : FillsArray items more) (further : items ≠ []) :
    FillsArray (item :: items) (ts ++ .comma :: more) := by
  intro e begins done outer result _
  have added : (item :: done).reverse ++ items = done.reverse ++ item :: items := by
    rw [List.reverse_cons, List.append_assoc, List.singleton_append]
  rw [List.append_assoc, takes_append, completes begins, complete, Option.bind_some,
    List.cons_append, takes_cons, ← added]
  exact fills (.inl rfl) (item :: done) outer none fun empty => absurd empty further

private theorem takes_member {key : Option String} {value : Json} {ts : List Token}
    (completes : Completes value ts) {e : Expecting} (begins : e = .key ∨ e = .firstKey)
    (done : Members) (outer : List Container) (result : Option Json) :
    takes ⟨e, .object done :: outer, result⟩ (.scalar (.string key) :: .colon :: ts) =
      some ⟨.more, .object ((key, value) :: done) :: outer, none⟩ := by
  have colon : step ⟨.colon, .member done key :: outer, none⟩ .colon =
      some ⟨.value, .member done key :: outer, none⟩ := rfl
  rw [takes_cons, step_key begins, Option.bind_some, takes_cons, colon, Option.bind_some,
    completes (.inl rfl), complete]

private theorem FillsObject.nil : FillsObject [] [] := by
  intro e _ done outer result first
  obtain ⟨rfl, rfl⟩ := first rfl
  rw [List.nil_append, takes_singleton]
  rfl

private theorem FillsObject.last {key : Option String} {value : Json} {ts : List Token}
    (completes : Completes value ts) :
    FillsObject [(key, value)] (.scalar (.string key) :: .colon :: ts) := by
  intro e begins done outer result _
  rw [takes_append, takes_member completes begins, Option.bind_some, takes_singleton,
    ← List.reverse_cons]
  rfl

private theorem FillsObject.cons {key : Option String} {value : Json} {ts more : List Token}
    {members : Members} (completes : Completes value ts) (fills : FillsObject members more)
    (further : members ≠ []) :
    FillsObject ((key, value) :: members)
      (.scalar (.string key) :: .colon :: ts ++ .comma :: more) := by
  intro e begins done outer result _
  have added : ((key, value) :: done).reverse ++ members =
      done.reverse ++ (key, value) :: members := by
    rw [List.reverse_cons, List.append_assoc, List.singleton_append]
  rw [List.append_assoc, takes_append, takes_member completes begins, Option.bind_some,
    List.cons_append, takes_cons, ← added]
  exact fills (.inl rfl) ((key, value) :: done) outer none fun empty => absurd empty further

mutual

/-- The tokens of a value complete the value. -/
theorem completes_spelling : ∀ value : Json, Completes value (spelling value)
  | .null => .scalar _
  | .bool _ => .scalar _
  | .int _ => .scalar _
  | .real => .scalar _
  | .string _ => .scalar _
  | .array items => (fills_itemSpelling items).completes
  | .object members => (fills_memberSpelling members).completes

private theorem fills_itemSpelling : ∀ items : List Json, FillsArray items (itemSpelling items)
  | [] => .nil
  | [item] => .last (completes_spelling item)
  | item :: second :: rest =>
    .cons (completes_spelling item) (fills_itemSpelling (second :: rest)) (List.cons_ne_nil _ _)

private theorem fills_memberSpelling : ∀ members : Members,
    FillsObject members (memberSpelling members)
  | [] => .nil
  | [(_, value)] => .last (completes_spelling value)
  | (_, value) :: second :: rest =>
    .cons (completes_spelling value) (fills_memberSpelling (second :: rest))
      (List.cons_ne_nil _ _)

end

end Reader

/-- The tokens of a value are read as this value. -/
theorem ofTokens?_spelling (value : Json) : ofTokens? (spelling value) = some value := by
  have completed :
      (spelling value).foldlM Reader.step Reader.start = some ⟨.more, [], some value⟩ :=
    Reader.completes_spelling value (.inl rfl) [] none
  rw [ofTokens?, completed]
  rfl

/-- Every value is read back from its text. -/
theorem ofText?_write (value : Json) : ofText? value.write = some value := by
  rw [ofText?, Text.glyphsOf, write, String.toList_ofList, parse?, scan?_chars]
  exact ofTokens?_spelling value

end LinkGauge.Json
