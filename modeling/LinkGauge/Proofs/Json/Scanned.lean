import LinkGauge.Proofs.Json.Reading

/-!
# What a scanned text is made of

What a scanner makes of further characters does not depend on the tokens that it has already. So
a text spells its tokens exactly when it is scanned into them (`Scanner.spells_iff`), and it can
be cut at every mark among them into two texts that are scanned by themselves
(`Scanner.exists_cut`). A text without tokens is blank (`Scanner.Spells.nil_iff`).
-/

namespace LinkGauge.Json

/-- Whether a value has no parts. -/
def isScalar : Json → Bool
  | .array _ | .object _ => false
  | _ => true

/-- Whether a token is not a value with parts. -/
def Token.Plain : Token → Prop
  | .scalar value => value.isScalar
  | _ => True

/-- Whether the name that is being scanned stands for a value without parts. -/
def Scanning.Plain : Scanning → Prop
  | .name _ value => value.isScalar
  | _ => True

/-- Whether a token has begun and not ended. -/
def Scanning.Inside : Scanning → Prop
  | .between => False
  | _ => True

/-- The character that is a token by itself. -/
def Token.mark? : Token → Option Char
  | .beginArray => some '['
  | .endArray => some ']'
  | .beginObject => some '\x7b'
  | .endObject => some '\x7d'
  | .colon => some ':'
  | .comma => some ','
  | .scalar _ => none

/-- The characters that may stand between two tokens. -/
def isBlank (c : Char) : Bool := c ∈ [' ', '\t', '\n', '\r']

namespace Scanner

/-- The scanner with tokens that were found before its own. -/
def after (s : Scanner) (found : List Token) : Scanner := ⟨s.scanning, s.tokens ++ found⟩

private theorem stepBetween_after (s : Scanner) (found : List Token) (c : Char) :
    (s.after found).stepBetween c = (s.stepBetween c).map (·.after found) := by
  unfold stepBetween
  split
  all_goals
    first
    | rfl
    | cases Text.digitValue? c <;> rfl

private theorem step_after (s : Scanner) (found : List Token) (g : Text.Glyph) :
    (s.after found).step g = (s.step g).map (·.after found) := by
  obtain ⟨scanning, tokens⟩ := s
  cases g with
  | none => cases scanning <;> rfl
  | some c =>
      cases scanning with
      | between => exact stepBetween_after ⟨.between, tokens⟩ found c
      | name left value =>
          rcases left with _ | ⟨last, _ | ⟨second, left⟩⟩
          · rfl
          all_goals
            simp only [step, after]
            split <;> rfl
      | number part =>
          simp only [step, after]
          cases part.next? c with
          | some part => rfl
          | none =>
              cases part.value? with
              | none => rfl
              | some value => exact stepBetween_after ⟨.between, .scalar value :: tokens⟩ found c
      | string pieces =>
          simp only [step, stepString, after]
          split
          · rfl
          split
          · rfl
          split <;> rfl
      | escape pieces =>
          simp only [step, after]
          split
          · rfl
          · cases escapePiece? c <;> rfl
      | code pieces left value =>
          simp only [step, after]
          cases Text.hexValue? c with
          | none => rfl
          | some digit =>
              simp only [Option.bind_eq_bind, Option.bind_some]
              split <;> rfl

private theorem reads_after (s : Scanner) (found : List Token) (cs : List Char) :
    (s.after found).reads cs = (s.reads cs).map (·.after found) := by
  induction cs generalizing s with
  | nil => rfl
  | cons c cs ih =>
      rw [reads_cons, reads_cons, step_after]
      cases s.step (some c) with
      | none => rfl
      | some next => exact ih next

private theorem finish_after (s : Scanner) (found : List Token) :
    (s.after found).finish = s.finish.map (found.reverse ++ ·) := by
  obtain ⟨scanning, tokens⟩ := s
  cases scanning with
  | between => simp only [finish, after, List.reverse_append, Option.map_some]
  | number part =>
      simp only [finish, after]
      cases part.value? with
      | none => rfl
      | some value => exact congrArg some (by simp only [List.reverse_cons, List.reverse_append,
          List.append_assoc])
  | _ => rfl

/-- What a scanner without tokens makes of a character. -/
inductive Stepped (c : Char) : Scanning → Scanner → Prop where
  | blank (blank : isBlank c) : Stepped c .between ⟨.between, []⟩
  | mark {token : Token} (mark : token.mark? = some c) : Stepped c .between ⟨.between, [token]⟩
  | within {scanning next : Scanning} (inside : next.Inside)
      (plain : scanning.Plain → next.Plain) : Stepped c scanning ⟨next, []⟩
  | ends {scanning : Scanning} {value : Json} (plain : scanning.Plain → value.isScalar) :
      Stepped c scanning ⟨.between, [.scalar value]⟩
  | number {part : NumberPart} {value : Json} {s : Scanner} (complete : part.value? = some value)
      (plain : value.isScalar) (goesOn : Stepped c .between s) :
      Stepped c (.number part) (s.after [.scalar value])

private theorem isScalar_of_value? {part : NumberPart} {value : Json}
    (complete : part.value? = some value) : value.isScalar := by
  rcases part with _ | ⟨_ | _⟩ | ⟨_ | _, _⟩ | _ | _ | _ | _ | _ <;> cases complete <;> rfl

private theorem stepped_between {c : Char} {s : Scanner}
    (read : stepBetween ⟨.between, []⟩ c = some s) : Stepped c .between s := by
  unfold stepBetween at read
  split at read
  all_goals
    first
    | cases read
      first
      | exact .blank rfl
      | exact .mark rfl
      | exact .within trivial fun _ => rfl
      | exact .within trivial fun _ => trivial
    | obtain ⟨digit, -, read⟩ := Option.bind_eq_some_iff.mp read
      cases read
      exact .within trivial fun _ => trivial

private theorem stepped {c : Char} {scanning : Scanning} {s : Scanner}
    (read : step ⟨scanning, []⟩ (some c) = some s) : Stepped c scanning s := by
  cases scanning with
  | between => exact stepped_between read
  | name left value =>
      rcases left with _ | ⟨last, _ | ⟨second, left⟩⟩
      · cases read
      all_goals
        simp only [step] at read
        split at read
      · cases read
        exact .ends id
      · cases read
      · cases read
        exact .within trivial id
      · cases read
  | number part =>
      simp only [step] at read
      split at read
      · cases read
        exact .within trivial fun _ => trivial
      · obtain ⟨value, complete, read⟩ := Option.bind_eq_some_iff.mp read
        have goes := stepBetween_after ⟨.between, []⟩ [.scalar value] c
        have emitted : after ⟨.between, []⟩ [.scalar value] =
            emit ⟨.number part, []⟩ (.scalar value) := rfl
        rw [emitted, read] at goes
        obtain ⟨between, goesOn, rfl⟩ := Option.map_eq_some_iff.mp goes.symm
        exact .number complete (isScalar_of_value? complete) (stepped_between goesOn)
  | string pieces =>
      simp only [step, stepString] at read
      split at read
      · cases read
        exact .ends fun _ => rfl
      split at read
      · cases read
        exact .within trivial fun _ => trivial
      split at read
      · cases read
      · cases read
        exact .within trivial fun _ => trivial
  | escape pieces =>
      simp only [step] at read
      split at read
      · cases read
        exact .within trivial fun _ => trivial
      · obtain ⟨piece, -, rfl⟩ := Option.map_eq_some_iff.mp read
        exact .within trivial fun _ => trivial
  | code pieces left value =>
      obtain ⟨digit, -, read⟩ := Option.bind_eq_some_iff.mp read
      split at read <;> cases read <;> exact .within trivial fun _ => trivial

/-- Whether a scanner without tokens has exactly some tokens after further characters. -/
def Emits (scanning : Scanning) (cs : List Char) (ts : List Token) : Prop :=
  ∃ s, reads ⟨scanning, []⟩ cs = some s ∧ s.finish = some ts

section Emits

variable {scanning : Scanning} {c : Char} {cs : List Char} {ts more : List Token} {token : Token}

private theorem emits_cons :
    Emits scanning (c :: cs) ts ↔ ∃ s later, step ⟨scanning, []⟩ (some c) = some s ∧
      ts = s.tokens.reverse ++ later ∧ Emits s.scanning cs later := by
  have alone (s : Scanner) : s = after ⟨s.scanning, []⟩ s.tokens := rfl
  constructor
  · rintro ⟨last, read, finished⟩
    obtain ⟨s, stepped, read⟩ := Option.bind_eq_some_iff.mp (reads_cons _ _ _ ▸ read)
    rw [alone s, reads_after] at read
    obtain ⟨rest, goesOn, rfl⟩ := Option.map_eq_some_iff.mp read
    rw [finish_after] at finished
    obtain ⟨later, ends, rfl⟩ := Option.map_eq_some_iff.mp finished
    exact ⟨s, later, stepped, rfl, rest, goesOn, ends⟩
  · rintro ⟨s, later, stepped, rfl, rest, goesOn, ends⟩
    refine ⟨rest.after s.tokens, ?_, ?_⟩
    · rw [reads_cons, stepped, Option.bind_some, alone s, reads_after, goesOn]
      rfl
    · rw [finish_after, ends]
      rfl

private theorem finish_eq_some_iff {s : Scanner} : s.finish = some ts ↔ Rests ts.reverse s := by
  constructor
  · intro finished
    obtain ⟨scanning, found⟩ := s
    cases scanning with
    | between =>
        cases finished
        rw [List.reverse_reverse]
        exact .between
    | number part =>
        obtain ⟨value, complete, finished⟩ := Option.bind_eq_some_iff.mp finished
        cases finished
        rw [List.reverse_reverse]
        exact .number complete rfl
    | _ => exact nomatch finished
  · intro rests
    rw [rests.finish, List.reverse_reverse]

private theorem emits_nil_iff :
    Emits scanning [] ts ↔ scanning = .between ∧ ts = [] ∨
      ∃ part value, scanning = .number part ∧ part.value? = some value ∧ ts = [.scalar value] := by
  constructor
  · rintro ⟨s, read, finished⟩
    cases read
    cases scanning with
    | between =>
        cases finished
        exact .inl ⟨rfl, rfl⟩
    | number part =>
        obtain ⟨value, complete, finished⟩ := Option.bind_eq_some_iff.mp finished
        cases finished
        exact .inr ⟨part, value, rfl, complete, rfl⟩
    | _ => exact nomatch finished
  · rintro (⟨rfl, rfl⟩ | ⟨part, value, rfl, complete, rfl⟩)
    · exact ⟨_, rfl, rfl⟩
    · exact ⟨_, rfl, Rests.finish (.number complete rfl)⟩

/-- A text spells the tokens that it is scanned into. -/
theorem spells_iff : Spells cs ts ↔ Emits .between cs ts := by
  constructor
  · intro spells
    obtain ⟨s, read, rests⟩ := spells []
    exact ⟨s, read, rests.finish.trans (by rw [List.append_nil, List.reverse_reverse])⟩
  · rintro ⟨s, read, finished⟩ found
    have goes := reads_after ⟨.between, []⟩ found cs
    rw [read] at goes
    refine ⟨_, goes, ?_⟩
    have ends := finish_after s found
    rw [finished, Option.map_some, finish_eq_some_iff, List.reverse_append,
      List.reverse_reverse] at ends
    exact ends

private theorem blank_of_emits_nil (emits : Emits scanning cs []) :
    scanning = .between ∧ cs.all isBlank := by
  induction cs generalizing scanning with
  | nil =>
      rcases emits_nil_iff.mp emits with ⟨between, -⟩ | ⟨_, _, _, _, last⟩
      · exact ⟨between, rfl⟩
      · exact nomatch last
  | cons c cs ih =>
      obtain ⟨s, later, read, nothing, emits⟩ := emits_cons.mp emits
      obtain ⟨noTokens, rfl⟩ := List.append_eq_nil_iff.mp nothing.symm
      obtain ⟨between, blank⟩ := ih emits
      cases stepped read with
      | blank first => exact ⟨rfl, List.all_cons ▸ Bool.and_eq_true_iff.mpr ⟨first, blank⟩⟩
      | within inside =>
          cases between
          exact inside.elim
      | mark | ends => exact nomatch noTokens
      | number => exact absurd noTokens (by simp [after])

private theorem Stepped.plain {s : Scanner} (stepped : Stepped c scanning s)
    (plain : scanning.Plain) : s.scanning.Plain ∧ ∀ token ∈ s.tokens, token.Plain := by
  induction stepped with
  | blank => exact ⟨trivial, nofun⟩
  | @mark token mark =>
      refine ⟨trivial, fun other found => ?_⟩
      obtain rfl := List.eq_of_mem_singleton found
      cases other with
      | scalar => exact nomatch mark
      | _ => trivial
  | within _ keeps => exact ⟨keeps plain, nofun⟩
  | ends keeps =>
      refine ⟨trivial, fun other found => ?_⟩
      obtain rfl := List.eq_of_mem_singleton found
      exact keeps plain
  | number _ scalar _ ih =>
      obtain ⟨next, each⟩ := ih trivial
      refine ⟨next, fun other found => ?_⟩
      rcases List.mem_append.mp found with new | last
      · exact each other new
      · obtain rfl := List.eq_of_mem_singleton last
        exact scalar

private theorem plain_of_emits (plain : scanning.Plain) (emitted : Emits scanning cs ts) :
    ∀ token ∈ ts, token.Plain := by
  induction cs generalizing scanning ts with
  | nil =>
      intro token found
      rcases emits_nil_iff.mp emitted with ⟨-, rfl⟩ | ⟨part, value, -, complete, rfl⟩
      · exact nomatch found
      · obtain rfl := List.eq_of_mem_singleton found
        exact isScalar_of_value? complete
  | cons c cs ih =>
      obtain ⟨s, later, read, rfl, emits⟩ := emits_cons.mp emitted
      obtain ⟨next, each⟩ := (stepped read).plain plain
      intro token found
      rcases List.mem_append.mp found with new | last
      · exact each token (List.mem_reverse.mp new)
      · exact ih next emits token last

private theorem Stepped.mark_last {d : Char} {s : Scanner} (stepped : Stepped c scanning s)
    (mark : token.mark? = some d) (added : s.tokens.reverse = ts ++ token :: more) :
    more = [] ∧ d = c ∧ s.scanning = .between ∧ Emits scanning [] ts := by
  have noScalar {value : Json} : token ≠ .scalar value := by
    rintro rfl
    exact nomatch mark
  induction stepped generalizing ts with
  | blank | within => exact absurd added.symm (by simp)
  | mark listed =>
      obtain ⟨rfl, same⟩ | ⟨_, nothing⟩ := List.singleton_eq_append_iff.mp added
      · obtain ⟨rfl, rfl⟩ := List.cons.inj same
        have itself := Option.some.inj (mark.symm.trans listed)
        exact ⟨rfl, itself, rfl, emits_nil_iff.mpr (.inl ⟨rfl, rfl⟩)⟩
      · exact nomatch nothing
  | ends =>
      obtain ⟨rfl, same⟩ | ⟨_, nothing⟩ := List.singleton_eq_append_iff.mp added
      · exact absurd (List.cons.inj same).1 noScalar
      · exact nomatch nothing
  | number complete scalar goesOn ih =>
      rw [after, List.reverse_append, List.reverse_singleton] at added
      cases ts with
      | nil => exact absurd (List.cons.inj added).1.symm noScalar
      | cons first ts =>
          obtain ⟨rfl, behind⟩ := List.cons.inj added
          obtain ⟨rfl, rfl, inBetween, early⟩ := ih behind
          obtain ⟨-, rfl⟩ | ⟨_, _, impossible, _⟩ := emits_nil_iff.mp early
          · exact ⟨rfl, rfl, inBetween, emits_nil_iff.mpr (.inr ⟨_, _, rfl, complete, rfl⟩)⟩
          · exact nomatch impossible

/-- A text is cut at every mark among its tokens. -/
theorem exists_cut {d : Char} (mark : token.mark? = some d)
    (emits : Emits scanning cs (ts ++ token :: more)) :
    ∃ first second, cs = first ++ d :: second ∧ Emits scanning first ts ∧
      Emits .between second more := by
  induction cs generalizing scanning ts with
  | nil =>
      rcases emits_nil_iff.mp emits with ⟨-, nothing⟩ | ⟨part, value, -, -, single⟩
      · exact absurd nothing (by simp)
      · obtain ⟨-, same⟩ | ⟨_, nothing⟩ := List.append_eq_singleton_iff.mp single
        · cases same
          exact nomatch mark
        · exact nomatch nothing
  | cons c cs ih =>
      obtain ⟨s, later, read, split, goesOn⟩ := emits_cons.mp emits
      have further (rest : List Token) (before : ts = s.tokens.reverse ++ rest)
          (same : later = rest ++ token :: more) :
          ∃ first second, c :: cs = first ++ d :: second ∧ Emits scanning first ts ∧
            Emits .between second more := by
        rw [same] at goesOn
        obtain ⟨first, second, rfl, early, late⟩ := ih goesOn
        exact ⟨c :: first, second, rfl, emits_cons.mpr ⟨s, rest, read, before, early⟩, late⟩
      -- The mark is the last token that this character adds, or it is added behind it.
      rcases List.append_eq_append_iff.mp split with ⟨between, added, rest⟩ | ⟨rest, before, same⟩
      · cases between with
        | nil => exact further [] (by rw [added, List.append_nil, List.append_nil]) rest.symm
        | cons first between =>
            obtain ⟨rfl, rfl⟩ := List.cons.inj rest
            obtain ⟨rfl, rfl, inBetween, early⟩ := (stepped read).mark_last mark added
            rw [inBetween] at goesOn
            exact ⟨[], cs, rfl, early, goesOn⟩
      · exact further rest before same

end Emits

private theorem reads_blank {cs : List Char} (blank : cs.all isBlank) (found : List Token) :
    reads ⟨.between, found⟩ cs = some ⟨.between, found⟩ := by
  induction cs with
  | nil => rfl
  | cons c cs ih =>
      obtain ⟨first, blank⟩ := Bool.and_eq_true_iff.mp (List.all_cons ▸ blank)
      have passed : step ⟨.between, found⟩ (some c) = some ⟨.between, found⟩ := by
        simp only [isBlank, List.mem_cons, List.not_mem_nil, or_false, decide_eq_true_eq] at first
        rcases first with rfl | rfl | rfl | rfl <;> rfl
      rw [reads_cons, passed]
      exact ih blank

namespace Spells

variable {cs : List Char} {ts more : List Token} {token : Token}

/-- Characters spell no tokens exactly when they are blank. -/
theorem nil_iff : Spells cs [] ↔ cs.all isBlank := by
  constructor
  · intro spells
    exact (blank_of_emits_nil (spells_iff.mp spells)).2
  · intro blank found
    exact ⟨_, reads_blank blank found, .between⟩

/-- Blanks in front of a text change nothing of what it spells. -/
theorem behind_blank {blanks : List Char} (blank : blanks.all isBlank) (spells : Spells cs ts) :
    Spells (blanks ++ cs) ts := by
  intro found
  rw [reads_append, reads_blank blank]
  exact spells found

/-- No value with parts is spelled as one token. -/
theorem plain (spells : Spells cs ts) : ∀ token ∈ ts, token.Plain := by
  have start : Scanning.between.Plain := trivial
  exact plain_of_emits start (spells_iff.mp spells)

/-- What has a mark among its tokens is divided by this mark. -/
theorem mark_iff {c : Char} (ts : List Token) (mark : token.mark? = some c) :
    Spells cs (ts ++ token :: more) ↔
      ∃ first second, cs = first ++ c :: second ∧ Spells first ts ∧ Spells second more := by
  constructor
  · intro spells
    obtain ⟨first, second, rfl, early, late⟩ := exists_cut mark (spells_iff.mp spells)
    exact ⟨first, second, rfl, spells_iff.mpr early, spells_iff.mpr late⟩
  · rintro ⟨first, second, rfl, early, late⟩
    cases token <;> cases mark <;> exact divided (fun _ => rfl) (by decide) early late

end Spells

end Scanner

end LinkGauge.Json
