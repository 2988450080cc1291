import LinkGauge.Channel

/-!
# Laws of bounded channels

While its reader is there, a channel loses nothing: a value that is sent stands behind
those already on their way (`Channel.send?_eq_some`), and taking gives the oldest one
(`Channel.take?_eq_some`). A channel can be read as one of converted values
(`Channel.map`).
-/

namespace LinkGauge.Channel

variable {α β : Type}

/-- Taking gives the oldest value and changes nothing but the queue. -/
theorem take?_eq_some {c rest : Channel α} {value : α} (taken : c.take? = some (value, rest)) :
    c.queue = value :: rest.queue ∧ rest = { c with queue := rest.queue } := by
  unfold take? at taken
  split at taken
  · cases taken
  · next oldest others queued =>
      obtain ⟨rfl, rfl⟩ := Prod.mk.inj (Option.some.inj taken)
      exact ⟨queued, rfl⟩

/-- Nothing can be taken exactly when the queue is empty. -/
theorem take?_eq_none_iff {c : Channel α} : c.take? = none ↔ c.queue = [] := by
  unfold take?
  split
  · next empty => simp only [empty]
  · next queued => simp only [queued, reduceCtorEq]

/-- A channel has ended exactly when its queue is empty and every writer has hung up. -/
theorem ended_iff {c : Channel α} : c.ended = true ↔ c.queue = [] ∧ c.writers = 0 := by
  simp only [ended, Bool.and_eq_true, List.isEmpty_iff, beq_iff_eq]

/-- Taking a value leaves one value less. -/
theorem length_of_take? {c rest : Channel α} {value : α} (taken : c.take? = some (value, rest)) :
    c.queue.length = rest.queue.length + 1 := by
  rw [(take?_eq_some taken).1, List.length_cons]

/-- An ended channel has nothing to take. -/
theorem take?_of_ended {c : Channel α} (ended : c.ended = true) : c.take? = none :=
  take?_eq_none_iff.mpr (ended_iff.mp ended).1

/-- An end stays an end. -/
theorem ended_hangUp {c : Channel α} (ended : c.ended = true) : c.hangUp.ended = true := by
  obtain ⟨empty, closed⟩ := ended_iff.mp ended
  rw [ended_iff, hangUp]
  exact ⟨empty, by rw [closed]⟩

/-- While the reader is there, a value is accepted behind all others as soon as there is
room. -/
theorem send?_of_reading {c : Channel α} (reading : c.reading = true) (value : α) :
    c.send? value =
      if c.queue.length < c.capacity then
        some (.accepted, { c with queue := c.queue ++ [value] })
      else none := by
  rw [send?, if_neg]
  simp only [reading, Bool.not_true, Bool.false_eq_true, not_false_eq_true]

/-- Whoever is heard has sent into a queue with room, and the value stands last in it. -/
theorem send?_eq_some {c after : Channel α} {value : α} {delivery : Delivery}
    (reading : c.reading = true) (sent : c.send? value = some (delivery, after)) :
    delivery = .accepted ∧ c.queue.length < c.capacity ∧
      after = { c with queue := c.queue ++ [value] } := by
  rw [send?_of_reading reading] at sent
  split at sent
  · next room =>
      obtain ⟨rfl, rfl⟩ := Prod.mk.inj (Option.some.inj sent)
      exact ⟨rfl, room, rfl⟩
  · cases sent

/-- A value that was accepted stands last in the queue. -/
theorem eq_of_send?_accepted {c after : Channel α} {value : α}
    (sent : c.send? value = some (.accepted, after)) :
    after = { c with queue := c.queue ++ [value] } := by
  unfold send? at sent
  split at sent
  · cases sent
  · split at sent
    · exact (Prod.mk.inj (Option.some.inj sent)).2.symm
    · cases sent

/-- A value that was lost leaves the channel as it was. -/
theorem eq_of_send?_gone {c after : Channel α} {value : α}
    (sent : c.send? value = some (.gone, after)) : after = c := by
  unfold send? at sent
  split at sent
  · exact (Prod.mk.inj (Option.some.inj sent)).2.symm
  · split at sent <;> cases sent

/-- Only a full channel whose reader is there makes a writer wait. -/
theorem full_of_send?_eq_none {c : Channel α} {value : α} (full : c.send? value = none) :
    c.reading = true ∧ c.capacity ≤ c.queue.length := by
  unfold send? at full
  split at full
  · cases full
  · next reading =>
      split at full
      · cases full
      · next room => exact ⟨by simpa using reading, Nat.le_of_not_lt room⟩

/-- A channel that makes a writer wait is not ready. -/
theorem ready_of_send?_eq_none {c : Channel α} {value : α} (full : c.send? value = none) :
    c.ready = false := by
  obtain ⟨reading, queued⟩ := full_of_send?_eq_none full
  simp only [ready, reading, Nat.not_lt.mpr queued, decide_false, Bool.not_true, Bool.or_self]

/-- Sending changes nothing but the queue. -/
theorem eq_of_send? {c after : Channel α} {value : α} {delivery : Delivery}
    (sent : c.send? value = some (delivery, after)) : after = { c with queue := after.queue } := by
  cases delivery with
  | accepted => rw [eq_of_send?_accepted sent]
  | gone => rw [eq_of_send?_gone sent]

/-- Sending adds at most one value. -/
theorem length_of_send? {c after : Channel α} {value : α} {delivery : Delivery}
    (sent : c.send? value = some (delivery, after)) :
    after.queue.length ≤ c.queue.length + 1 := by
  cases delivery with
  | accepted =>
      rw [eq_of_send?_accepted sent, List.length_append]
      exact Nat.le_refl _
  | gone => exact eq_of_send?_gone sent ▸ Nat.le_succ _

/-- The channel of converted values. -/
def map (f : α → β) (c : Channel α) : Channel β where
  capacity := c.capacity
  queue := c.queue.map f
  writers := c.writers
  reading := c.reading

/-- Converting nothing changes nothing. -/
@[simp] theorem map_id (c : Channel α) : c.map id = c := by
  simp only [map, List.map_id]

/-- A value that is put behind the others is converted behind them. -/
theorem map_concat (f : α → β) (c : Channel α) (value : α) :
    map f { c with queue := c.queue ++ [value] } =
      { c.map f with queue := (c.map f).queue ++ [f value] } := by
  simp only [map, List.map_append, List.map_singleton]

/-- What is taken from a converted channel is what is taken, converted. -/
theorem take?_map (f : α → β) (c : Channel α) :
    (c.map f).take? = c.take?.map fun (value, rest) => (f value, rest.map f) := by
  obtain ⟨capacity, queue, writers, reading⟩ := c
  cases queue <;> rfl

/-- Converting values neither ends a channel nor keeps it from ending. -/
theorem ended_map (f : α → β) (c : Channel α) : (c.map f).ended = c.ended := by
  simp only [ended, map, List.isEmpty_map]

end LinkGauge.Channel

namespace LinkGauge

/-!
## Channels whose ends may leave

A link is a channel with the writers it has left, and whether somebody still reads it
(`Link`). Whatever a writer or the reader does to the channel keeps the link (`Link.written`,
`Link.taken`). So a writer waits only for a reader that has something to take (`Link.blocked`), and
a reader only for writers that have not hung up (`Link.starved`).
-/

variable {α : Type}

/-- A channel with so many writers; a reader that is gone has seen the end or makes nobody
wait. -/
structure Link (c : Channel α) (writers : Nat) (reading : Bool) : Prop where
  writers : c.writers = writers
  gone : reading = false → c.ended = true ∨ c.reading = false
  room : 0 < c.capacity

namespace Link

/-- What one of the writers does. -/
inductive Written (c : Channel α) (writers : Nat) : Channel α → Nat → Prop where
  | same : Written c writers c writers
  | sent {value : α} {delivery : Delivery} {after : Channel α} (opened : writers ≠ 0)
      (sent : c.send? value = some (delivery, after)) : Written c writers after writers
  | hungUp {left : Nat} (one : writers = left + 1) : Written c writers c.hangUp left

/-- What the reader does. -/
inductive Taken (c : Channel α) : Bool → Channel α → Bool → Prop where
  | same {reading : Bool} : Taken c reading c reading
  | took {value : α} {rest : Channel α} (taken : c.take? = some (value, rest)) :
      Taken c true rest true
  | ended {reading : Bool} (ended : c.ended = true) : Taken c reading c false
  | left {reading : Bool} : Taken c reading c.stopReading false

variable {c after : Channel α} {writers remaining : Nat} {reading stays : Bool}

/-- Other writers do not matter for what one of them writes. -/
theorem Written.among (others : Nat) (written : Written c writers after remaining) :
    Written c (writers + others) after (remaining + others) := by
  cases written with
  | same => exact .same
  | sent opened sent => exact .sent (by omega) sent
  | hungUp one => exact .hungUp (by omega)

/-- A new channel has one writer and its reader. -/
theorem start : Link ({} : Channel α) 1 true := ⟨rfl, nofun, Nat.one_pos⟩

/-- A writer keeps the link. -/
theorem written (link : Link c writers reading) (written : Written c writers after remaining) :
    Link after remaining reading := by
  cases written with
  | same => exact link
  | @sent value delivery _ opened sent =>
      refine ⟨?_, fun left => ?_, ?_⟩
      · rw [Channel.eq_of_send? sent]
        exact link.writers
      · rcases link.gone left with ended | deaf
        · -- Nobody writes to a channel that has ended.
          exact absurd (link.writers.symm.trans (Channel.ended_iff.mp ended).2) opened
        · rw [Channel.eq_of_send? sent]
          exact .inr deaf
      · rw [Channel.eq_of_send? sent]
        exact link.room
  | hungUp one =>
      refine ⟨?_, fun left => (link.gone left).imp_left Channel.ended_hangUp, link.room⟩
      rw [Channel.hangUp, link.writers, one, Nat.add_sub_cancel]

/-- The reader keeps the link. -/
theorem taken (link : Link c writers reading) (taken : Taken c reading after stays) :
    Link after writers stays := by
  cases taken with
  | same => exact link
  | took taken =>
      rw [(Channel.take?_eq_some taken).2]
      exact ⟨link.writers, nofun, link.room⟩
  | ended ended => exact ⟨link.writers, fun _ => .inl ended, link.room⟩
  | left => exact ⟨link.writers, fun _ => .inr rfl, link.room⟩

/-- A writer waits only for a reader that has something to take. -/
theorem blocked (link : Link c writers reading) (full : c.ready = false) :
    reading = true ∧ c.queue ≠ [] := by
  have full : c.reading = true ∧ c.capacity ≤ c.queue.length := by
    simpa [Channel.ready] using full
  have queued : c.queue ≠ [] := by
    intro empty
    have room := link.room
    have capacity := full.2
    rw [empty, List.length_nil] at capacity
    omega
  refine ⟨?_, queued⟩
  cases reading with
  | true => rfl
  | false =>
      rcases link.gone rfl with ended | deaf
      · exact absurd (Channel.ended_iff.mp ended).1 queued
      · cases full.1.symm.trans deaf

/-- A reader waits only for writers that have not hung up. -/
theorem starved (link : Link c writers reading) (empty : c.queue = []) (goesOn : c.ended = false) :
    writers ≠ 0 := by
  intro nobody
  have ended := Channel.ended_iff.mpr ⟨empty, link.writers.trans nobody⟩
  exact nomatch goesOn.symm.trans ended

end Link

end LinkGauge
