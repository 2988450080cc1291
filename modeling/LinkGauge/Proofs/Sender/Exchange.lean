import LinkGauge.Proofs.Sender.Writing

/-!
# The exchange of a ping run

A ping run begins with a ping and follows every measurement with a ping; a close frame comes last.
Whatever happens to its sender, the frames that it has written are the beginning of such an
exchange, with no more measurements than have arrived (`Sender.exchanges_of_run`).
-/

namespace LinkGauge

inductive Frame.Kind where
  | text
  | binary
  | ping
  | close
  deriving DecidableEq, Repr

def Frame.kind : Frame → Kind
  | .text _ => .text
  | .binary _ => .binary
  | .ping _ => .ping
  | .close => .close

namespace Sender

/-- A ping, and then the given number of measurements, each with a ping behind it. -/
def exchange (n : Nat) : List Frame.Kind :=
  .ping :: (List.replicate n [Frame.Kind.text, .ping]).flatten

private theorem exchange_succ (n : Nat) : exchange (n + 1) = exchange n ++ [.text, .ping] := by
  rw [exchange, exchange, List.replicate_succ', List.flatten_concat, List.cons_append]

private theorem count_ping_exchange (n : Nat) : (exchange n).count .ping = n + 1 := by
  induction n with
  | zero => rfl
  | succ n ih => rw [exchange_succ, List.count_append, ih]; rfl

/-- The ping that a sender of a ping run still has to write. -/
def owed (s : Sender) : List Frame.Kind :=
  match s.activity with
  | .pinging | .echoing _ => [.ping]
  | .writing flight _ => if flight.frame.kind = .ping then [.ping] else []
  | _ => []

/-- What has been written, against where the sender of a ping run stands. -/
structure Exchanges (events : List Event) (s : Sender) : Prop where
  going : s.activity.ongoing = true →
    (writtenOf events).map Frame.kind ++ s.owed = exchange (textsOf events).length
  early : (writtenOf events).map Frame.kind <+: exchange (textsOf events).length ++ [.close]
  complete : .wrote .close ∈ events →
    (writtenOf events).map Frame.kind = exchange (textsOf events).length ++ [.close]

variable {config : Config} {first v : View} {s : Sender} {events : List Event}

private theorem exchanges_new (ping : config.subtest = .ping) : Exchanges [] (new config) where
  going _ := by
    have pinging : (new config).activity = .pinging := if_pos ping
    rw [owed, pinging]
    rfl
  early := List.nil_prefix
  complete := nofun

private theorem Choice.owed {frame : Frame} {source : Channel Measurement}
    (choice : Choice config s v frame source) :
    s.owed = if frame.kind = .ping then [.ping] else [] := by
  cases choice <;> simp only [Sender.owed, Frame.kind, *] <;> rfl

namespace Exchanges

private theorem silent (exchanges : Exchanges events s) {event : Event} {t : Sender}
    (nothing : event.wrote? = none)
    (still : t.activity.ongoing = true → s.activity.ongoing = true ∧ t.owed = s.owed) :
    Exchanges (events ++ [event]) t := by
  have written : writtenOf (events ++ [event]) = writtenOf events := by
    rw [writtenOf_concat, nothing, Option.toList_none, List.append_nil]
  have texts : textsOf (events ++ [event]) = textsOf events := by
    rw [textsOf, written, textsOf]
  refine ⟨fun ongoing => ?_, ?_, fun wrote => ?_⟩
  · obtain ⟨before, same⟩ := still ongoing
    rw [written, texts, same, exchanges.going before]
  · rw [written, texts]
    exact exchanges.early
  · rw [written, texts]
    rcases List.mem_append.mp wrote with earlier | now
    · exact exchanges.complete earlier
    · rw [← List.mem_singleton.mp now] at nothing
      cases nothing

private theorem land (exchanges : Exchanges events s) (books : Books config first events s v)
    (ping : config.subtest = .ping) {flight : Flight} {begun : Nanos}
    (writing : s.activity = .writing flight begun) (w : View) :
    Exchanges (events ++ [.wrote flight.frame]) (s.written w flight.frame).1 := by
  have ongoing : s.activity.ongoing = true := by
    rw [writing]
    rfl
  have going := exchanges.going ongoing
  have unclosed := (books.ongoing.mp ongoing).2
  obtain ⟨⟨source, chosen, due⟩, -, -⟩ := books.writing flight begun writing
  obtain ⟨frame, ends, failure⟩ := flight
  simp only [owed, writing] at going
  cases frame with
  | text m =>
      have whole : (writtenOf (events ++ [.wrote (.text m)])).map Frame.kind ++ [.ping] =
          exchange (textsOf (events ++ [.wrote (.text m)])).length := by
        have before : (writtenOf events).map Frame.kind = exchange (textsOf events).length := by
          simpa [Frame.kind] using going
        simp [before, exchange_succ, Frame.kind, Frame.text?]
      refine ⟨fun _ => whole, ?_, fun wrote => ?_⟩
      · exact (whole ▸ List.prefix_append _ _).trans (List.prefix_append _ _)
      · exact absurd wrote (by simpa using unclosed)
  | ping stamp =>
      have whole : (writtenOf (events ++ [.wrote (.ping stamp)])).map Frame.kind =
          exchange (textsOf (events ++ [.wrote (.ping stamp)])).length := by
        simpa [Frame.kind, Frame.text?] using going
      refine ⟨fun _ => (List.append_nil _).trans whole, ?_, fun wrote => ?_⟩
      · exact whole ▸ List.prefix_append _ _
      · exact absurd wrote (by simpa using unclosed)
  | close =>
      have whole : (writtenOf (events ++ [.wrote .close])).map Frame.kind =
          exchange (textsOf (events ++ [.wrote .close])).length ++ [.close] := by
        have before : (writtenOf events).map Frame.kind = exchange (textsOf events).length := by
          simpa [Frame.kind] using going
        simp [before, Frame.kind, Frame.text?]
      exact ⟨nofun, whole ▸ List.prefix_rfl, fun _ => whole⟩
  | binary size => exact nomatch ping.symm.trans due.1

private theorem act (exchanges : Exchanges events s) (books : Books config first events s v)
    (ping : config.subtest = .ping) {more : List Event} {next : Sender × View}
    (acted : Acted config s v more next) : Exchanges (events ++ more) next.1 := by
  cases acted with
  | @begin frame source flight wire choice own same =>
      refine exchanges.silent rfl fun _ => ⟨choice.ongoing.1, ?_⟩
      rw [choice.owed, ← own]
      rfl
  | land writing => exact exchanges.land books ping writing _
  | fail ongoing unechoed stopped unfinished left kept =>
      refine exchanges.silent rfl fun ongoing => ?_
      rw [stopped] at ongoing
      cases ongoing
  | hand echoing sent =>
      refine exchanges.silent rfl fun _ => ?_
      rw [if_pos ping, echoing, owed, owed, echoing]
      exact ⟨rfl, rfl⟩
  | rest before after left kept ended =>
      rw [List.append_nil]
      refine ⟨fun ongoing => ?_, exchanges.early, exchanges.complete⟩
      rw [after] at ongoing
      cases ongoing

private theorem step (exchanges : Exchanges events s) (books : Books config first events s v)
    (ping : config.subtest = .ping) {more : List Event} {next : Sender × View}
    (step : Step config (s, v) more next) : Exchanges (events ++ more) next.1 := by
  cases step with
  | move moved => exact exchanges.act books ping (mem_moves_iff.mp moved).acted
  | arrive | read => exact exchanges.silent rfl fun ongoing => ⟨ongoing, rfl⟩
  | hangUp | leave | outside =>
      rw [List.append_nil]
      exact exchanges

end Exchanges

/-- What a ping run has written is the beginning of an exchange. -/
theorem exchanges_of_run {next : Sender × View} (ping : config.subtest = .ping)
    (run : Run (Step config) (new config, first) events next) : Exchanges events next.1 := by
  have both : Books config first events next.1 next.2 ∧ Exchanges events next.1 := by
    refine run.keeps
      (fun events next => Books config first events next.1 next.2 ∧ Exchanges events next.1)
      ⟨books_new config first, exchanges_new ping⟩ ?_
    rintro events more s t ⟨books, exchanges⟩ step
    exact ⟨books.step step, exchanges.step books ping step⟩
  exact both.2

/-- There are as many texts as frames that are texts. -/
theorem length_textsOf (events : List Event) :
    (textsOf events).length = ((writtenOf events).map Frame.kind).count .text := by
  rw [textsOf]
  induction writtenOf events with
  | nil => rfl
  | cons frame rest ih =>
      rw [List.map_cons, List.count_cons, ← ih]
      cases frame <;> rfl

/-- There is at most one ping more than there are measurements. -/
theorem Exchanges.pings_le (exchanges : Exchanges events s) :
    ((writtenOf events).map Frame.kind).count .ping ≤ (textsOf events).length + 1 := by
  have whole : (exchange (textsOf events).length ++ [Frame.Kind.close]).count .ping =
      (textsOf events).length + 1 := by
    rw [List.count_append, count_ping_exchange]
    rfl
  exact whole ▸ exchanges.early.sublist.count_le .ping

/-- The measurements written are no more than those that have arrived. -/
theorem Books.texts_le (books : Books config first events s v) :
    (textsOf events).length ≤ first.source.queue.length + (arrivedOf events).length := by
  obtain ⟨taken, conserved, enough, -⟩ := books.taken
  have length := congrArg List.length conserved
  rw [List.length_append, List.length_append] at length
  omega

end Sender

end LinkGauge
