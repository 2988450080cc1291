import LinkGauge.Stage.Sender

/-!
# The moves of a sender

`Sender.Moved` says what a sender can do in each of its activities. What it does to the
measurements that it has written and still hands on is one of three things
(`Sender.Handing`): they grow by what is written now, one of them is handed on, or
there are none and the sender stops.
-/

namespace LinkGauge

/-- The measurement in a frame. -/
def Frame.text? : Frame → Option Measurement
  | .text m => some m
  | _ => none

namespace Wire

/-- The measurements that were sent, oldest first. -/
def texts (w : Wire) : List Measurement := w.sent.reverse.filterMap fun (_, frame) => frame.text?

/-- The texts on a wire depend only on what was sent. -/
theorem texts_congr {w other : Wire} (same : w.sent = other.sent) : w.texts = other.texts := by
  rw [texts, same, texts]

private theorem texts_deliver (w : Wire) (frame : Frame) (now : Nanos) :
    (w.deliver frame now).texts = w.texts ++ frame.text?.toList := by
  have sent : (w.deliver frame now).sent = (now, frame) :: w.sent := rfl
  rw [texts, sent, List.reverse_cons, List.filterMap_append, ← texts]
  cases frame <;> rfl

/-- A write that has begun is the write of its frame. -/
theorem startWrite_frame (w : Wire) (frame : Frame) (now : Nanos) :
    (w.startWrite frame now).1.frame = frame := by
  unfold startWrite
  dsimp only
  split
  · rfl
  · split <;> rfl

end Wire

namespace Sender

/-- What a sender can do. -/
inductive Moved (config : Config) (s : Sender) (v : View) : Sender × View → Prop where
  | sendNext {m : Measurement} {source : Channel Measurement} (choosing : s.activity = .choosing)
      (taken : v.source.take? = some (m, source)) :
      Moved config s v (s.beginWrite { v with source }
        (.text (if config.subtest = .download then s.counted config v.now m else m)))
  | sendClose (choosing : s.activity = .choosing) (nothing : v.source.take? = none)
      (ended : v.source.ended = true) : Moved config s v (s.beginWrite v .close)
  | sendFiller (choosing : s.activity = .choosing) (nothing : v.source.take? = none)
      (goesOn : v.source.ended = false) (download : config.subtest = .download) :
      Moved config s v (s.beginWrite v (.binary s.filler.size))
  | sendPing (pinging : s.activity = .pinging) :
      Moved config s v
        (s.beginWrite v (.ping (.ofElapsed (elapsedSince config.start v.now))))
  | land {flight : Flight} {begun : Nanos} (writing : s.activity = .writing flight begun)
      (landed : flight.ends.any (· ≤ v.now) = true) (whole : flight.failure = none) :
      Moved config s v
        (s.written { v with wire := v.wire.deliver flight.frame v.now } flight.frame)
  | fail {flight : Flight} {begun : Nanos} {reason : String}
      (writing : s.activity = .writing flight begun)
      (landed : flight.ends.any (· ≤ v.now) = true) (broken : flight.failure = some reason) :
      Moved config s v ({ s with activity := .grace reason (v.now + closeGrace) }, v)
  | expire {flight : Flight} {begun : Nanos} (writing : s.activity = .writing flight begun)
      (underWay : flight.ends.any (· ≤ v.now) = false)
      (late : begun + config.ioTimeout ≤ v.now) :
      Moved config s v (s.stop v (.error (.timedOut config.ioTimeout)))
  | interrupt {flight : Flight} {begun : Nanos} (writing : s.activity = .writing flight begun)
      (closed : v.connection.closed = true) :
      Moved config s v (s.stop v (.error .connectionClosed))
  | excuse {reason : String} {ends : Nanos} (grace : s.activity = .grace reason ends)
      (peerClosed : v.connection.peerClosed = true) :
      Moved config s v (s.stop v (.error .peerClosed))
  | giveUp {reason : String} {ends : Nanos} (grace : s.activity = .grace reason ends)
      (peerOpen : v.connection.peerClosed = false) (late : ends ≤ v.now) :
      Moved config s v (s.stop v (.error (.writeFailed reason)))
  | echo {m : Measurement} {delivery : Delivery} {echo : Channel Measurement}
      (echoing : s.activity = .echoing m) (sent : v.echo.send? m = some (delivery, echo)) :
      Moved config s v
        ({ s with activity := if config.subtest = .ping then .pinging else .choosing },
          { v with echo })
  | drain {result : Except SendError Unit} {m : Measurement} {source : Channel Measurement}
      (draining : s.activity = .draining result) (taken : v.source.take? = some (m, source)) :
      Moved config s v (s, { v with source })
  | finish {result : Except SendError Unit} (draining : s.activity = .draining result)
      (nothing : v.source.take? = none) (ended : v.source.ended = true) :
      Moved config s v ({ s with activity := .finished result }, v)

variable {config : Config} {s : Sender} {v : View} {next : Sender × View}

private theorem moved_of_mem_choose (choosing : s.activity = .choosing)
    (member : next ∈ s.choose config v) : Moved config s v next := by
  unfold choose at member
  split at member
  · next m source taken =>
      rw [List.mem_singleton.mp member]
      exact .sendNext choosing taken
  · next nothing =>
      split at member
      · next ended =>
          rw [List.mem_singleton.mp member]
          exact .sendClose choosing nothing ended
      · next goesOn =>
          split at member
          · next download =>
              rw [List.mem_singleton.mp member]
              exact .sendFiller choosing nothing (Bool.eq_false_iff.mpr goesOn) download
          · cases member

private theorem moved_of_mem_await {flight : Flight} {begun : Nanos}
    (writing : s.activity = .writing flight begun)
    (member : next ∈ s.await config v flight begun) : Moved config s v next := by
  unfold await at member
  rcases List.mem_append.mp member with ended | interrupted
  · split at ended
    · next landed =>
        split at ended
        · next whole =>
            rw [List.mem_singleton.mp ended]
            exact .land writing landed whole
        · next broken =>
            rw [List.mem_singleton.mp ended]
            exact .fail writing landed broken
    · next underWay =>
        split at ended
        · next late =>
            rw [List.mem_singleton.mp ended]
            exact .expire writing (Bool.eq_false_iff.mpr underWay) late
        · cases ended
  · split at interrupted
    · next closed =>
        rw [List.mem_singleton.mp interrupted]
        exact .interrupt writing closed
    · cases interrupted

/-- A move of the sender is one that `Moved` describes. -/
theorem moved_of_mem_moves (member : next ∈ s.moves config v) : Moved config s v next := by
  unfold moves at member
  split at member
  · next choosing => exact moved_of_mem_choose choosing member
  · next pinging =>
      rw [List.mem_singleton.mp member]
      exact .sendPing pinging
  · next writing => exact moved_of_mem_await writing member
  · next grace =>
      split at member
      · next peerClosed =>
          rw [List.mem_singleton.mp member]
          exact .excuse grace peerClosed
      · next peerOpen =>
          split at member
          · next late =>
              rw [List.mem_singleton.mp member]
              exact .giveUp grace (Bool.eq_false_iff.mpr peerOpen) late
          · cases member
  · next echoing =>
      split at member
      · next sent =>
          rw [List.mem_singleton.mp member]
          exact .echo echoing sent
      · cases member
  · next draining =>
      split at member
      · next taken =>
          rw [List.mem_singleton.mp member]
          exact .drain draining taken
      · next nothing =>
          split at member
          · next ended =>
              rw [List.mem_singleton.mp member]
              exact .finish draining nothing ended
          · cases member
  · cases member

private theorem mem_moves_of_moved (moved : Moved config s v next) : next ∈ s.moves config v := by
  cases moved with
  | sendNext choosing taken => simp only [moves, choosing, choose, taken, List.mem_singleton]
  | sendClose choosing nothing ended =>
      simp only [moves, choosing, choose, nothing, ended, ↓reduceIte, List.mem_singleton]
  | sendFiller choosing nothing goesOn download =>
      simp only [moves, choosing, choose, nothing, goesOn, download, Bool.false_eq_true, ↓reduceIte,
        List.mem_singleton]
  | sendPing pinging => simp only [moves, pinging, List.mem_singleton]
  | land writing landed whole =>
      simp only [moves, writing, await, landed, whole, ↓reduceIte, List.mem_append,
        List.mem_singleton, true_or]
  | fail writing landed broken =>
      simp only [moves, writing, await, landed, broken, ↓reduceIte, List.mem_append,
        List.mem_singleton, true_or]
  | expire writing underWay late =>
      simp only [moves, writing, await, underWay, late, Bool.false_eq_true, ↓reduceIte,
        List.mem_append, List.mem_singleton, true_or]
  | interrupt writing closed =>
      simp only [moves, writing, await, closed, ↓reduceIte, List.mem_append, List.mem_singleton,
        or_true]
  | excuse grace peerClosed =>
      simp only [moves, grace, peerClosed, ↓reduceIte, List.mem_singleton]
  | giveUp grace peerOpen late =>
      simp only [moves, grace, peerOpen, late, Bool.false_eq_true, ↓reduceIte, List.mem_singleton]
  | echo echoing sent => simp only [moves, echoing, sent, List.mem_singleton]
  | drain draining taken => simp only [moves, draining, taken, List.mem_singleton]
  | finish draining nothing ended =>
      simp only [moves, draining, nothing, ended, ↓reduceIte, List.mem_singleton]

/-- The moves of a sender are those that `Moved` describes. -/
theorem mem_moves_iff : next ∈ s.moves config v ↔ Moved config s v next :=
  ⟨moved_of_mem_moves, mem_moves_of_moved⟩

/-- Only a sender without a result moves. -/
theorem Moved.running (moved : Moved config s v next) : s.result? = none := by
  cases moved <;> simp only [result?, *]

/-- The measurement that a sender hands on. -/
def unechoed (s : Sender) : List Measurement :=
  match s.activity with
  | .echoing m => [m]
  | _ => []

/-- Whether a sender may still hand on measurements. -/
def handsOn (s : Sender) : Bool :=
  match s.activity with
  | .draining _ | .finished _ => false
  | _ => true

/-- A sender that hands nothing on has nothing to hand on. -/
theorem unechoed_of_handsOn (stopped : s.handsOn = false) : s.unechoed = [] := by
  unfold handsOn at stopped
  unfold unechoed
  split
  · next echoing =>
      rw [echoing] at stopped
      cases stopped
  · rfl

/-- A sender that has finished hands nothing on. -/
theorem handsOn_of_finished (finished : s.result?.isSome = true) : s.handsOn = false := by
  unfold result? at finished
  split at finished
  · next stopped => rw [handsOn, stopped]
  · cases finished

/-- What a move does to the measurements that have been written and handed on. -/
inductive Handing (s : Sender) (v : View) (next : Sender × View) : Prop where
  | written (new : List Measurement) (texts : next.2.wire.texts = v.wire.texts ++ new)
      (unechoed : next.1.unechoed = s.unechoed ++ new) (echo : next.2.echo = v.echo)
      (goesOn : next.1.handsOn = s.handsOn)
  | echoed {m : Measurement} {delivery : Delivery} (texts : next.2.wire.texts = v.wire.texts)
      (before : s.unechoed = [m]) (after : next.1.unechoed = [])
      (sent : v.echo.send? m = some (delivery, next.2.echo)) (opened : s.handsOn = true)
      (goesOn : next.1.handsOn = true)
  | stopped (texts : next.2.wire.texts = v.wire.texts) (before : s.unechoed = [])
      (after : next.1.unechoed = []) (echo : next.2.echo = v.echo.hangUp)
      (opened : s.handsOn = true) (ended : next.1.handsOn = false)

private theorem handing_stop (nothing : s.unechoed = []) (opened : s.handsOn = true)
    (result : Except SendError Unit) : Handing s v (s.stop v result) := by
  unfold stop
  split <;> exact .stopped rfl nothing rfl rfl opened rfl

private theorem handing_beginWrite (nothing : s.unechoed = []) (opened : s.handsOn = true)
    {w : View} (wire : w.wire = v.wire) (echo : w.echo = v.echo) (frame : Frame) :
    Handing s v (s.beginWrite w frame) := by
  have stopped : ∀ error, Handing s v (s.stop w error) := by
    intro error
    cases handing_stop (v := w) nothing opened error with
    | written new texts unechoed echoKept goesOn =>
        exact .written new (texts.trans (by rw [wire])) unechoed (echoKept.trans echo) goesOn
    | echoed texts before after sent opened goesOn =>
        exact .echoed (texts.trans (by rw [wire])) before after (echo ▸ sent) opened goesOn
    | stopped texts before after hungUp opened ended =>
        exact .stopped (texts.trans (by rw [wire])) before after (by rw [hungUp, echo]) opened ended
  unfold beginWrite
  split
  · exact stopped _
  · split
    · exact stopped _
    · have kept : [] = s.unechoed ++ [] := by rw [nothing, List.append_nil]
      refine .written [] ?_ kept echo opened.symm
      rw [List.append_nil, ← wire]
      rfl

private theorem handing_written (nothing : s.unechoed = []) (opened : s.handsOn = true)
    (frame : Frame) :
    Handing s v (s.written { v with wire := v.wire.deliver frame v.now } frame) := by
  have texts := v.wire.texts_deliver frame v.now
  have kept (new : List Measurement) : new = s.unechoed ++ new := by rw [nothing, List.nil_append]
  cases frame with
  | text m => exact .written [m] texts (kept _) rfl opened.symm
  | binary size => exact .written [] texts (kept _) rfl opened.symm
  | ping stamp => exact .written [] texts (kept _) rfl opened.symm
  | close => exact .stopped (texts.trans (List.append_nil _)) nothing rfl rfl opened rfl

/-- What a move hands on is what was written and not yet handed on. -/
theorem Moved.handing (moved : Moved config s v next) : Handing s v next := by
  obtain ⟨activity, filler⟩ := s
  cases moved with
  | sendNext choosing taken =>
      subst choosing
      exact handing_beginWrite (by rfl) (by rfl) (by rfl) (by rfl) _
  | sendClose choosing nothing ended =>
      subst choosing
      exact handing_beginWrite (by rfl) (by rfl) (by rfl) (by rfl) _
  | sendFiller choosing nothing goesOn download =>
      subst choosing
      exact handing_beginWrite (by rfl) (by rfl) (by rfl) (by rfl) _
  | sendPing pinging =>
      subst pinging
      exact handing_beginWrite (by rfl) (by rfl) (by rfl) (by rfl) _
  | land writing landed whole =>
      subst writing
      exact handing_written rfl rfl _
  | fail writing landed broken =>
      subst writing
      exact .written [] (List.append_nil _).symm rfl rfl rfl
  | expire writing underWay late =>
      subst writing
      exact handing_stop rfl rfl _
  | interrupt writing closed =>
      subst writing
      exact handing_stop rfl rfl _
  | excuse grace peerClosed =>
      subst grace
      exact handing_stop rfl rfl _
  | giveUp grace peerOpen late =>
      subst grace
      exact handing_stop rfl rfl _
  | echo echoing sent =>
      subst echoing
      have goesOn : ∀ ping : Prop, [Decidable ping] →
          (⟨if ping then .pinging else .choosing, filler⟩ : Sender).handsOn = true ∧
          (⟨if ping then .pinging else .choosing, filler⟩ : Sender).unechoed = [] := by
        intro ping _
        split <;> exact ⟨rfl, rfl⟩
      exact .echoed rfl rfl (goesOn _).2 sent rfl (goesOn _).1
  | drain draining taken =>
      subst draining
      exact .written [] (List.append_nil _).symm rfl rfl rfl
  | finish draining nothing ended =>
      subst draining
      exact .written [] (List.append_nil _).symm rfl rfl rfl

end Sender

end LinkGauge
