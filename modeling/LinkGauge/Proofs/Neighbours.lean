import LinkGauge.Proofs.Channel
import LinkGauge.Proofs.Closer
import LinkGauge.Proofs.Ending
import LinkGauge.Proofs.Mux.Joining
import LinkGauge.Proofs.Receiver
import LinkGauge.Proofs.Saver.Merging
import LinkGauge.Proofs.Sender.Trace

/-!
# What stages do to their channels

Whatever a stage does, it treats the channels that it writes to and reads from as a writer and a
reader do: it sends only while it has a handle, hangs up once, and leaves a channel only at its
end or for good.
-/

namespace LinkGauge

open Link (Written Taken)

namespace Receiver

/-- Whether a receiver goes on. -/
def Activity.running : Activity → Bool
  | .finished => false
  | _ => true

private theorem Activity.running_of_ne {activity : Activity} (goesOn : activity ≠ .finished) :
    activity.running = true := by
  unfold running
  split
  · contradiction
  · rfl

/-- A measurer that does not run has finished. -/
theorem Activity.eq_finished {activity : Activity} (halted : activity.running = false) :
    activity = .finished := by
  by_contra goesOn
  exact nomatch halted.symm.trans (running_of_ne goesOn)

/-- A receiver writes to its output, or hangs up when it has finished. -/
theorem Moved.written {config : Config} {r : Receiver} {v : View} {next : Receiver × View}
    (moved : Moved config r v next) :
    Written v.output r.activity.running.toNat next.2.output next.1.activity.running.toNat := by
  rw [Activity.running_of_ne moved.running]
  cases moved.emission with
  | quiet nothing output goesOn =>
      rw [output, Activity.running_of_ne goesOn]
      exact .same
  | handed one sent goesOn =>
      rw [Activity.running_of_ne goesOn]
      exact .sent Nat.one_ne_zero sent
  | stopped nothing output ended =>
      rw [output, ended]
      exact .hungUp rfl

end Receiver

namespace Mux

/-- Whether a multiplexer goes on. -/
def Activity.running : Activity → Bool
  | .finished => false
  | _ => true

/-- A receiver that does not run has finished. -/
theorem Activity.eq_finished {activity : Activity} (halted : activity.running = false) :
    activity = .finished := by
  cases activity with
  | finished => rfl
  | selecting | loggingServer | releasing | loggingClient => cases halted

/-- A multiplexer that has finished has seen both ends, and it only releases something before the
end of the samples. -/
def Sound (m : Mux) : Prop :=
  match m.activity with
  | .finished => m.samplesOpen = false ∧ m.receivedOpen = false
  | .releasing _ => m.samplesOpen = true
  | _ => True

/-- What a multiplexer does to its channels. -/
structure Linked (m : Mux) (v : View) (next : Mux) (after : View) : Prop where
  samples : Taken v.samples m.samplesOpen after.samples next.samplesOpen
  received : Taken v.received m.receivedOpen after.received next.receivedOpen
  toSender : Written v.toSender m.samplesOpen.toNat after.toSender next.samplesOpen.toNat
  serverLog : Written v.serverLog m.activity.running.toNat after.serverLog
    next.activity.running.toNat
  clientLog : Written v.clientLog m.activity.running.toNat after.clientLog
    next.activity.running.toNat
  sound : next.Sound

variable {m next : Mux} {v after : View} {arrivals : List Arrival}

private theorem collect_opened (m : Mux) (sample : Measurement) (echo : Bool) :
    (m.collect sample echo).samplesOpen = m.samplesOpen ∧
      (m.collect sample echo).receivedOpen = m.receivedOpen ∧
      (m.collect sample echo).activity.running = true := by
  unfold collect
  cases echo with
  | false => exact ⟨rfl, rfl, rfl⟩
  | true =>
      refine ⟨rfl, rfl, ?_⟩
      rw [if_pos rfl]
      dsimp only
      split <;> rfl

private theorem linked_of_logServer {sample : Measurement} {echo : Bool} {delivery : Delivery}
    {serverLog : Channel Measurement} (logging : m.activity = .loggingServer sample echo)
    (sent : v.serverLog.send? sample = some (delivery, serverLog)) :
    Linked m v (m.collect sample echo) { v with serverLog } := by
  obtain ⟨samples, received, running⟩ := m.collect_opened sample echo
  have before : m.activity.running = true := by
    rw [logging]
    rfl
  constructor
  case sound =>
    unfold Sound
    split
    · next finished =>
        rw [finished] at running
        cases running
    · next releasing => exact samplesOpen_of_collect releasing
    · trivial
  case serverLog =>
    rw [before, running]
    exact .sent Nat.one_ne_zero sent
  all_goals
    simp only [samples, received, before, running]
    exact .same

/-- A multiplexer reads its inputs, writes its outputs, and hangs up when it has finished. -/
theorem Moved.linked (moved : Moved m v arrivals next after) (sound : m.Sound) :
    Linked m v next after := by
  obtain ⟨activity, pending, samplesOpen, receivedOpen⟩ := m
  cases moved with
  | takeSample selecting opened taken =>
      subst selecting opened
      exact ⟨.took taken, .same, .same, .same, .same, trivial⟩
  | endSamples selecting opened ended =>
      subst selecting opened
      exact ⟨.ended ended, .same, .hungUp rfl, .same, .same, trivial⟩
  | takeEcho selecting opened taken | takeMessage selecting opened taken =>
      subst selecting opened
      exact ⟨.same, .took taken, .same, .same, .same, trivial⟩
  | endReceived selecting opened ended =>
      subst selecting opened
      exact ⟨.same, .ended ended, .same, .same, .same, trivial⟩
  | finish selecting noSamples noReceived =>
      subst selecting noSamples noReceived
      exact ⟨.same, .same, .same, .hungUp rfl, .hungUp rfl, ⟨rfl, rfl⟩⟩
  | logServer logging sent =>
      subst logging
      exact linked_of_logServer rfl sent
  | release releasing sent =>
      subst releasing
      obtain rfl : samplesOpen = true := sound
      exact ⟨.same, .same, .sent Nat.one_ne_zero sent, .same, .same, trivial⟩
  | logClient logging sent =>
      subst logging
      exact ⟨.same, .same, .same, .same, .sent Nat.one_ne_zero sent, trivial⟩

end Mux

namespace Sender

variable {config : Config} {s : Sender} {v : View} {next : Sender × View}

/-- A sender writes its echoes, or hangs up when it hands on none any more. -/
theorem Moved.written (moved : Moved config s v next) :
    Written v.echo s.handsOn.toNat next.2.echo next.1.handsOn.toNat := by
  cases moved.handing with
  | written new texts unechoed echo goesOn =>
      rw [echo, goesOn]
      exact .same
  | echoed texts before after sent opened goesOn =>
      rw [opened, goesOn]
      exact .sent Nat.one_ne_zero sent
  | stopped texts before after echo opened ended =>
      rw [echo, opened, ended]
      exact .hungUp rfl

private theorem stop_running (s : Sender) (v : View) (result : Except SendError Unit) :
    (s.stop v result).1.result?.isNone = true ∧ (s.stop v result).2.source = v.source := by
  obtain ⟨outcome, log, stopped⟩ := exists_stop s v result
  rw [stopped]
  exact ⟨rfl, rfl⟩

private theorem beginWrite_running (s : Sender) (v : View) (frame : Frame) :
    (s.beginWrite v frame).1.result?.isNone = true ∧
      (s.beginWrite v frame).2.source = v.source := by
  unfold beginWrite
  split
  · exact stop_running s v _
  · split
    · exact stop_running s v _
    · exact ⟨rfl, rfl⟩

/-- A sender reads its source until it has finished. -/
theorem Moved.taken (moved : Moved config s v next) :
    Taken v.source s.result?.isNone next.2.source next.1.result?.isNone := by
  rw [moved.running]
  have stays {after : Sender × View}
      (kept : after.1.result?.isNone = true ∧ after.2.source = v.source) :
      Taken v.source true after.2.source after.1.result?.isNone := by
    rw [kept.1, kept.2]
    exact .same
  cases moved with
  | sendNext choosing taken =>
      obtain ⟨goesOn, source⟩ := beginWrite_running s { v with source := _ } (.text _)
      rw [goesOn, source]
      exact .took taken
  | sendClose | sendFiller | sendPing => exact stays (beginWrite_running s v _)
  | @land flight _ writing landed whole =>
      obtain ⟨frame, ends, failure⟩ := flight
      cases frame with
      | text | binary | ping => exact stays ⟨rfl, rfl⟩
      | close => exact stays (stop_running s _ _)
  | fail => exact stays ⟨rfl, rfl⟩
  | expire | interrupt | excuse | giveUp => exact stays (stop_running s v _)
  | echo echoing sent =>
      refine stays ⟨?_, rfl⟩
      rw [result?]
      dsimp only
      split
      · next finished =>
          split at finished <;> cases finished
      · rfl
  | drain draining taken =>
      dsimp only
      rw [result?, draining]
      exact .took taken
  | finish draining nothing ended => exact .ended ended

end Sender

namespace Forwarder

/-- Whether a forwarder goes on. -/
def running : Forwarder → Bool
  | .finished => false
  | _ => true

variable {α : Type} {label : α → Record} {f next : Forwarder} {v after : View α}

/-- A forwarder that runs can write. -/
theorem handles_of_running (goesOn : f.running = true) : f.handles = 1 := by
  cases f with
  | waiting | holding => rfl
  | finished => cases goesOn

/-- A forwarder reads its source, or leaves it when it has finished. -/
theorem Moved.taken (moved : Moved label v f next after) :
    Taken v.source f.running after.source next.running := by
  cases moved with
  | take taken => exact .took taken
  | finish nothing ended => exact .ended ended
  | hand => exact .same

/-- A forwarder writes to the saver, or hangs up when it has finished. -/
theorem Moved.written (moved : Moved label v f next after) :
    Written v.merged f.handles after.merged next.handles := by
  cases moved with
  | take => exact .same
  | finish => exact .hungUp rfl
  | hand sent => exact .sent Nat.one_ne_zero sent

end Forwarder

/-- A saver reads what is merged, or leaves it when it has finished. -/
theorem Saver.Moved.taken {s next : Saver} {v after : View} (moved : Moved s v next after) :
    Taken v.merged (!s.finished) after.merged (!next.finished) := by
  cases moved with
  | save unfinished taken =>
      rw [unfinished, save_merged, save_finished, unfinished]
      exact .took taken
  | finish unfinished nothing ended => exact .ended ended

/-- A supervisor writes its report, or hangs up when it has none any more. -/
theorem Supervisor.Moved.written {clock : Nanos → UtcTime} {s : Supervisor} {v : View}
    {next : Supervisor × View} (moved : Moved clock s v next) :
    Written v.errors (Ending.reports s).toNat next.2.errors (Ending.reports next.1).toNat := by
  cases moved with
  | timeEnd awaiting | collect awaiting | finish awaiting =>
      rw [awaiting]
      exact .same
  | hangUp reporting =>
      rw [reporting]
      exact .hungUp rfl
  | report reporting sent =>
      rw [reporting]
      exact .sent Nat.one_ne_zero sent

/-- A closer reads the reports until it has its outcome. -/
theorem Closer.Moved.taken {ceiling : Nanos} {c : Closer} {v : View} {event : Event}
    {next : Closer × View} (moved : Moved ceiling c v event next) :
    Taken v.outcome c.outcome?.isNone next.2.outcome next.1.outcome?.isNone := by
  cases moved with
  | hear waiting taken =>
      obtain ⟨-, rest⟩ := Channel.take?_eq_some taken
      rw [settle, rest]
      exact .left
  | succeed | expire => exact .left
  | close closing =>
      rw [closing]
      exact .same

end LinkGauge
