import LinkGauge.Proofs.Sender.Progress
import LinkGauge.Proofs.Sender.Trace
import LinkGauge.Proofs.Sender.Writing
import LinkGauge.Rehearsal.Sender

/-!
# What a download writes

A rehearsal of a sender is one of its runs, and what a download writes on a run is known from
its source (`Sender.download_writes`).
-/

namespace LinkGauge.Rehearsal.SenderWorld

/-!
## Rehearsals of a sender are runs

A rehearsal gives a sender a feeder, a consumer and scripted events on its connection. What they
do are steps that may happen at a sender, so a rehearsal is one of its runs
(`SenderWorld.Fed.machine_run`).
-/

/-- The feeder and the source of a rehearsed sender agree on whether more is to come. -/
structure Fed (config : Sender.Config) (w : SenderWorld) : Prop where
  config : w.config = config
  writers : w.feeder.closed = false → w.view.source.writers ≠ 0
  closed : w.feeder.closed = true → w.feeder.entries = []

/-- A step of a rehearsal is one of the sender among its neighbours. -/
def Step (config : Sender.Config) (w : SenderWorld) (more : List Sender.Event)
    (next : SenderWorld) : Prop :=
  Fed config w ∧ Fed config next ∧
    Sender.Step config (w.sender, w.view) more (next.sender, next.view)

variable {config : Sender.Config} {w next : SenderWorld} {events : List Sender.Event}

private theorem Fed.feed {feeder : Feeder Measurement} {source : Channel Measurement}
    (fed : Fed config w)
    (fedOn : w.feeder.step? w.view.now w.view.source = some (feeder, source)) :
    ∃ more, Step config w more { w with feeder, view := { w.view with source } } := by
  unfold Feeder.step? at fedOn
  split at fedOn
  · next time value rest entries =>
      split at fedOn
      · obtain ⟨⟨delivery, sent⟩, accepted, same⟩ := Option.map_eq_some_iff.mp fedOn
        cases same
        have opened : w.feeder.closed = false := by
          refine Bool.eq_false_iff.mpr fun closed => ?_
          rw [fed.closed closed] at entries
          cases entries
        cases delivery with
        | accepted =>
            have writers := fed.writers opened
            have kept := Channel.eq_of_send?_accepted accepted
            refine ⟨_, fed, ⟨fed.config, fun _ => ?_, fun closed => ?_⟩, .arrive writers accepted⟩
            · rw [kept]
              exact writers
            · exact absurd (opened.symm.trans closed) Bool.false_ne_true
        | gone =>
            have kept := Channel.eq_of_send?_gone accepted
            subst kept
            refine ⟨[], fed, ⟨fed.config, fun _ => fed.writers opened, fun closed => ?_⟩, ?_⟩
            · exact absurd (opened.symm.trans closed) Bool.false_ne_true
            · exact .outside (Nat.le_refl _) rfl
      · cases fedOn
  · next entries =>
      split at fedOn
      · cases fedOn
        exact ⟨[], fed, ⟨fed.config, nofun, fun _ => entries⟩, .hangUp⟩
      · cases fedOn

private theorem Fed.consume {consumer : Consumer Measurement} {echo : Channel Measurement}
    (fed : Fed config w)
    (consumed : w.consumer.step? w.view.now w.view.echo = some (consumer, echo)) :
    ∃ more, Step config w more { w with consumer, view := { w.view with echo } } := by
  have after : Fed config { w with consumer, view := { w.view with echo } } :=
    ⟨fed.config, fed.writers, fed.closed⟩
  unfold Consumer.step? at consumed
  split at consumed
  · cases consumed
  · split at consumed
    · cases consumed
      exact ⟨[], fed, after, .leave⟩
    · split at consumed
      · next taken =>
          cases consumed
          exact ⟨_, fed, after, .read taken⟩
      · split at consumed
        · cases consumed
          exact ⟨[], fed, after, .outside (Nat.le_refl _) rfl⟩
        · cases consumed

private theorem Fed.step_of_step? (fed : Fed config w) (moved : w.step? = some next) :
    ∃ more, Step config w more next := by
  unfold step? at moved
  split at moved
  · next event _ _ =>
      cases moved
      refine ⟨[], fed, ⟨fed.config, ?_, fed.closed⟩, ?_⟩
      · cases event <;> exact fed.writers
      · cases event <;> exact .outside (Nat.le_refl _) rfl
  · split at moved
    · next fedOn =>
        cases moved
        exact fed.feed fedOn
    · split at moved
      · next sender view first =>
          cases moved
          have member : (sender, view) ∈ w.sender.moves config w.view := by
            rw [← fed.config]
            exact List.mem_of_mem_head? first
          obtain ⟨queue, same⟩ := (Sender.mem_moves_iff.mp member).acted.keeps.source
          refine ⟨_, fed, ⟨fed.config, fun opened => ?_, fed.closed⟩, .move member⟩
          dsimp only at same ⊢
          rw [same]
          exact fed.writers opened
      · obtain ⟨⟨consumer, echo⟩, consumed, same⟩ := Option.map_eq_some_iff.mp moved
        cases same
        exact fed.consume consumed

/-- A rehearsal of a sender is a run. -/
theorem Fed.machine_run (fed : Fed config w) (steps : Nat) :
    ∃ all, Run (Sender.Step config) (w.sender, w.view) all
      ((machine.run steps w).sender, (machine.run steps w).view) := by
  have fedAlong : ∀ {events next}, Run (Step config) w events next → Fed config next := by
    intro events next run
    cases run with
    | stay => exact fed
    | next _ moved => exact moved.2.1
  obtain ⟨all, run⟩ : ∃ all, Run (Step config) w all (machine.run steps w) := by
    refine Run.stay.execute machine ?_ ?_ steps
    · intro events w next run moved
      exact (fedAlong run).step_of_step? moved
    · intro events w time run alarm
      have fed := fedAlong run
      have later : w.view.now ≤ time := Machine.le_of_nextAlarm? alarm
      exact ⟨[], fed, ⟨fed.config, fed.writers, fed.closed⟩, .outside later rfl⟩
  exact ⟨all, run.map (fun w => (w.sender, w.view)) fun step => step.2.2⟩

end LinkGauge.Rehearsal.SenderWorld

namespace LinkGauge

/-!
## What a download writes

A download writes the measurements of its source in their order, each with the bytes of filler
written before it, and fills the gaps between them; a close frame comes behind the last of them.
After a failed write it writes nothing, but takes everything from its source
(`Sender.download_writes`).
-/

namespace Sender

/-- When a download may write a frame that was chosen at that moment and from that source;
`sources` is all that the source has been given. -/
def DueInDownload (config : Config) (sources : List Measurement) (early : List Event)
    (moment : Nanos) (source : Channel Measurement) : Frame → Prop
  | .text m => ∃ original app, sources[(textsOf early).length]? = some original ∧
      m = { original with appInfo := some app } ∧ app.numBytes.toInt = fillerOf early ∧
        app.elapsedTime = micros (elapsedSince config.start moment)
  | .binary _ => source.queue = [] ∧ source.writers ≠ 0
  | .ping _ => False
  | .close => source.ended = true ∧ (textsOf early).length = sources.length

variable {config : Config} {events : List Event} {s : Sender} {w : View}

private theorem Due.download {before : List Measurement} {early : List Event} {moment : Nanos}
    {source : Channel Measurement} {frame : Frame} (download : config.subtest = .download)
    (few : fillerOf early ≤ Int64.maxValue.toInt)
    (due : Due config before early moment source frame) :
    DueInDownload config (before ++ arrivedOf early) early moment source frame := by
  cases frame with
  | text m =>
      obtain ⟨original, there, framed⟩ := due
      refine ⟨original, _, there, framed.trans (if_pos download), ?_, rfl⟩
      rw [Int64.toInt_maxValue] at few
      exact Int64.toInt_ofInt_of_le (by omega) (by omega)
  | binary size => exact due.2
  | ping stamp => exact nomatch download.symm.trans due
  | close => exact due

end Sender

end LinkGauge
