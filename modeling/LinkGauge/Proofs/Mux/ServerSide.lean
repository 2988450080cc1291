import LinkGauge.Proofs.Mux.Joining
import LinkGauge.Proofs.Receiver.Decoding

/-!
# The server's side of what arrives

What the client says changes what is collected, but neither the log of the server nor how many
measurements are released, nor their round trips: these depend on what does not come from the
client alone (`Mux.serverSide`), and that on the samples, on the echoes and on the order in which
they arrive (`Mux.serverSide_eq_weave`).
-/

namespace LinkGauge.Mux

/-- What arrives from the server's side, up to what it says. -/
inductive Turn where
  | sample
  | echo
  | samplesEnd
  deriving DecidableEq

namespace Arrival

def turn? : Arrival → Option Turn
  | .sample _ => some .sample
  | .echo _ => some .echo
  | .samplesEnd => some .samplesEnd
  | .message _ | .receivedEnd => none

def sample? : Arrival → Option Measurement
  | .sample m => some m
  | _ => none

def echo? : Arrival → Option Measurement
  | .echo m => some m
  | _ => none

/-- What the receiver has said, if it has said something. -/
def received? : Arrival → Option Received
  | .echo m => some ⟨.server, m⟩
  | .message m => some ⟨.client, m⟩
  | _ => none

end Arrival

/-- The order of the samples, the echoes and the end of the samples. -/
def order (arrivals : List Arrival) : List Turn := arrivals.filterMap Arrival.turn?

def samplesOf (arrivals : List Arrival) : List Measurement := arrivals.filterMap Arrival.sample?

def echoesOf (arrivals : List Arrival) : List Measurement := arrivals.filterMap Arrival.echo?

def receivedOf (arrivals : List Arrival) : List Received := arrivals.filterMap Arrival.received?

/-- The arrivals from the server's side. -/
def serverSide (arrivals : List Arrival) : List Arrival :=
  arrivals.filter (·.turn?.isSome)

/-- Samples and echoes in a given order. -/
def weave : List Turn → List Measurement → List Measurement → List Arrival
  | .sample :: turns, m :: samples, echoes => .sample m :: weave turns samples echoes
  | .echo :: turns, samples, m :: echoes => .echo m :: weave turns samples echoes
  | .samplesEnd :: turns, samples, echoes => .samplesEnd :: weave turns samples echoes
  | _, _, _ => []

variable {arrivals : List Arrival}

/-- The samples among the arrivals of two stretches are those of each. -/
theorem samplesOf_append (first second : List Arrival) :
    samplesOf (first ++ second) = samplesOf first ++ samplesOf second := List.filterMap_append

/-- The messages among the arrivals of two stretches are those of each. -/
theorem receivedOf_append (first second : List Arrival) :
    receivedOf (first ++ second) = receivedOf first ++ receivedOf second := List.filterMap_append

/-- The messages of the server are its echoes. -/
theorem saidBy_server_receivedOf :
    Receiver.saidBy .server (receivedOf arrivals) = echoesOf arrivals := by
  induction arrivals with
  | nil => rfl
  | cons arrival rest ih =>
      cases arrival with
      | sample | samplesEnd | message | receivedEnd => exact ih
      | echo m => exact congrArg (m :: ·) ih

/-- The messages of the client are its texts. -/
theorem saidBy_client_receivedOf :
    Receiver.saidBy .client (receivedOf arrivals) = clientArrivals arrivals := by
  induction arrivals with
  | nil => rfl
  | cons arrival rest ih =>
      cases arrival with
      | sample | samplesEnd | echo | receivedEnd => exact ih
      | message m => exact congrArg (m :: ·) ih

/-- The order in which samples and echoes arrive and what they say are all there is to know. -/
theorem serverSide_eq_weave (later : List Measurement) :
    serverSide arrivals =
      weave (order arrivals) (samplesOf arrivals) (echoesOf arrivals ++ later) := by
  induction arrivals with
  | nil => rfl
  | cons arrival rest ih =>
      cases arrival with
      | message | receivedEnd => exact ih
      | sample m => exact congrArg (.sample m :: ·) ih
      | echo m => exact congrArg (.echo m :: ·) ih
      | samplesEnd => exact congrArg (.samplesEnd :: ·) ih

/-- The samples and echoes are all on the server's side. -/
theorem serverArrivals_serverSide :
    serverArrivals (serverSide arrivals) = serverArrivals arrivals := by
  induction arrivals with
  | nil => rfl
  | cons arrival rest ih =>
      cases arrival with
      | samplesEnd | message | receivedEnd => exact ih
      | sample m | echo m => exact congrArg (m :: ·) ih

/-- The last measurements of the windows are the echoes before the end of the samples. -/
theorem getLast?_windows (since other : List Measurement) :
    (windows since arrivals).map List.getLast? =
      (windows other (serverSide arrivals)).map List.getLast? := by
  induction arrivals generalizing since other with
  | nil => rfl
  | cons arrival rest ih =>
      cases arrival with
      | echo m =>
          change _ :: _ = _ :: _
          rw [List.getLast?_concat, List.getLast?_concat]
          exact congrArg (some m :: ·) (ih [] [])
      | samplesEnd => rfl
      | sample | message | receivedEnd => exact ih _ _

private theorem echo_of_mem_windows {since window : List Measurement}
    (member : window ∈ windows since arrivals) :
    ∃ echo ∈ echoesOf arrivals, window.getLast? = some echo := by
  induction arrivals generalizing since with
  | nil => cases member
  | cons arrival rest ih =>
      cases arrival with
      | echo m =>
          rcases List.mem_cons.mp member with rfl | later
          · exact ⟨m, List.mem_cons_self, List.getLast?_concat⟩
          · obtain ⟨echo, said, last⟩ := ih later
            exact ⟨echo, List.mem_cons_of_mem m said, last⟩
      | samplesEnd => cases member
      | sample | message | receivedEnd => exact ih member

/-- The round trips of what is released are those of the echoes that close the windows. -/
theorem rtt_of_collected {released : List Measurement}
    (collected : List.Forall₂ Collected (windows [] arrivals) released)
    (timed : ∀ echo ∈ echoesOf arrivals, echo.rtt.isSome = true) :
    released.map (·.rtt) =
      ((windows [] arrivals).map List.getLast?).map fun last => last.bind (·.rtt) := by
  have ends : ∀ window ∈ windows [] arrivals, ∃ echo, window.getLast? = some echo ∧
      echo.rtt.isSome = true := by
    intro window member
    obtain ⟨echo, said, last⟩ := echo_of_mem_windows member
    exact ⟨echo, last, timed echo said⟩
  generalize windows [] arrivals = windows at collected ends ⊢
  induction collected with
  | nil => rfl
  | cons own _ ih =>
      obtain ⟨⟨echo, last, present⟩, later⟩ := List.forall_mem_cons.mp ends
      simp only [List.map_cons, last, ih later, Option.bind_some]
      rw [own.rtt_of_last last present]

/-- What arrives at a multiplexer when it has become another one. -/
def arrivedBetween (m next : Mux) : List Arrival :=
  match m.activity, next.activity with
  | .selecting, .loggingServer sample false => [.sample sample]
  | .selecting, .loggingServer sample true => [.echo sample]
  | .selecting, .loggingClient message => [.message message]
  | .selecting, .selecting =>
    [if next.samplesOpen = m.samplesOpen then .receivedEnd else .samplesEnd]
  | _, _ => []

variable {m next : Mux} {v after : View} {more : List Arrival}

/-- What has arrived between two states is what the move between them has read. -/
theorem Moved.arrivedBetween (moved : Moved m v more next after) :
    m.arrivedBetween next = more := by
  cases moved with
  | takeSample selecting | takeEcho selecting | takeMessage selecting | finish selecting =>
      simp only [Mux.arrivedBetween, selecting]
  | endSamples selecting opened =>
      simp only [Mux.arrivedBetween, selecting, opened, Bool.false_eq_true, ↓reduceIte]
  | endReceived selecting => simp only [Mux.arrivedBetween, selecting, ↓reduceIte]
  | logServer logging | release logging | logClient logging =>
      simp only [Mux.arrivedBetween, logging]

/-- What arrives was in the inputs. -/
theorem Moved.inputs (moved : Moved m v more next after) :
    v.samples.queue = samplesOf more ++ after.samples.queue ∧
      v.received.queue = receivedOf more ++ after.received.queue := by
  cases moved with
  | takeSample selecting opened taken => exact ⟨(Channel.take?_eq_some taken).1, rfl⟩
  | takeEcho selecting opened taken | takeMessage selecting opened taken =>
      exact ⟨rfl, (Channel.take?_eq_some taken).1⟩
  | endSamples | endReceived | finish | logServer | release | logClient => exact ⟨rfl, rfl⟩

/-- A multiplexer never leaves its inputs. -/
theorem Moved.inputs_reading (moved : Moved m v more next after) :
    after.samples.reading = v.samples.reading ∧ after.received.reading = v.received.reading := by
  cases moved with
  | takeSample selecting opened taken =>
      rw [(Channel.take?_eq_some taken).2]
      exact ⟨rfl, rfl⟩
  | takeEcho selecting opened taken | takeMessage selecting opened taken =>
      rw [(Channel.take?_eq_some taken).2]
      exact ⟨rfl, rfl⟩
  | endSamples | endReceived | finish | logServer | release | logClient => exact ⟨rfl, rfl⟩

end LinkGauge.Mux
