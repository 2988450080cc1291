import LinkGauge.Stage.Mux

/-!
# What is to be collected

The arrivals at a multiplexer determine its three outputs. The samples and echoes are one log
(`Mux.serverArrivals`), the messages of the client another (`Mux.clientArrivals`). Every echo
before the end of the samples closes a window, the messages since the echo before it
(`Mux.windows`), and what is released for it has of every part the last one that is present in
the window (`Mux.Collected`).
-/

namespace LinkGauge

namespace Mux

/-- What arrives at a multiplexer. -/
inductive Arrival where
  /-- A sample of the measurer. -/
  | sample (measurement : Measurement)
  /-- The echo of a ping. -/
  | echo (measurement : Measurement)
  /-- A message of the client. -/
  | message (measurement : Measurement)
  | samplesEnd
  | receivedEnd
  deriving DecidableEq

/-- The measurement that arrives, unless it is an end. -/
def Arrival.measurement? : Arrival → Option Measurement
  | .sample m | .echo m | .message m => some m
  | .samplesEnd | .receivedEnd => none

/-- The samples and the echoes. -/
def serverArrivals (arrivals : List Arrival) : List Measurement :=
  arrivals.filterMap fun
    | .sample m | .echo m => some m
    | _ => none

/-- The messages of the client. -/
def clientArrivals (arrivals : List Arrival) : List Measurement :=
  arrivals.filterMap fun
    | .message m => some m
    | _ => none

/-- What has arrived since the last echo, or since the given measurements. -/
def sinceEcho (since : List Measurement) : List Arrival → List Measurement
  | [] => since
  | .echo _ :: rest => sinceEcho [] rest
  | arrival :: rest => sinceEcho (since ++ arrival.measurement?.toList) rest

/-- For every echo before the end of the samples what has arrived after the echo before it,
up to the echo itself. -/
def windows (since : List Measurement) : List Arrival → List (List Measurement)
  | [] => []
  | .echo m :: rest => (since ++ [m]) :: windows [] rest
  | .samplesEnd :: _ => []
  | arrival :: rest => windows (since ++ arrival.measurement?.toList) rest

/-- An echo begins a new window, and whatever else arrives stands in the current one. -/
theorem sinceEcho_concat (since : List Measurement) (arrivals : List Arrival) (last : Arrival) :
    sinceEcho since (arrivals ++ [last]) = match last with
      | .echo _ => []
      | _ => sinceEcho since arrivals ++ last.measurement?.toList := by
  induction arrivals generalizing since with
  | nil => cases last <;> rfl
  | cons arrival rest ih => cases arrival <;> exact ih _

/-- Only an echo before the end of the samples closes a window. -/
theorem windows_concat (since : List Measurement) (arrivals : List Arrival) (last : Arrival) :
    windows since (arrivals ++ [last]) = windows since arrivals ++ match last with
      | .echo m => if .samplesEnd ∈ arrivals then [] else [sinceEcho since arrivals ++ [m]]
      | _ => [] := by
  induction arrivals generalizing since with
  | nil => cases last <;> rfl
  | cons arrival rest ih =>
      cases arrival with
      | samplesEnd =>
          have empty : windows since (.samplesEnd :: rest) = [] := rfl
          rw [List.cons_append, windows, empty, List.nil_append]
          cases last <;> simp only [List.mem_cons, true_or, ↓reduceIte]
      | echo m =>
          simp only [List.cons_append, windows, sinceEcho, ih, List.mem_cons, reduceCtorEq,
            false_or]
      | sample m =>
          simp only [List.cons_append, windows, sinceEcho, ih, List.mem_cons, reduceCtorEq,
            false_or]
      | message m =>
          simp only [List.cons_append, windows, sinceEcho, ih, List.mem_cons, reduceCtorEq,
            false_or]
      | receivedEnd =>
          simp only [List.cons_append, windows, sinceEcho, ih, List.mem_cons, reduceCtorEq,
            false_or]

/-- A measurement has of every part the last one that is present among the messages. -/
structure Collected (messages : List Measurement) (m : Measurement) : Prop where
  appInfo : m.appInfo = messages.reverse.findSome? (·.appInfo)
  identity : m.identity = messages.reverse.findSome? (·.identity)
  congestion : m.congestion = messages.reverse.findSome? (·.congestion)
  tcpStats : m.tcpStats = messages.reverse.findSome? (·.tcpStats)
  rtt : m.rtt = messages.reverse.findSome? (·.rtt)
  origin : m.origin = messages.reverse.findSome? (·.origin)
  test : m.test = messages.reverse.findSome? (·.test)

/-- Nothing is collected from nothing. -/
theorem collected_nil : Collected [] {} := ⟨rfl, rfl, rfl, rfl, rfl, rfl, rfl⟩

private theorem findSome?_reverse_concat {α β : Type} (values : List α) (last : α)
    (f : α → Option β) :
    (values ++ [last]).reverse.findSome? f = (f last <|> values.reverse.findSome? f) := by
  rw [List.reverse_append, List.reverse_singleton, List.singleton_append, List.findSome?_cons]
  cases f last <;> rfl

/-- Merging one more message collects it. -/
theorem Collected.merge {messages : List Measurement} {m : Measurement}
    (collected : Collected messages m) (last : Measurement) :
    Collected (messages ++ [last]) (m.merge last) := by
  constructor <;> rw [findSome?_reverse_concat]
  · rw [← collected.appInfo, Measurement.merge]
  · rw [← collected.identity, Measurement.merge]
  · rw [← collected.congestion, Measurement.merge]
  · rw [← collected.tcpStats, Measurement.merge]
  · rw [← collected.rtt, Measurement.merge]
  · rw [← collected.origin, Measurement.merge]
  · rw [← collected.test, Measurement.merge]

/-- The round trip of a last message that has one cannot come from any other. -/
theorem Collected.rtt_of_last {messages : List Measurement} {m last : Measurement}
    (collected : Collected messages m) (ends : messages.getLast? = some last)
    (timed : last.rtt.isSome) : m.rtt = last.rtt := by
  obtain ⟨early, rfl⟩ := List.getLast?_eq_some_iff.mp ends
  obtain ⟨sample, present⟩ := Option.isSome_iff_exists.mp timed
  rw [collected.rtt, findSome?_reverse_concat, present]
  rfl

end Mux

end LinkGauge
