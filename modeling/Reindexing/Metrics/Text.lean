import Reindexing.Metrics

/-!
# Metrics as text

The exposition of metrics: a description and a type for every name that has
series, and one line for each value. Every line carries the label `service`
first. A histogram has a cumulative count for each of its bounds, the sum of
its values and their number.
-/
namespace Reindexing.Metrics

/-- What a name measures. -/
def descriptions : List (String × String) :=
  [("reindex_tasks_submitted_total", "Reindex tasks created"),
    ("reindex_tasks_finished_total", "Reindex tasks that reached a terminal status"),
    ("reindex_retries_total", "Retries dispatched from the queue"),
    ("reindex_watchdog_timeouts_total", "Running tasks force-failed by the watchdog"),
    ("reindex_errors_total", "Errors raised by the engine"),
    (queueDepthName, "Entries in the retry queue"),
    (runningName, "Tasks currently running"),
    (durationName, "Wall time from start to terminal status")]

/-- The bounds of the histogram in seconds. -/
def bounds : List Nat := [1, 5, 15, 30, 60, 300, 900, 1800, 3600]

/-- Escapes a label value. A backslash is doubled unless it is doubled already; `pending`
says that one backslash has been read and not written. -/
def escapeLabel (pending : Bool) : List Char → List Char
  | [] => if pending then ['\\', '\\'] else []
  | '\n' :: rest => '\\' :: 'n' :: escapeLabel pending rest
  | '"' :: rest => '\\' :: '"' :: escapeLabel false rest
  | '\\' :: rest =>
    if pending then '\\' :: '\\' :: escapeLabel false rest else escapeLabel true rest
  | c :: rest =>
    if pending then '\\' :: '\\' :: c :: escapeLabel false rest else c :: escapeLabel false rest

def labelText (label : String × String) : String :=
  label.1 ++ "=\"" ++ String.ofList (escapeLabel false label.2.toList) ++ "\""

/-- One value with its labels. -/
def valueLine (service name : String) (labels : List (String × String)) (value : String) : String :=
  name ++ "\x7b" ++ Text.join "," ((("service", service) :: labels).map labelText) ++ "\x7d " ++ value

/-- The description and the type of a name. -/
def headLines (name type : String) : List String :=
  match descriptions.find? (·.1 == name) with
  | some (_, text) => ["# HELP " ++ name ++ " " ++ text, "# TYPE " ++ name ++ " " ++ type]
  | none => ["# TYPE " ++ name ++ " " ++ type]

def counterLines (service : String) (m : Metrics) : List String :=
  (m.counters.map (·.1.name)).eraseDups.flatMap fun name =>
    headLines name "counter" ++ (m.counters.filter (·.1.name = name)).map fun (series, value) =>
      valueLine service name series.labels (Decimal.ofNat value)

def gaugeLines (service : String) (m : Metrics) : List String :=
  m.gauges.flatMap fun (name, value) =>
    headLines name "gauge" ++ [valueLine service name [] (Decimal.ofNat value)]

/-- The sum of seconds, batch by batch. -/
def sumSeconds (batches : List (List Int)) : Float :=
  (batches.map fun batch => batch.foldl (fun sum millis => sum + Float.ofInt millis / 1000.0) 0.0).foldl
    (· + ·) 0.0

def statusLines (service : String) (status : TaskStatus) (batches : List (List Int)) : List String :=
  let labels := [("status", status.name)]
  let values := batches.flatten
  let bucket (le : String) (count : Nat) : String :=
    valueLine service (durationName ++ "_bucket") (labels ++ [("le", le)]) (Decimal.ofNat count)
  bounds.map (fun bound =>
      bucket (Decimal.ofNat bound) (values.filter fun millis => decide (millis ≤ 1000 * (bound : Int))).length) ++
    [bucket "+Inf" values.length,
      valueLine service (durationName ++ "_sum") labels
        (Decimal.write Decimal.plain (sumSeconds batches).toBits),
      valueLine service (durationName ++ "_count") labels (Decimal.ofNat values.length)]

def histogramLines (service : String) (m : Metrics) : List String :=
  if m.durations.isEmpty then []
  else headLines durationName "histogram" ++ m.durations.flatMap fun (status, batches) =>
    statusLines service status batches

/-- The exposition of all metrics. -/
def toText (service : String) (m : Metrics) : String :=
  String.join ((counterLines service m ++ gaugeLines service m ++ histogramLines service m).map (· ++ "\n"))

end Reindexing.Metrics
