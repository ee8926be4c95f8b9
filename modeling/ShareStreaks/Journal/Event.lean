import ShareStreaks.Decimal.Notation
import ShareStreaks.Output.Files
import ShareStreaks.Tables.Shares
import ShareStreaks.Calendar.Cutoff

/-!
# Events of a run

What a run reports about itself while it goes on.  Each event is shown as one line: its level, what
happened, and the particulars as `name=value`, in a fixed order.  Texts among the values are quoted;
sentences about thresholds and faults are not.  How long something took is not part of an event, and is
filled in when the line is shown.
-/

set_option autoImplicit false

namespace ShareStreaks

/-- How much an event matters, the weightiest first. -/
inductive Level where
  | error
  | warn
  | info
  | debug
  | trace
deriving DecidableEq

namespace Level

/-- The place of the level among all levels. -/
def verbosity : Level → Nat
  | .error => 1
  | .warn => 2
  | .info => 3
  | .debug => 4
  | .trace => 5

def name : Level → String
  | .error => "ERROR"
  | .warn => "WARN"
  | .info => "INFO"
  | .debug => "DEBUG"
  | .trace => "TRACE"

end Level

inductive Event where
  | started
  | databaseOpened (path : Path)
  | queryStarted (q : Query)
  | nothingSelected
  | sharesLoaded (rows terms : Nat) (firstYear lastYear : Int)
  | tableReady (terms points : Nat)
  | thresholdShadowed (s : Shadowing)
  | thresholdTried (t : Threshold) (qualifying fresh : Nat)
  | selectionFinished (thresholds terms : Nat)
  | fileWritten (w : WrittenFile)
  | finished (files : Nat)
  | failed (message : String)
deriving DecidableEq

namespace Event

def level : Event → Level
  | .nothingSelected | .thresholdShadowed _ => .warn
  | .failed _ => .error
  | _ => .info

/-- The part of the program that reports the event, the outermost name first. -/
def origin : Event → String
  | .started | .tableReady .. | .finished _ => "term_streaks::usage"
  | .databaseOpened _ | .queryStarted _ | .nothingSelected | .sharesLoaded .. =>
    "term_streaks::sqlite"
  | .thresholdShadowed _ | .thresholdTried .. | .selectionFinished .. => "term_streaks::batch"
  | .fileWritten _ => "term_streaks::report"
  | .failed _ => "term_streaks"

/-- What happened, in words. -/
def headline : Event → String
  | .started => "Starting term usage analysis"
  | .databaseOpened _ => "Connected to database"
  | .queryStarted _ => "Querying yearly shares"
  | .nothingSelected => "No yearly data matched the query"
  | .sharesLoaded .. => "Yearly shares loaded"
  | .tableReady .. => "Series ready for filtering"
  | .thresholdShadowed _ => "Filter can never report new terms"
  | .thresholdTried .. => "Threshold processed"
  | .selectionFinished .. => "Batch run completed"
  | .fileWritten _ => "Result file written"
  | .finished _ => "Analysis completed successfully"
  | .failed _ => "Analysis failed"

end Event

/-! ## Particulars -/

/-- Shares in events are written like those in file names, but with a plain exponent. -/
def eventStyle : NumberStyle := { shareStyle with plusSign := false, exponentDigits := 1 }

def Metric.name : Metric → String
  | .authors => "Authors"
  | .hits => "Hits"

/-- The value of a particular. -/
inductive Value where
  | quoted (s : String)
  | plain (s : String)
  | count (n : Nat)
  | number (n : Int)
  | share (x : Binary64)
  | elapsed

/-- A value in an event's line, `elapsed` being the time that something took. -/
def Value.shown (elapsed : String) : Value → String
  | .quoted s => "\"" ++ s ++ "\""
  | .plain s => s
  | .count n => String.ofList (digits n)
  | .number n => String.ofList (signedDigits n)
  | .share x => String.ofList (x.written eventStyle)
  | .elapsed => elapsed

namespace Event

/-- What was done, and by which part of the program. -/
def deed : Event → String × String
  | .started => ("start", "analysis")
  | .databaseOpened _ => ("open", "database")
  | .queryStarted _ => ("start", "yearly_shares_query")
  | .nothingSelected | .sharesLoaded .. => ("complete", "yearly_shares_query")
  | .tableReady .. => ("loaded", "analysis")
  | .thresholdShadowed _ => ("validate", "batch")
  | .thresholdTried .. => ("filter", "batch")
  | .selectionFinished .. => ("complete", "batch")
  | .fileWritten _ => ("write", "report")
  | .finished _ => ("complete", "analysis")
  | .failed _ => ("abort", "analysis")

/-- What there is to say about the event itself. -/
def particulars : Event → List (String × Value)
  | .started => []
  | .databaseOpened path => [("path", .plain (ShareStreaks.quoted path.text))]
  | .queryStarted q =>
    [("term_len", .number q.termLength), ("attr", .number q.attr),
      ("since", .quoted (describeMoment q.since)), ("metric", .plain q.metric.name)]
  | .nothingSelected => [("duration_ms", .elapsed)]
  | .sharesLoaded rows terms firstYear lastYear =>
    [("row_count", .count rows), ("term_count", .count terms), ("first_year", .number firstYear),
      ("last_year", .number lastYear), ("duration_ms", .elapsed)]
  | .tableReady terms points =>
    [("term_count", .quoted (grouped terms)), ("point_count", .quoted (grouped points))]
  | .thresholdShadowed s =>
    [("filter", .plain s.threshold.description), ("shadowed_by", .plain s.coveredBy.description)]
  | .thresholdTried t qualifying fresh =>
    [("min_percent", .share t.minShare), ("min_consecutive", .count t.years),
      ("qualifying", .count qualifying), ("new_terms", .count fresh)]
  | .selectionFinished thresholds terms =>
    [("config_count", .count thresholds), ("term_count", .count terms), ("duration_ms", .elapsed)]
  | .fileWritten w =>
    [("file_path", .plain (ShareStreaks.quoted w.path.text)), ("term_count", .count w.count)]
  | .finished files => [("files_written", .count files), ("duration_ms", .elapsed)]
  | .failed message => [("error", .plain message)]

/-- The event as one line. -/
def line (elapsed : String) (e : Event) : String :=
  let fields := ("action", .quoted e.deed.1) :: ("component", .quoted e.deed.2) :: e.particulars
  e.level.name ++ " " ++ e.headline
    ++ String.join (fields.map fun (name, value) => " " ++ name ++ "=" ++ value.shown elapsed)

end Event
end ShareStreaks
