import ShareStreaks.CommandLine.Request
import ShareStreaks.Engine
import ShareStreaks.Journal.Event
import ShareStreaks.Output.Dump
import ShareStreaks.Output.Outlet
import ShareStreaks.Output.Summary

/-!
# Runs

A run has three stages.  `Request.read` finds the database and loads the yearly shares; whatever goes
wrong there, nothing was put out, and the disk is as the engine left it.  Then the table is put out as
JSON.  At last the thresholds are tried and the results are written; if that fails, it leaves what it
wrote.
-/

set_option autoImplicit false

namespace ShareStreaks

/-- Why a run stops. -/
inductive RunFault where
  | cutoff (fault : CutoffFault)
  | databaseMissing (path : Path)
  | databaseClosed (path : Path) (fault : EngineFault)
  | unprepared (fault : EngineFault)
  | unstarted (fault : EngineFault)
  | load (fault : LoadFault)
  | dump (fault : OutletFault)
  | filing (fault : FilingFault)
deriving DecidableEq

namespace RunFault

/-- The fault from the outside in. -/
def messages (e : Engine) : RunFault → List String
  | .cutoff fault => fault.messages
  | .databaseMissing path => ["Database file not found at " ++ quoted path.text]
  | .databaseClosed path fault =>
    ("Failed to open database " ++ quoted path.text) :: fault.messages
  | .unprepared fault => "Failed to prepare yearly shares query" :: fault.messages
  | .unstarted fault => "Failed to run yearly shares query" :: fault.messages
  | .load fault => fault.messages e.complaint
  | .dump fault => fault.messages
  | .filing fault => fault.messages

/-- The fault in one line. -/
def message (e : Engine) (f : RunFault) : String := ": ".intercalate (f.messages e)

end RunFault

/-- What a run that succeeds ends with. -/
structure Analysis where
  outcomes : List Outcome
  written : List WrittenFile
  shadowed : List Nat
deriving DecidableEq

def Analysis.summary (a : Analysis) : String := ShareStreaks.summary a.outcomes a.written a.shadowed

/-- Everything that a run does: the events it reports, what gets through to its standard output, the disk
afterwards, and how it ends. -/
structure Run where
  events : List Event
  output : ByteArray
  tree : FileTree
  result : Except RunFault Analysis

/-! ## Reading -/

/-- What there is to report about loaded shares. -/
def Loaded.event (l : Loaded) : Event :=
  if l.table.isEmpty then .nothingSelected
  else
    let (first, last) := l.table.yearRange?.getD (0, 0)
    .sharesLoaded l.rowCount l.table.size first last

/-- The yearly shares in what comes of asking an engine. -/
def Reply.load (path : Path) (m : Metric) : Reply → Except RunFault Loaded
  | .closed fault => .error (.databaseClosed path fault)
  | .unprepared fault => .error (.unprepared fault)
  | .unstarted fault => .error (.unstarted fault)
  | .answered answer => (answer.load m).mapError .load

/-- The events up to the end of a query that comes to nothing. -/
def Reply.events (path : Path) (q : Query) : Reply → List Event
  | .closed _ => [.started]
  | _ => [.started, .databaseOpened path, .queryStarted q]

/-- What reading led to: the events so far, the disk afterwards, and the yearly shares. -/
structure DatabaseReading where
  events : List Event
  tree : FileTree
  result : Except RunFault TermTable

/-- Finds the database and loads the yearly shares. -/
def Request.read (e : Engine) (r : Request) (t : FileTree) : DatabaseReading :=
  match readCutoff r.since with
  | .error fault => ⟨[.started], t, .error (.cutoff fault)⟩
  | .ok since =>
    match t.find? r.database with
    | none => ⟨[.started], t, .error (.databaseMissing r.database)⟩
    | some _ =>
      let q := r.query since
      let asked := e.ask t r.database q
      let events := asked.2.events r.database q
      match asked.2.load r.database q.metric with
      | .error fault => ⟨events, asked.1, .error fault⟩
      | .ok loaded =>
        ⟨events ++ [loaded.event, .tableReady loaded.table.size loaded.table.pointCount], asked.1,
          .ok loaded.table⟩

/-! ## Putting out, selecting and writing -/

/-- What a request puts out of a table, and what is wrong if that is not all. -/
def Request.dump (o : Outlet) (r : Request) (table : TermTable) : ByteArray × Option OutletFault :=
  if r.noDump then (.empty, none) else o.put (Dump.text table).toUTF8

def Selection.events (s : Selection) : List Event :=
  s.rounds.map (fun r => .thresholdTried r.outcome.threshold r.qualifying r.outcome.findings.length)
    ++ [.selectionFinished s.rounds.length s.seen.length]

/-- Carries out a request. -/
def Request.run (e : Engine) (o : Outlet) (r : Request) (t : FileTree) : Run :=
  match r.read e t with
  | ⟨events, t, .error fault⟩ => ⟨events, .empty, t, .error fault⟩
  | ⟨events, t, .ok table⟩ =>
    match r.dump o table with
    | (output, some fault) => ⟨events, output, t, .error (.dump fault)⟩
    | (output, none) =>
      let selection := Selection.run table r.thresholds
      let filing := fileOutcomes r.outputDirectory selection.outcomes t
      let events := events ++ (shadowings r.thresholds).map .thresholdShadowed ++ selection.events
        ++ filing.written.map .fileWritten
      match filing.fault with
      | some fault => ⟨events, output, filing.tree, .error (.filing fault)⟩
      | none =>
        ⟨events ++ [.finished filing.written.length], output, filing.tree,
          .ok ⟨selection.outcomes, filing.written, shadowed r.thresholds⟩⟩

end ShareStreaks
