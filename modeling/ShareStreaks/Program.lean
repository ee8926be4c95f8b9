import ShareStreaks.CommandLine.Arguments
import ShareStreaks.Journal.Filter
import ShareStreaks.Run

/-!
# The program

From the arguments to the exit code.  A command line that cannot be read ends with 2, a request that is
not carried out and a run that fails end with 1.  Questions are answered on standard output, summaries
and faults go to standard error, and so do the events that the filter shows.  Standard output is an
`Outlet`, which need not take what it is given; standard error is taken to lead where all of it is.
-/

set_option autoImplicit false

namespace ShareStreaks

/-- What the program leaves behind. -/
structure Ending where
  exitCode : Nat
  output : ByteArray
  errorOutput : String
  /-- The events that are shown. -/
  events : List Event
  tree : FileTree

/-- The causes of a fault, numbered if there is more than one. -/
def causeLines (causes : List String) : String :=
  match causes with
  | [cause] => "    " ++ cause ++ "\n"
  | _ => String.join (causes.zipIdx.map fun (cause, n) =>
      String.ofList (List.replicate (5 - (digits n).length) ' ') ++ decimalText n ++ ": " ++ cause ++ "\n")

/-- A fault at full length. -/
def faultReport : List String → String
  | [] => ""
  | [outer] => "Error: " ++ outer ++ "\n"
  | outer :: causes => "Error: " ++ outer ++ "\n\nCaused by:\n" ++ causeLines causes

/-- The events to show: what the filter text asks for if it can be read, otherwise warnings, and with
`verbose` information as well. -/
def eventFilter (filterText : Option String) (verbose : Bool) : EventFilter :=
  (filterText.bind EventFilter.ofText?).getD (.upTo (if verbose then .info else .warn))

/-- Runs the program with the given arguments and filter text. -/
def runProgram (e : Engine) (o : Outlet) (args : List String) (filterText : Option String)
    (t : FileTree) : Ending :=
  match readArguments args with
  | .error fault =>
    let answer := fault.message ++ "\n"
    if fault.isQuestion then ⟨0, (o.put answer.toUTF8).1, "", [], t⟩ else ⟨2, .empty, answer, [], t⟩
  | .ok request =>
    match request.fault? t with
    | some fault => ⟨1, .empty, faultReport fault.messages, [], t⟩
    | none =>
      let run := request.run e o t
      let shown (events : List Event) : List Event :=
        events.filter (eventFilter filterText request.verbose).shows
      match run.result with
      | .error fault =>
        ⟨1, run.output, "", shown (run.events ++ [.failed (fault.message e)]), run.tree⟩
      | .ok analysis => ⟨0, run.output, analysis.summary, shown run.events, run.tree⟩

end ShareStreaks
