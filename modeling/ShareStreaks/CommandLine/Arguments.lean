import ShareStreaks.CommandLine.Request
import ShareStreaks.CommandLine.Usage

/-!
# Reading a command line

Arguments are taken one after the other.  An option's value stands behind it, after an equals sign or as
the next argument; single letters may be drawn together, and the first of them that takes a value takes
the rest.  After `--` everything is given by place.

A value is not looked at when it is found but when the next option, the database or the end is reached:
until then it is *pending*.  So an argument that is not known is reported before a bad value just in
front of it, but after all earlier ones.
-/

set_option autoImplicit false

namespace ShareStreaks

/-- What was found on a command line so far.  An option that was not given is absent. -/
structure Collected where
  database : Option Path := none
  outputDirectory : Option Path := none
  filters : List Threshold := []
  termLength : Option Int := none
  attr : Option Int := none
  since : Option String := none
  metric : Option Metric := none
  noDump : Bool := false
  verbose : Bool := false

/-- An argument whose value was not looked at yet, or is still to come. -/
structure Pending where
  argument : Argument
  value : Option String

/-- Where the reader of a command line is. -/
structure Reading where
  collected : Collected := {}
  pending : Option Pending := none
  /-- Everything else is given by place. -/
  byPlace : Bool := false
  /-- The database was found, though it may still be pending. -/
  hasDatabase : Bool := false

/-! ## Values -/

/-- Sets something that can be given once. -/
def once {α : Type} (shown : String) (before : Option α) (value : Except UsageFault α) :
    Except UsageFault (Option α) :=
  if before.isSome then .error (.repeated shown) else value.map some

def readPathValue (a : Argument) (value : String) : Except UsageFault Path :=
  if value.isEmpty then .error (.valueMissing a) else .ok ⟨value⟩

def readIntegerValue (a : Argument) (value : String) : Except UsageFault Int :=
  match readInteger value.toList with
  | .ok n => .ok n
  | .error cause => .error (.badValue a value cause.message)

def readFilterValue (value : String) : Except UsageFault Threshold :=
  match readThreshold value with
  | .ok t => .ok t
  | .error fault => .error (.badValue .filter value ((fault.messages value).headD ""))

def readMetricValue (value : String) : Except UsageFault Metric :=
  if value = "authors" then .ok .authors
  else if value = "hits" then .ok .hits
  else if value.isEmpty then .error (.valueMissing .metric)
  else .error (.notAChoice .metric value)

namespace Collected

/-- Takes the value of an argument. -/
def give (c : Collected) (a : Argument) (value : String) : Except UsageFault Collected :=
  match a with
  | .database => do
    return { c with database := ← once a.shown c.database (readPathValue a value) }
  | .outputDirectory => do
    return { c with outputDirectory := ← once a.shown c.outputDirectory (readPathValue a value) }
  | .filter => do return { c with filters := c.filters ++ [← readFilterValue value] }
  | .termLength => do
    return { c with termLength := ← once a.shown c.termLength (readIntegerValue a value) }
  | .attr => do return { c with attr := ← once a.shown c.attr (readIntegerValue a value) }
  | .since => do return { c with since := ← once a.shown c.since (.ok value) }
  | .metric => do return { c with metric := ← once a.shown c.metric (readMetricValue value) }

/-- Turns a switch on. -/
def turnOn (c : Collected) : Switch → Except UsageFault Collected
  | .help => .error .helpWanted
  | .version => .error .versionWanted
  | .noDump =>
    if c.noDump then .error (.repeated Switch.noDump.shown) else .ok { c with noDump := true }
  | .verbose =>
    if c.verbose then .error (.repeated Switch.verbose.shown) else .ok { c with verbose := true }

/-- The request, options that were not given having their usual values. -/
def request (c : Collected) : Except UsageFault Request :=
  match c.database with
  | none => .error .databaseMissing
  | some database =>
    let usual : Request := { database }
    .ok { database
          outputDirectory := c.outputDirectory.getD usual.outputDirectory
          filters := c.filters
          termLength := c.termLength.getD usual.termLength
          attr := c.attr.getD usual.attr
          since := c.since.getD usual.since
          metric := c.metric.getD usual.metric
          noDump := c.noDump
          verbose := c.verbose }

end Collected

/-! ## Arguments one by one -/

namespace Reading

/-- Looks at the pending value. -/
def settle (r : Reading) : Except UsageFault Reading :=
  match r.pending with
  | none => .ok r
  | some ⟨a, none⟩ => .error (.valueMissing a)
  | some ⟨a, some value⟩ =>
    (r.collected.give a value).map fun c => { r with collected := c, pending := none }

/-- A value given together with its option. -/
def giveNow (r : Reading) (a : Argument) (value : String) : Except UsageFault Reading := do
  let r ← r.settle
  return { r with collected := ← r.collected.give a value }

/-- An option whose value is the next argument. -/
def await (r : Reading) (a : Argument) : Except UsageFault Reading := do
  let r ← r.settle
  return { r with pending := some ⟨a, none⟩ }

def turnOn (r : Reading) (s : Switch) : Except UsageFault Reading := do
  let r ← r.settle
  return { r with collected := ← r.collected.turnOn s }

/-- An argument given by place. -/
def place (r : Reading) (arg : String) : Except UsageFault Reading :=
  if r.hasDatabase then .error (.unknown arg)
  else do
    let r ← r.settle
    return { r with pending := some ⟨.database, some arg⟩, hasDatabase := true }

/-- An option by its name, which an equals sign may end. -/
def named (r : Reading) (cs : List Char) : Except UsageFault Reading :=
  let name := String.ofList (cs.takeWhile (· != '='))
  let value := match cs.dropWhile (· != '=') with
    | [] => none
    | _ :: rest => some (String.ofList rest)
  match CommandOption.ofName name, value with
  | none, _ => .error (.unknown ("--" ++ name))
  | some (.withValue a), some value => r.giveNow a value
  | some (.withValue a), none => r.await a
  | some (.switch s), some value => .error (.unexpectedValue s value)
  | some (.switch s), none => r.turnOn s

/-- Options by their letters. -/
def letters (r : Reading) : List Char → Except UsageFault Reading
  | [] => .ok r
  | c :: cs =>
    match CommandOption.ofLetter c, cs with
    | none, _ => .error (.unknown (String.ofList ['-', c]))
    | some (.switch s), cs => do (← r.turnOn s).letters cs
    | some (.withValue a), [] => r.await a
    | some (.withValue a), '=' :: value => r.giveNow a (String.ofList value)
    | some (.withValue a), value => r.giveNow a (String.ofList value)

/-- An argument that is no option: the value that is waited for, or one given by place. -/
def value (r : Reading) (arg : String) : Except UsageFault Reading :=
  match r.pending with
  | some ⟨a, none⟩ => .ok { r with pending := some ⟨a, some arg⟩ }
  | _ => r.place arg

def take (r : Reading) (arg : String) : Except UsageFault Reading :=
  if r.byPlace then r.place arg
  else if arg = "--" then .ok { r with byPlace := true }
  else
    match arg.toList with
    | '-' :: '-' :: cs => r.named cs
    | '-' :: c :: cs => r.letters (c :: cs)
    | _ => r.value arg

end Reading

/-- The request of a command line without the program's name. -/
def readArguments (args : List String) : Except UsageFault Request := do
  let r ← args.foldlM Reading.take {}
  (← r.settle).collected.request

end ShareStreaks
