import ShareStreaks.Text.Terminal

/-!
# Options and usage faults

The command line knows one argument by its place, the database, six options that take a value, and four
switches that do not.  `UsageFault` lists what can be wrong with a command line, and the two switches
that end it early.

The message about a fault repeats what was typed, and sets it off by escape sequences.  Where there is
no terminal they are taken out, and with them what was typed of that kind: a sequence that was left
unfinished takes in what follows it, until the message begins one of its own.
-/

set_option autoImplicit false

namespace ShareStreaks

/-- An argument with a value. -/
inductive Argument where
  | database
  | outputDirectory
  | filter
  | termLength
  | attr
  | since
  | metric
deriving DecidableEq

namespace Argument

/-- The argument as it is shown in messages. -/
def shown : Argument → String
  | .database => "<DATABASE>"
  | .outputDirectory => "--output-dir <OUTPUT_DIR>"
  | .filter => "--filter <PERCENT:YEARS>"
  | .termLength => "--term-len <TERM_LEN>"
  | .attr => "--attr <ATTR>"
  | .since => "--since <SINCE>"
  | .metric => "--metric <METRIC>"

end Argument

/-- An argument without a value. -/
inductive Switch where
  | noDump
  | verbose
  | help
  | version
deriving DecidableEq

namespace Switch

def shown : Switch → String
  | .noDump => "--no-dump"
  | .verbose => "--verbose"
  | .help => "--help"
  | .version => "--version"

end Switch

/-- What an option on the command line stands for. -/
inductive CommandOption where
  | withValue (a : Argument)
  | switch (s : Switch)
deriving DecidableEq

namespace CommandOption

def ofName : String → Option CommandOption
  | "output-dir" => some (.withValue .outputDirectory)
  | "filter" => some (.withValue .filter)
  | "term-len" => some (.withValue .termLength)
  | "attr" => some (.withValue .attr)
  | "since" => some (.withValue .since)
  | "metric" => some (.withValue .metric)
  | "no-dump" => some (.switch .noDump)
  | "verbose" => some (.switch .verbose)
  | "help" => some (.switch .help)
  | "version" => some (.switch .version)
  | _ => none

def ofLetter : Char → Option CommandOption
  | 'o' => some (.withValue .outputDirectory)
  | 'f' => some (.withValue .filter)
  | 'v' => some (.switch .verbose)
  | 'h' => some (.switch .help)
  | 'V' => some (.switch .version)
  | _ => none

end CommandOption

/-! ## Faults -/

inductive UsageFault where
  | unknown (shown : String)
  | valueMissing (a : Argument)
  /-- A value that is not one of the few that the argument takes. -/
  | notAChoice (a : Argument) (value : String)
  | badValue (a : Argument) (value reason : String)
  | repeated (shown : String)
  | unexpectedValue (s : Switch) (value : String)
  | databaseMissing
  | helpWanted
  | versionWanted
deriving DecidableEq

namespace UsageFault

/-- What was typed, in yellow. -/
def typed (s : String) : String := "\x1b[33m" ++ s ++ "\x1b[0m"

/-- What could be typed, in bold. -/
def known (s : String) : String := "\x1b[1m" ++ s ++ "\x1b[0m"

/-- The message for a terminal. -/
def sentence : UsageFault → String
  | .unknown shown => "error: unexpected argument '" ++ typed shown ++ "' found"
  | .valueMissing a => "error: a value is required for '" ++ known a.shown ++ "' but none was supplied"
  | .notAChoice a value =>
    "error: invalid value '" ++ typed value ++ "' for '" ++ known a.shown ++ "'"
  | .badValue a value reason =>
    "error: invalid value '" ++ typed value ++ "' for '" ++ known a.shown ++ "': " ++ reason
  | .repeated shown =>
    "error: the argument '" ++ typed shown ++ "' cannot be used multiple times"
  | .unexpectedValue s value =>
    "error: unexpected value '" ++ typed value ++ "' for '" ++ known s.shown
      ++ "' found; no more were expected"
  | .databaseMissing => "error: the following required arguments were not provided:"
  | .helpWanted => "Find terms that hold a minimum yearly author share over consecutive years"
  | .versionWanted => "term-streaks 0.1.0"

/-- What stands below the message. -/
def advice : String := "\n\nFor more information, try '" ++ known "--help" ++ "'.\n"

/-- The first line of the message where nothing steers a terminal. -/
def message (f : UsageFault) : String := firstLine (withoutSteering (f.sentence ++ advice))

/-- The fault is a question that is answered on standard output. -/
def isQuestion : UsageFault → Bool
  | .helpWanted | .versionWanted => true
  | _ => false

end UsageFault
end ShareStreaks
