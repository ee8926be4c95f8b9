import ShareStreaks.Decimal.Literal
import ShareStreaks.Journal.Event
import ShareStreaks.Journal.Pattern
import ShareStreaks.Text.Blank

/-!
# Choosing events

A filter is a list of directives, each a level for the events whose origin begins with its target and
that have its particular.  For an event the directive with the longest target decides; of two with
targets of one length the one that asks for a particular, then the one whose particular comes later in
the alphabet, then the one that was given later.  An event without a directive is not shown.

A filter is written as directives between commas.  A directive is a level alone, or a target, a part in
square brackets, or both, and a level after an equals sign; where no level is named, everything is asked
for.  The part in square brackets can name a particular in braces.  If it names a span of time, of which
this program has none, or says what the particular has to be, the directive chooses nothing.  A level
is given by its name, in letters of either case, or by its number.

Blanks around a directive are no part of it, but its parts are cut out of the text as it was given: a
blank at the end belongs to the last part, and a blank in front puts every part out of place.  A text
with a directive of any other form is no filter.
-/

set_option autoImplicit false

namespace ShareStreaks

/-- Shows the events from an origin up to a verbosity. -/
structure Directive where
  target : String
  /-- Only events with a particular of this name. -/
  particular : Option String
  verbosity : Nat
  /-- Speaks of spans, or of what a particular is, and chooses no event. -/
  ofSpan : Bool
deriving DecidableEq

structure EventFilter where
  directives : List Directive
deriving DecidableEq

/-- The names of everything that is said about an event. -/
def Event.particularNames (e : Event) : List String :=
  ["message", "action", "component"] ++ e.particulars.map Prod.fst

namespace Directive

/-- The directive has something to say about an event. -/
def concerns (d : Directive) (e : Event) : Bool :=
  !d.ofSpan && d.target.toList.isPrefixOf e.origin.toList
    && d.particular.all e.particularNames.contains

/-- Of two directives that concern an event the later one, `d`, decides. -/
def outranks (d earlier : Directive) : Bool :=
  if d.target.length ≠ earlier.target.length then earlier.target.length < d.target.length
  else
    match d.particular, earlier.particular with
    | none, some _ => false
    | some m, some n => n ≤ m
    | _, none => true

end Directive

namespace EventFilter

/-- Shows every event up to the given level. -/
def upTo (l : Level) : EventFilter := ⟨[⟨"", none, l.verbosity, false⟩]⟩

/-- The directive that decides about an event. -/
def decisive (f : EventFilter) (e : Event) : Option Directive :=
  (f.directives.filter (·.concerns e)).foldl (fun best d =>
    if best.all d.outranks then some d else best) none

def shows (f : EventFilter) (e : Event) : Bool :=
  (f.decisive e).any fun d => e.level.verbosity ≤ d.verbosity

/-! ## Reading -/

/-- A verbosity by the name of its level or as a number. -/
def readVerbosity (cs : List Char) : Option Nat :=
  match readNatural cs with
  | .ok n => if n.1 ≤ 5 then some n.1 else none
  | .error _ =>
    match String.ofList (cs.map Char.toLower) with
    | "off" => some 0
    | "error" => some 1
    | "warn" => some 2
    | "info" => some 3
    | "debug" => some 4
    | "trace" => some 5
    | _ => none

/-- A directive can begin with the character, unless it begins with a bracket. -/
def opensTarget (c : Char) : Bool := c == '-' || c == ':' || c == '_' || isAlphanumeric c

/-- The part of a directive that is being read, and where in the text it began. -/
inductive Part where
  | opening
  | target (start : Nat)
  | span (start : Nat)
  | particular (start : Nat)
  | afterParticular
  | afterSpan
  | level (start : Nat)

/-- A directive as far as it has been read. -/
structure Draft where
  part : Part := .opening
  directive : Directive := ⟨"", none, 5, false⟩

/-- The characters between two places of a text. -/
def slice (text : List Char) (start stop : Nat) : List Char := (text.take stop).drop start

/-- What a particular has to be: a truth value, a number or a pattern. -/
def isExpectation (cs : List Char) : Bool :=
  (readBinary64 cs).isOk || isPattern cs

/-- Adds what stands between braces: the name of a particular, and perhaps what it has to be. -/
def readParticular (cs : List Char) (d : Directive) : Option Directive :=
  let name := String.ofList (cs.takeWhile (· != '='))
  match cs.dropWhile (· != '=') with
  | [] => if cs.isEmpty then none else some { d with particular := some name }
  | _ :: value =>
    if isExpectation (value.takeWhile (· != '=')) then
      some { d with particular := some name, ofSpan := true }
    else none

namespace Draft

/-- Takes the character at a place into a draft. -/
def extend (text : List Char) (d : Draft) (place : Nat) (c : Char) : Option Draft :=
  match d.part with
  | .opening =>
    if c = '[' then some { d with part := .span (place + 1) }
    else if opensTarget c then some { d with part := .target place }
    else none
  | .target start =>
    let targeted : Directive := { d.directive with target := String.ofList (slice text start place) }
    if c = '=' then some ⟨.level (place + 1), targeted⟩
    else if c = '[' then some ⟨.span (place + 1), targeted⟩
    else some d
  | .span start =>
    if c = ']' then some ⟨.afterSpan, { d.directive with ofSpan := true }⟩
    else if c = '\x7b' then
      some ⟨.particular (place + 1),
        { d.directive with ofSpan := !(slice text start place).isEmpty }⟩
    else some d
  | .particular start =>
    if c = '\x7d' then
      (readParticular (slice text start place) d.directive).map fun r => ⟨.afterParticular, r⟩
    else some d
  | .afterParticular => if c = ']' then some { d with part := .afterSpan } else none
  | .afterSpan => if c = '=' then some { d with part := .level (place + 1) } else none
  | .level _ => some d

/-- The directive that a draft is at the end of its text. -/
def finish (text : List Char) (d : Draft) : Option Directive :=
  match d.part with
  | .target start =>
    match readVerbosity (text.drop start) with
    | some v => some { d.directive with verbosity := v }
    | none => some { d.directive with target := String.ofList (text.drop start) }
  | .level start =>
    if (text.drop start).isEmpty then some d.directive
    else (readVerbosity (text.drop start)).map fun v => { d.directive with verbosity := v }
  | .afterSpan => some d.directive
  | _ => none

end Draft

def readDirective (text : List Char) : Option Directive :=
  ((trim text).zipIdx.foldlM (fun d (c, place) => Draft.extend text d place c) {}).bind
    (Draft.finish text)

/-- The parts of a text between commas, empty ones left out. -/
def splitCommas : List Char → List (List Char)
  | [] => []
  | c :: cs =>
    if c = ',' then [] :: splitCommas cs
    else
      match splitCommas cs with
      | [] => [[c]]
      | part :: parts => (c :: part) :: parts

/-- The filter that a text describes.  A text without any directive asks for errors. -/
def ofText? (text : String) : Option EventFilter := do
  let parts := (splitCommas text.toList).filter fun part => !part.isEmpty
  let directives ← parts.mapM readDirective
  return if directives.isEmpty then upTo .error else ⟨directives⟩

end EventFilter
end ShareStreaks
