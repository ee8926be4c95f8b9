/-!
# Paths

A path is the text it was given as.  Its *segments* are the parts between slashes, empty ones left out;
walking a path follows them one by one.  Its *components* also leave out the dots that lead nowhere,
except one at the front of a relative path; the parent of a path is the path without its last component.
-/

set_option autoImplicit false

namespace ShareStreaks

structure Path where
  text : String
deriving DecidableEq

/-- The parts of a text between slashes; there is always at least one. -/
def splitSlashes : List Char → List (List Char)
  | [] => [[]]
  | c :: cs =>
    match splitSlashes cs with
    | [] => [[c]]
    | part :: parts => if c = '/' then [] :: part :: parts else (c :: part) :: parts

namespace Path

def isAbsolute (p : Path) : Bool := p.text.toList.head? == some '/'

def endsInSlash (p : Path) : Bool := p.text.toList.getLast? == some '/'

/-- The names to follow one by one. -/
def segments (p : Path) : List String :=
  ((splitSlashes p.text.toList).filter (!·.isEmpty)).map String.ofList

/-- The segments without the dots that change nothing. -/
def components (p : Path) : List String :=
  match p.isAbsolute, p.segments with
  | false, "." :: rest => "." :: rest.filter (· != ".")
  | _, names => names.filter (· != ".")

/-- The path of an entry of a directory. -/
def join (p : Path) (name : String) : Path :=
  if p.text.isEmpty || p.endsInSlash then ⟨p.text ++ name⟩ else ⟨p.text ++ "/" ++ name⟩

/-- The last component of the path is the given name. -/
def endsWith (p : Path) (name : String) : Bool := p.components.getLast? == some name

end Path
end ShareStreaks
