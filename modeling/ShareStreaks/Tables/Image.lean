import ShareStreaks.Tables.Cell

/-!
# Database files

A database file is a row of pages of one size, numbered from one.  A table is a tree of pages: leaves
hold rows, branches hold the numbers of the pages below them, and read from left to right the leaves
hold the rows in the order of their numbers.  A row that is too long for its page goes on in a chain of
further pages.  The row itself is a list of kinds, each saying how long its value is, and the values.

`Image.rows` reads the rows of the table whose tree begins at a page, as far as they can be read.  A tree
is at most twenty pages deep, so a file whose pages lead in a circle is damaged.  In the same way
`Image.keyedRows` reads a table whose rows stand in the order of their keys: there branches hold rows too,
each between the pages around it.
-/

set_option autoImplicit false

namespace ShareStreaks

/-! ## Numbers in bytes -/

/-- A byte of a file, zero past its end. -/
def byteAt (b : ByteArray) (i : Nat) : Nat := (b[i]?.map UInt8.toNat).getD 0

/-- The number in the given count of bytes, the weightiest first. -/
def bigEndian (b : ByteArray) (start : Nat) : Nat → Nat
  | 0 => 0
  | n + 1 => 256 * bigEndian b start n + byteAt b (start + n)

/-- A number below `2^bits` read as a signed one. -/
def signedWord (bits n : Nat) : Int := if n < 2 ^ (bits - 1) then n else (n : Int) - 2 ^ bits

/-- A number in seven bits a byte, the highest bit saying that more follow, and the place after it.  A
ninth byte, after `more` bytes of seven bits, counts in full. -/
def compactNumber (b : ByteArray) : Nat → Nat → Nat → Nat × Nat
  | 0, i, n => (256 * n + byteAt b i, i + 1)
  | more + 1, i, n =>
    let x := byteAt b i
    if x < 128 then (128 * n + x, i + 1) else compactNumber b more (i + 1) (128 * n + (x - 128))

def compactAt (b : ByteArray) (i : Nat) : Nat × Nat := compactNumber b 8 i 0

/-! ## Images -/

/-- How texts are stored. -/
inductive TextEncoding where
  | utf8
  | utf16 (bigEndian : Bool)
deriving DecidableEq

/-- A database file whose header was read. -/
structure Image where
  bytes : ByteArray
  pageSize : Nat
  /-- The bytes of a page that are used. -/
  usable : Nat
  pageCount : Nat
  encoding : TextEncoding

/-- Why bytes cannot be read as a database. -/
inductive ImageFault where
  | notADatabase
  | damaged
  | unknownFormat
deriving DecidableEq

namespace Image

/-- What every database file begins with. -/
def signature : List UInt8 :=
  ("SQLite format 3".toList.map fun c => c.toNat.toUInt8) ++ [0]

/-- The number is a size that pages can have. -/
def isPageSize (n : Nat) : Bool := 512 ≤ n && n ≤ 65536 && 2 ^ n.log2 == n

/-- How many pages of a size hold the bytes. -/
def pagesFor (size bytes : Nat) : Nat := (bytes + size - 1) / size

/-- Reads the header of a file.  It names the number of pages, which counts if it was written together
with the last change. -/
def ofBytes (bytes : ByteArray) : Except ImageFault Image :=
  let size := bigEndian bytes 16 2
  let pageSize := if size = 1 then 65536 else size
  let usable := pageSize - byteAt bytes 20
  let found := pagesFor pageSize bytes.size
  let named := bigEndian bytes 28 4
  let isCurrent := named ≠ 0 && bigEndian bytes 24 4 == bigEndian bytes 92 4
  let encoding := match byteAt bytes 59 % 4 with
    | 2 => .utf16 false
    | 3 => .utf16 true
    | _ => .utf8
  let isOne := (bytes.extract 0 16).toList == signature && byteAt bytes 19 ≤ 2
    && bigEndian bytes 21 3 == 0x402020 && isPageSize pageSize
  if !isOne then .error .notADatabase
  else if isCurrent && found < named then .error .damaged
  else if usable < 480 then .error .notADatabase
  else if 4 < byteAt bytes 47 then .error .unknownFormat
  else .ok ⟨bytes, pageSize, usable, if isCurrent then named else found, encoding⟩

/-- The bytes of a page; what the file lacks of it is zero. -/
def page (img : Image) (number : Nat) : Except ImageFault ByteArray :=
  if 1 ≤ number ∧ number ≤ img.pageCount then
    let here := img.bytes.extract ((number - 1) * img.pageSize) (number * img.pageSize)
    .ok (here ++ ⟨Array.replicate (img.pageSize - here.size) 0⟩)
  else .error .damaged

/-! ## Rows as bytes -/

/-- The bytes of a row that stand in a chain of pages, at most `steps` of them. -/
def chained (img : Image) : Nat → Nat → Nat → Except ImageFault ByteArray
  | 0, _, _ => .error .damaged
  | steps + 1, number, wanted => do
    let page ← img.page number
    let here := min wanted (img.usable - 4)
    let bytes := page.extract 4 (4 + here)
    if wanted = here then return bytes
    return bytes ++ (← chained img steps (bigEndian page 0 4) (wanted - here))

/-- How many bytes of a row of the given length stand in its page itself, which takes `most` of them. -/
def bytesInPage (img : Image) (most length : Nat) : Nat :=
  let least := (img.usable - 12) * 32 / 255 - 23
  let kept := least + (length - least) % (img.usable - 4)
  if length ≤ most then length else if kept ≤ most then kept else least

/-- The bytes of a row of the given length that begin at a place in a page.  Even where a row without
any bytes would begin, there has to be a zero. -/
def bytesAt (img : Image) (page : ByteArray) (most length start : Nat) :
    Except ImageFault ByteArray := do
  let here := img.bytesInPage most length
  if img.usable < start + here || (length == 0 && 0 < byteAt page start) then throw .damaged
  let bytes := page.extract start (start + here)
  if here = length then return bytes
  return bytes ++ (← img.chained (img.pageCount + 1) (bigEndian page (start + here) 4) (length - here))

/-- The number of a row and its bytes, at a place in a leaf. -/
def rowAt (img : Image) (page : ByteArray) (place : Nat) : Except ImageFault (Int × ByteArray) := do
  let (length, next) := compactAt page place
  let (number, start) := compactAt page next
  return (signedWord 64 number, ← img.bytesAt page (img.usable - 35) length start)

/-- The bytes of a row of a table in the order of keys, at a place in a page.  In place of its number
stands zero. -/
def keyedRowAt (img : Image) (page : ByteArray) (place : Nat) : Except ImageFault (Int × ByteArray) := do
  let (length, start) := compactAt page place
  return (0, ← img.bytesAt page ((img.usable - 12) * 64 / 255 - 23) length start)

/-! ## Trees of pages -/

/-- Where the cells of a page stand. -/
def cellPlaces (img : Image) (page : ByteArray) (header first : Nat) : List Nat :=
  (List.range (bigEndian page (header + 3) 2)).map fun i =>
    bigEndian page (header + first + 2 * i) 2 % img.pageSize

/-- Things that were read one after another, and whether there are more that cannot be read. -/
structure Stretch (α : Type) where
  items : List α
  breaksOff : Bool

namespace Stretch

variable {α β : Type}

/-- One thing, or a break. -/
def ofExcept {ε : Type} : Except ε α → Stretch α
  | .ok a => ⟨[a], false⟩
  | .error _ => ⟨[], true⟩

/-- What is read first, and what is read after it unless it breaks off. -/
def followedBy (s : Stretch α) (t : Unit → Stretch α) : Stretch α :=
  if s.breaksOff then s
  else
    let t := t ()
    ⟨s.items ++ t.items, t.breaksOff⟩

/-- What is read from all places one after another, up to the first break. -/
def flatMap (f : β → Stretch α) : List β → Stretch α
  | [] => ⟨[], false⟩
  | b :: bs => (f b).followedBy fun _ => flatMap f bs

end Stretch

/-- The form of a tree of pages. -/
structure TreeForm where
  leaf : Nat
  branch : Nat
  /-- Reads the row at a place. -/
  read : ByteArray → Nat → Except ImageFault (Int × ByteArray)
  /-- Branches hold rows, behind the number of the page before them. -/
  rowsInBranches : Bool

/-- The tree of a table whose rows have numbers. -/
def numberedForm (img : Image) : TreeForm := ⟨0x0D, 0x05, img.rowAt, false⟩

/-- The tree of a table whose rows stand in the order of their keys. -/
def keyedForm (img : Image) : TreeForm := ⟨0x0A, 0x02, img.keyedRowAt, true⟩

/-- The rows on a page and below it, as bytes.  Below a branch every page has a row. -/
def rowsBelow (img : Image) (form : TreeForm) (isRoot : Bool) : Nat → Nat → Stretch (Int × ByteArray)
  | 0, _ => ⟨[], true⟩
  | depth + 1, number =>
    match img.page number with
    | .error _ => ⟨[], true⟩
    | .ok page =>
      let header := if number = 1 then 100 else 0
      let kind := byteAt page header
      let count := bigEndian page (header + 3) 2
      if (img.pageSize - 8) / 6 < count || (count == 0 && !isRoot) then ⟨[], true⟩
      else if kind = form.leaf then
        Stretch.flatMap (fun place => .ofExcept (form.read page place)) (img.cellPlaces page header 8)
      else if kind = form.branch then
        let before := Stretch.flatMap (fun place =>
          let below := rowsBelow img form false depth (bigEndian page place 4)
          if form.rowsInBranches then
            below.followedBy fun _ => .ofExcept (form.read page (place + 4))
          else below) (img.cellPlaces page header 12)
        before.followedBy fun _ => rowsBelow img form false depth (bigEndian page (header + 8) 4)
      else ⟨[], true⟩

/-! ## Values -/

/-- The sixteen-bit units in bytes. -/
def units16 (big : Bool) : List UInt8 → List Nat
  | a :: b :: rest =>
    (if big then 256 * a.toNat + b.toNat else 256 * b.toNat + a.toNat) :: units16 big rest
  | _ => []

/-- The characters that sixteen-bit units stand for; a unit without its partner is replaced. -/
def ofUnits16 : List Nat → List Char
  | [] => []
  | [u] => [if 0xD800 ≤ u && u < 0xE000 then '\uFFFD' else Char.ofNat u]
  | u :: v :: rest =>
    if 0xD800 ≤ u && u < 0xDC00 && 0xDC00 ≤ v && v < 0xE000 then
      Char.ofNat (0x10000 + (u - 0xD800) * 0x400 + (v - 0xDC00)) :: ofUnits16 rest
    else
      (if 0xD800 ≤ u && u < 0xE000 then '\uFFFD' else Char.ofNat u) :: ofUnits16 (v :: rest)

def textOf (e : TextEncoding) (bytes : List UInt8) : Cell :=
  match e with
  | .utf8 => .ofTextBytes bytes
  | .utf16 big => .text (String.ofList (ofUnits16 (units16 big bytes)))

/-- How many bytes a value of a kind takes. -/
def kindLength (kind : Nat) : Nat :=
  match kind with
  | 0 | 8 | 9 | 10 | 11 => 0
  | 1 => 1
  | 2 => 2
  | 3 => 3
  | 4 => 4
  | 5 => 6
  | 6 | 7 => 8
  | _ => (kind - 12) / 2

/-- The value of a kind at a place. -/
def valueAt (e : TextEncoding) (b : ByteArray) (kind start : Nat) : Except ImageFault Cell :=
  let length := kindLength kind
  if b.size < start + length then .error .damaged
  else
    match kind with
    | 0 => .ok .null
    | 7 => .ok (.ofReal (.ofBits (bigEndian b start 8)))
    | 8 => .ok (.integer 0)
    | 9 => .ok (.integer 1)
    | 10 | 11 => .ok .null
    | _ =>
      let bytes := (b.extract start (start + length)).toList
      if kind < 7 then .ok (.integer (signedWord (8 * length) (bigEndian b start length)))
      else .ok (if kind % 2 = 0 then .blob bytes else textOf e bytes)

/-- The kinds between two places, at most `most` of them, if they end at the second. -/
def kindsBetween (b : ByteArray) (stop : Nat) : Nat → Nat → Except ImageFault (List Nat)
  | 0, _ => .ok []
  | most + 1, start =>
    if stop < start then .error .damaged
    else if start = stop then .ok []
    else do
      let (kind, next) := compactAt b start
      return kind :: (← kindsBetween b stop most next)

/-- The values of the kinds, from a place on, to the end. -/
def valuesFrom (e : TextEncoding) (b : ByteArray) : Nat → List Nat → Except ImageFault (List Cell)
  | start, [] => if start = b.size then .ok [] else .error .damaged
  | start, kind :: kinds => do
    let cell ← valueAt e b kind start
    return cell :: (← valuesFrom e b (start + kindLength kind) kinds)

/-- The values of a row; a row without any kinds has none. -/
def cellsOf (e : TextEncoding) (b : ByteArray) : Except ImageFault (List Cell) :=
  let (stop, first) := compactAt b 0
  if stop = 0 then .ok []
  else do valuesFrom e b stop (← kindsBetween b stop (stop + 1) first)

/-- The rows of a tree that begins at a page, with their numbers. -/
def rowsOf (img : Image) (form : TreeForm) (root : Nat) : Stretch (Int × List Cell) :=
  let stored := img.rowsBelow form true 20 root
  let rows := Stretch.flatMap (fun (number, bytes) =>
    .ofExcept ((cellsOf img.encoding bytes).map fun cells => (number, cells))) stored.items
  ⟨rows.items, rows.breaksOff || stored.breaksOff⟩

/-- The rows of the table whose tree begins at a page, with their numbers. -/
def rows (img : Image) (root : Nat) : Stretch (Int × List Cell) := img.rowsOf img.numberedForm root

/-- The rows of a table in the order of their keys whose tree begins at a page. -/
def keyedRows (img : Image) (root : Nat) : Stretch (Int × List Cell) := img.rowsOf img.keyedForm root

end Image
end ShareStreaks
