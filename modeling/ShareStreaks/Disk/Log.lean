import ShareStreaks.Tables.Image

/-!
# Logs of databases

The log of a database holds pages that are newer than those in its file.  Behind a header stand *frames*:
each is a page with its number and, if it is the last of a change, with the number of pages that the
database has then.  The header and every frame name a sum over all that stands before, and every frame
repeats the *salt* of the header, so that what is left of an earlier log can be told from this one.

The frames up to the first that does not fit are those of the log (`Log.frames`), and of these the ones
up to the end of the last change are *finished* (`Log.finished`).  A database is read with the pages of its
finished frames (`Log.laidOnto`).

The *index* of a log (`Log.index`) tells where its frames are.  It is a file of its own, and belongs to the
machine that it is made on: its numbers begin with the byte of least weight.
-/

set_option autoImplicit false

namespace ShareStreaks

/-! ## Sums -/

/-- The number in some bytes, the one of least weight first. -/
def littleEndian (b : ByteArray) (start : Nat) : Nat → Nat
  | 0 => 0
  | n + 1 => byteAt b start + 256 * littleEndian b (start + 1) n

/-- Some bytes that a number is stored in, the one of least weight first. -/
def littleBytes (count n : Nat) : List UInt8 := (List.range count).map fun i => (n / 256 ^ i).toUInt8

/-- Two sums over words of 32 bits. -/
structure Sums where
  first : UInt32 := 0
  second : UInt32 := 0
deriving DecidableEq

namespace Sums

/-- Goes on over pairs of words, as many as are given, from a place on. -/
def continued (isBig : Bool) (b : ByteArray) : Nat → Nat → Sums → Sums
  | 0, _, s => s
  | pairs + 1, i, s =>
    let word (i : Nat) : UInt32 := (if isBig then bigEndian b i 4 else littleEndian b i 4).toUInt32
    let first := s.first + word i + s.second
    continued isBig b pairs (i + 8) ⟨first, s.second + word (i + 4) + first⟩

/-- The sums that stand at a place. -/
def stored (b : ByteArray) (i : Nat) : Sums :=
  ⟨(bigEndian b i 4).toUInt32, (bigEndian b (i + 4) 4).toUInt32⟩

end Sums

/-! ## Reading a log -/

/-- What the header of a log says. -/
structure LogHeader where
  isBig : Bool := false
  pageSize : Nat := 0
  salt : List UInt8 := List.replicate 8 0
deriving DecidableEq

structure Frame where
  /-- The number of the page. -/
  number : Nat
  /-- The pages of the database, if a change ends here. -/
  pageCount : Nat
  /-- The place of the page in the log. -/
  place : Nat
  sums : Sums
deriving DecidableEq

structure Log where
  bytes : ByteArray := .empty
  header : LogHeader := {}
  /-- How many frames there is room for. -/
  room : Nat := 0
  frames : List Frame := []

namespace Log

/-- The header at the front of a log. -/
def header? (b : ByteArray) : Option LogHeader :=
  let pageSize := bigEndian b 8 4
  if 32 < b.size && bigEndian b 0 4 / 2 == 0x377F0682 / 2 && Image.isPageSize pageSize then
    some ⟨bigEndian b 0 4 % 2 == 1, pageSize, (b.extract 16 24).toList⟩
  else none

/-- The frames from a place on, at most as many as are given. -/
def framesFrom (h : LogHeader) (b : ByteArray) : Nat → Nat → Sums → List Frame
  | 0, _, _ => []
  | most + 1, i, s =>
    let s := Sums.continued h.isBig b (h.pageSize / 8) (i + 24) (Sums.continued h.isBig b 1 i s)
    let number := bigEndian b i 4
    if (b.extract (i + 8) (i + 16)).toList == h.salt && number != 0 && s == Sums.stored b (i + 16) then
      ⟨number, bigEndian b (i + 4) 4, i + 24, s⟩ :: framesFrom h b most (i + 24 + h.pageSize) s
    else []

/-- Reads a log.  What is no log, or breaks off in its header, has no frames; one of another version is
not read. -/
def ofBytes (b : ByteArray) : Option Log :=
  match header? b with
  | none => some { bytes := b }
  | some h =>
    let s := Sums.continued h.isBig b 3 0 {}
    if s != Sums.stored b 24 then some { bytes := b, header := h }
    else if bigEndian b 4 4 != 3007000 then none
    else
      let room := (b.size - 32) / (h.pageSize + 24)
      some ⟨b, h, room, framesFrom h b room 32 s⟩

/-- The frames up to the end of the last change. -/
def finished (l : Log) : List Frame := (l.frames.reverse.dropWhile fun f => f.pageCount == 0).reverse

/-- There is a header, and its salt is another than what was read. -/
def isForeign (l : Log) : Bool :=
  32 ≤ l.bytes.size && (l.bytes.extract 16 24).toList != l.header.salt

/-- The bytes of a database with the finished pages of its log. -/
def laidOnto (l : Log) (file : ByteArray) : ByteArray :=
  match l.finished.getLast? with
  | none => file
  | some last =>
    let size := l.header.pageSize
    let page (number : Nat) : ByteArray :=
      match l.finished.reverse.find? fun f => f.number == number with
      | some f => l.bytes.extract f.place (f.place + size)
      | none =>
        let here := file.extract ((number - 1) * size) (number * size)
        here ++ ⟨Array.replicate (size - here.size) 0⟩
    (List.range last.pageCount).foldl (fun bytes i => bytes ++ page (i + 1)) .empty

/-! ## The index of a log -/

/-- How many slots there are on a page of the index. -/
def slotCount : Nat := 8192

/-- The first free slot, if it is looked for from a slot on. -/
def freeSlot (slots : Array Nat) : Nat → Nat → Nat
  | 0, i => i
  | steps + 1, i => if slots[i]?.getD 0 = 0 then i else freeSlot slots steps ((i + 1) % slotCount)

/-- The slots by which the numbers of pages are found: each has the place of a number among them. -/
def slots (numbers : List Nat) : Array Nat :=
  (numbers.zipIdx 1).foldl
    (fun slots (number, k) =>
      slots.setIfInBounds (freeSlot slots slotCount (number * 383 % slotCount)) k)
    (Array.replicate slotCount 0)

/-- The page of the index with some bytes at its front and the numbers of some pages. -/
def indexPage (front : List UInt8) (numbers : List Nat) : List UInt8 :=
  front ++ numbers.flatMap (littleBytes 4)
    ++ List.replicate (16384 - front.length - 4 * numbers.length) 0
    ++ (slots numbers).toList.flatMap (littleBytes 2)

/-- The header of an index, without the sums at its end. -/
def headerBytes (l : Log) : List UInt8 :=
  let last := l.finished.getLast?
  let size := if last.isSome then l.header.pageSize else 0
  let sums := (last.map Frame.sums).getD {}
  littleBytes 4 3007000 ++ littleBytes 4 0 ++ littleBytes 4 0 ++ [1, if l.header.isBig then 1 else 0]
    ++ littleBytes 2 (if size = 65536 then 1 else size) ++ littleBytes 4 l.finished.length
    ++ littleBytes 4 ((last.map Frame.pageCount).getD 0)
    ++ littleBytes 4 sums.first.toNat ++ littleBytes 4 sums.second.toNat ++ l.header.salt

/-- What stands at the front of an index: its header twice, and how far readers have come. -/
def frontBytes (l : Log) : List UInt8 :=
  let sums := Sums.continued false ⟨l.headerBytes.toArray⟩ 5 0 {}
  let header := l.headerBytes ++ littleBytes 4 sums.first.toNat ++ littleBytes 4 sums.second.toNat
  let none := 0xFFFFFFFF
  let count := l.finished.length
  header ++ header ++ littleBytes 8 0 ++ littleBytes 4 (if count = 0 then none else count)
    ++ littleBytes 4 none ++ littleBytes 4 none ++ littleBytes 4 none
    ++ littleBytes 8 0 ++ littleBytes 4 count ++ littleBytes 4 0

/-- The page of the index that tells of a frame, the first of them being page zero. -/
def indexPageOf (frame : Nat) : Nat := (frame + 33) / 4096

/-- The index of a log.  It has a page for the first frame that does not fit. -/
def index (l : Log) : ByteArray :=
  let numbers := l.frames.map Frame.number
  let pages := indexPageOf (min (numbers.length + 1) l.room)
  let rest := numbers.drop 4062
  ⟨(indexPage l.frontBytes (numbers.take 4062) ++ (List.range pages).flatMap fun i =>
    indexPage [] ((rest.drop (4096 * i)).take 4096)).toArray⟩

/-- The index of a log that is not read. -/
def blankIndex : ByteArray := ⟨Array.replicate 32768 0⟩

end Log
end ShareStreaks
