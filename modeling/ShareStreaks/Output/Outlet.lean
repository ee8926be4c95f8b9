/-!
# Outlets

The output of a run leads somewhere, and what is there need not take it: a disk is full, or nobody reads
any more.  An `Outlet` says of an output how many of its bytes get through, and what is wrong if it is not
taken as a whole.
-/

set_option autoImplicit false

namespace ShareStreaks

/-- Why an output is not taken. -/
inductive OutletFault where
  /-- A part of the text is refused, for these reasons. -/
  | text (causes : List String)
  /-- The end of the last line is refused, or what was held back until then. -/
  | ending (causes : List String)
deriving DecidableEq

/-- The fault from the outside in. -/
def OutletFault.messages : OutletFault → List String
  | .text causes => "Failed to serialize JSON" :: causes
  | .ending causes => causes

structure Outlet where
  refuses : ByteArray → Option (Nat × OutletFault)

namespace Outlet

/-- Takes everything. -/
def free : Outlet := ⟨fun _ => none⟩

/-- What gets through of an output, and the fault if that is not all. -/
def put (o : Outlet) (output : ByteArray) : ByteArray × Option OutletFault :=
  match o.refuses output with
  | none => (output, none)
  | some (n, fault) => (output.extract 0 n, some fault)

end Outlet
end ShareStreaks
