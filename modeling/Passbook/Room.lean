/-!
# Room in memory

Where it is fixed in advance how many items a list can have, room for all of
them is asked for before the first is there, however few there will be. The list
is one piece, and a piece has at most half of the addresses. What a machine
grants in all is bounded by its memory.

## Main results

* `request_eq_ok_iff` — what fits into a piece and into the memory is granted,
  and nothing else.
-/

namespace Passbook.Room

/-- The most bytes that one piece has. -/
def largestPiece : Nat := 9223372036854775807

/-- One piece can hold so many items of so many bytes each. -/
def Fits (count bytes : Nat) : Prop := count * bytes ≤ largestPiece

instance (count bytes : Nat) : Decidable (Fits count bytes) := Nat.decLe _ _

/-- The bytes that an item of a list takes up. -/
structure Item where
  /-- Its place in the list. -/
  place : Nat
  /-- What it has besides. -/
  apart : Nat

/-- All bytes that an item takes up. -/
def Item.total (item : Item) : Nat := item.place + item.apart

/-- Why there is no room. -/
inductive Shortage where
  /-- No piece is that large. -/
  | tooLarge
  /-- The machine has not that much memory. -/
  | outOfMemory
deriving DecidableEq

/-- Asks a machine with some bytes of memory for a list of so many items. -/
def request (memory count : Nat) (item : Item) : Except Shortage Unit :=
  if ¬ Fits count item.place then .error .tooLarge
  else if memory < count * item.total then .error .outOfMemory
  else .ok ()

theorem request_eq_ok_iff {memory count : Nat} {item : Item} :
    request memory count item = .ok () ↔
      Fits count item.place ∧ count * item.total ≤ memory := by
  unfold request
  split
  · simp [*]
  · split
    · simp only [reduceCtorEq, false_iff]
      omega
    · simp_all

end Passbook.Room
