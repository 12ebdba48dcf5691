import RouteIR.Tree

namespace RouteIR
namespace Tree

/-!
# The order of sets

A set of numbers is shown in the order of slots.  There are more slots than members, and each
member lies in the slot that the residue of its value tells, or else in the next free one after
it, or else in one that the whole residue leads to.  Sets of other values keep the order in
which they are written.
-/

/-- Numbers count modulo this one. -/
def residueModulus : Nat := Nat.pow 2 61 - 1

/-- The residue of a number's value, as a word of 64 bits.  A value counts with its sign, so
that minus one would be the greatest word of all; it counts as minus two. -/
def residue? : Identity → Option Nat
  | .number (.value (0, units)) =>
      let magnitude := units.natAbs * Nat.pow 2 24 % residueModulus
      let signed : Int := if units < 0 then -(magnitude : Int) else magnitude
      some (((if signed = -1 then -2 else signed) % (Nat.pow 2 64 : Nat)).toNat)
  | .number (.value (infinity, _)) => some ((infinity * 314159 % (Nat.pow 2 64 : Nat)).toNat)
  | _ => none

/-- The number of slots for a number of members: a power of two. -/
def slotCount (members : Nat) : Nat :=
  if members < 5 then 8 else Nat.pow 2 (Nat.log2 (2 * members) + 1)

/-- How many slots after the first are looked at, if there are so many. -/
def neighbours : Nat := 9

/-- The slot for a member: the first free one of a slot and its neighbours, else of those that
the rest of the residue leads to. -/
def findSlot (slots : Array (Option Tree)) (start rest : Nat) : Nat → Option Nat
  | 0 => none
  | fuel + 1 =>
      let width := if start + neighbours < slots.size then neighbours + 1 else 1
      let free := (List.range' start width).find? fun slot => (slots.getD slot none).isNone
      match free with
      | some slot => some slot
      | none =>
          let rest := rest / 32
          findSlot slots ((start * 5 + 1 + rest) % slots.size) rest fuel

def insertInSlots (slots : Array (Option Tree)) (member : Tree × Nat) : Array (Option Tree) :=
  let (tree, residue) := member
  match findSlot slots (residue % slots.size) residue (slots.size + 16) with
  | some slot => slots.set! slot (some tree)
  | none => slots

/-- Members of a set, which differ from each other, in the order in which they are shown. -/
def inSlotOrder (members : List Tree) : List Tree :=
  let residues := members.mapM fun member => do
    return (member, ← residue? (← member.identity.toOption))
  match residues with
  | none => members
  | some located =>
      let empty := Array.replicate (slotCount members.length) none
      (located.foldl insertInSlots empty).toList.filterMap id

end Tree
end RouteIR
