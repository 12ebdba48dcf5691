namespace RouteIR
namespace Deflate

/-!
# Prefix codes

A prefix code is told by the lengths of its codes: of two symbols the one with the shorter code
comes first, then the one with the lower number, and their codes ascend.  A code is read bit by
bit, counting how far it lies behind the first code of its length.
-/

/-- The symbols of a code by the lengths of their codes, from length one on. -/
structure PrefixCode where
  groups : List (List Nat)
deriving DecidableEq, Repr

namespace PrefixCode

/-- The code in which the symbols have codes of the given lengths; a symbol of length zero has
none. -/
def ofLengths (lengths : List Nat) : PrefixCode :=
  let longest := lengths.foldl max 1
  ⟨(List.range' 1 longest).map fun length =>
    (lengths.zipIdx.filter (·.1 == length)).map Prod.snd⟩

/-- How many codes of the greatest length are left over, less than none if there are too many
codes. -/
def room (code : PrefixCode) : Int :=
  code.groups.foldl (fun left group => 2 * left - group.length) 1

def isEmpty (code : PrefixCode) : Bool := code.groups.all List.isEmpty

/-- Whether every row of bits starts with a code, or there are no codes at all. -/
def isComplete (code : PrefixCode) : Bool := code.isEmpty || code.room == 0

/-- Whether a code is complete, or has a single symbol. -/
def isUsable (code : PrefixCode) : Bool :=
  code.isComplete || (code.groups.length == 1 && 0 < code.room)

/-- What a row of bits starts with. -/
inductive Match where
  | symbol (number : Nat) (rest : List Bool)
  /-- No code of the greatest length or less. -/
  | nothing
  /-- The bits end within a code. -/
  | ended
deriving DecidableEq, Repr

/-- Looks for a code among those that are not shorter than what has been read, which lies the
given number of codes behind the first of them. -/
def seek (behind : Nat) : List (List Nat) → List Bool → Match
  | [], _ => .nothing
  | _ :: _, [] => .ended
  | group :: groups, bit :: bits =>
      let place := 2 * behind + bit.toNat
      match group[place]? with
      | some number => .symbol number bits
      | none => seek (place - group.length) groups bits

def read (code : PrefixCode) (bits : List Bool) : Match := seek 0 code.groups bits

end PrefixCode
end Deflate
end RouteIR
