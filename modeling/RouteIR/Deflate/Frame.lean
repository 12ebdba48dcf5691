import RouteIR.Deflate

namespace RouteIR
namespace Deflate

/-!
# Frames of compressed data

Compressed data come in frames, which tell how they are compressed and end with a checksum.
There are two kinds of frames, and data may come without any.  As with the data in it, a frame
that ends early holds what is there.
-/

inductive FrameFault where
  | header
  | method
  | flags
  | data (fault : Fault)
  | checksum
  | length
deriving DecidableEq, Repr

def FrameFault.message : FrameFault → String
  | header => "incorrect header check"
  | method => "unknown compression method"
  | flags => "unknown header flags set"
  | data fault => fault.message
  | checksum => "incorrect data check"
  | length => "incorrect length check"

abbrev Result := Except FrameFault (List UInt8)

/-- The only method of compression. -/
def deflateMethod : Nat := 8

def bytesOf : Nat → List Bool → List UInt8
  | 0, _ => []
  | count + 1, bits => .ofNat (numberOf (bits.take 8)) :: bytesOf count (bits.drop 8)

def expandData (bytes : List UInt8) : Except FrameFault Expansion :=
  (expand bytes).mapError .data

/-- The number that bytes denote, the highest first. -/
def highFirst (bytes : List UInt8) : Nat :=
  bytes.foldl (fun value byte => value * 256 + byte.toNat) 0

/-! ## Short frames -/

/-- A checksum of two sums, of the bytes and of all sums of them. -/
def sumChecksum (bytes : Array UInt8) : Nat :=
  let (low, high) := bytes.foldl (fun (low, high) byte =>
    let low := (low + byte.toNat) % 65521
    (low, (high + low) % 65521)) (1, 0)
  high * 65536 + low

/-- Expands a frame with two bytes in front.  A frame for which the reader would have to know
some data beforehand has a header that is not correct. -/
def expandShort : List UInt8 → Result
  | method :: flags :: rest =>
      if highFirst [method, flags] % 31 ≠ 0 ∨ method.toNat % 16 ≠ deflateMethod ∨ 0x80 ≤ method then
        .error .header
      else if flags.toNat.testBit 5 then if rest.length < 4 then .ok [] else .error .header
      else do
        let expansion ← expandData rest
        match expansion.rest with
        | some bits =>
            if 32 ≤ bits.length ∧ highFirst (bytesOf 4 bits) ≠ sumChecksum expansion.output then
              throw .checksum
            return expansion.output.toList
        | none => return expansion.output.toList
  | _ => .ok []

/-- Expands data in a short frame, or in none. -/
def expandFramed (bytes : List UInt8) : Result :=
  match expandShort bytes with
  | .ok output => .ok output
  | .error _ => (expandData bytes).map fun expansion => expansion.output.toList

/-! ## File frames -/

/-- The remainder of bytes, as the coefficients of a polynomial with bits for coefficients. -/
def remainderChecksum (bytes : Array UInt8) : UInt32 :=
  let step (remainder : UInt32) : UInt32 :=
    if remainder &&& 1 = 1 then (remainder >>> 1) ^^^ 0xEDB88320 else remainder >>> 1
  ~~~ bytes.foldl (fun remainder byte =>
    Nat.repeat step 8 (remainder ^^^ byte.toUInt32)) 0xFFFFFFFF

/-- What follows a text that ends with zero, absent where the zero is missing. -/
def afterZero (bytes : List UInt8) : Option (List UInt8) := (bytes.dropWhile (· ≠ 0)).tail?

def afterCount (count : Nat) (bytes : List UInt8) : Option (List UInt8) :=
  if bytes.length < count then none else some (bytes.drop count)

/-- What follows the parts of a header that flags announce. -/
def afterParts (flags : Nat) (bytes : List UInt8) : Option (List UInt8) := do
  let bytes ← match flags.testBit 2, bytes with
    | false, _ => some bytes
    | true, low :: high :: rest => afterCount (highFirst [high, low]) rest
    | true, _ => none
  let bytes ← if flags.testBit 3 then afterZero bytes else some bytes
  let bytes ← if flags.testBit 4 then afterZero bytes else some bytes
  if flags.testBit 1 then afterCount 2 bytes else some bytes

/-- Expands a frame as files have it. -/
def expandFile : List UInt8 → Result
  | first :: second :: rest => do
      if first ≠ 0x1F ∨ second ≠ 0x8B then throw .header
      match rest with
      | method :: flags :: rest =>
          if method.toNat ≠ deflateMethod then throw .method
          if 0x20 ≤ flags then throw .flags
          match (afterCount 6 rest).bind (afterParts flags.toNat) with
          | none => return []
          | some bytes =>
              let expansion ← expandData bytes
              let bits := expansion.rest.getD []
              let number (bytes : List UInt8) : Nat := highFirst bytes.reverse
              if 32 ≤ bits.length ∧
                  number (bytesOf 4 bits) ≠ (remainderChecksum expansion.output).toNat then
                throw .checksum
              if 64 ≤ bits.length ∧
                  number (bytesOf 4 (bits.drop 32)) ≠ expansion.output.size % Nat.pow 2 32 then
                throw .length
              return expansion.output.toList
      | _ => return []
  | _ => .ok []

end Deflate
end RouteIR
