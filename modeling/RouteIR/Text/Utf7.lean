import RouteIR.Text.CodePoint

namespace RouteIR
namespace Text
namespace Utf7

/-!
# Seven-bit units

In mail a text may have to go in seven bits: ASCII stands for itself, and what else there is
goes in sections that a plus sign opens.  A section holds units of two bytes in base 64.
Reading is lenient, as for other encodings.
-/

def digitValue? (byte : UInt8) : Option Nat :=
  let char := Char.ofNat byte.toNat
  if char.isUpper then some (char.toNat - 'A'.toNat)
  else if char.isLower then some (char.toNat - 'a'.toNat + 26)
  else if char.isDigit then some (char.toNat - '0'.toNat + 52)
  else if char = '+' then some 62
  else if char = '/' then some 63
  else none

/-- A section that is being read. -/
structure Section where
  /-- The bits that no unit has been made of, and their number. -/
  bits : Nat
  count : Nat
  /-- The first half of a character beyond U+FFFF. -/
  high : Option Nat
deriving Repr

namespace Section

def start : Section := ⟨0, 0, none⟩

/-- The characters that a unit completes. -/
def unit (state : Section) (code : Nat) : List Char × Option Nat :=
  match state.high with
  | some high =>
      if isLowSurrogate code then ([joinSurrogates high code], none)
      else if isHighSurrogate code then ([charOfCode high], some code)
      else ([charOfCode high, charOfCode code], none)
  | none => if isHighSurrogate code then ([], some code) else ([charOfCode code], none)

def digit (state : Section) (value : Nat) : List Char × Section :=
  let bits := state.bits * 64 + value
  let count := state.count + 6
  if count < 16 then ([], { state with bits, count })
  else
    let left := count - 16
    let (chars, high) := state.unit (bits / Nat.pow 2 left)
    (chars, ⟨bits % Nat.pow 2 left, left, high⟩)

/-- Whether the bits that are left over are the rest of a character. -/
def isBroken (state : Section) : Bool := 6 ≤ state.count || state.bits ≠ 0

end Section

/-- The characters of bytes, the first of which may lie in a section. -/
def decode (inSection : Option Section) : List UInt8 → List Char
  | [] => if inSection.any fun state => state.isBroken || state.high.isSome then ['\ufffd'] else []
  | byte :: rest =>
      let plain : List Char :=
        if 0x80 ≤ byte then '\ufffd' :: decode none rest
        else if byte = '+'.toUInt8 then
          match rest with
          | next :: after =>
              if next = '-'.toUInt8 then '+' :: decode none after
              else if (digitValue? next).isNone then '\ufffd' :: decode none after
              else decode (some .start) (next :: after)
          | [] => []
        else Char.ofNat byte.toNat :: decode none rest
      match inSection with
      | none => plain
      | some state =>
          match digitValue? byte with
          | some value =>
              let (chars, next) := state.digit value
              chars ++ decode (some next) rest
          | none =>
              if state.isBroken then '\ufffd' :: decode none rest
              else
                let lone := if byte < 0x80 then (state.high.map charOfCode).toList else []
                lone ++ if byte = '-'.toUInt8 then decode none rest else plain

end Utf7
end Text
end RouteIR
