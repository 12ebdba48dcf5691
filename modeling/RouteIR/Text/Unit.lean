import RouteIR.Text.CodePoint

namespace RouteIR
namespace Text

/-!
# Encodings of code points

A code point is written in units of one, two or four bytes.  Reading is lenient: a row of bytes
that starts a character and does not end one reads as U+FFFD, and so does a byte that starts
none.
-/

def replacement : Char := '\ufffd'

/-! ## Units of one byte -/

/-- A character of which some bytes have been read: their bits, how many are to come, and the
least and the greatest value that the next can have. -/
structure Begun where
  bits : Nat
  missing : Nat
  least : Nat
  greatest : Nat
deriving Repr

/-- A character that a byte begins; the second byte's range rules out what could be written in
fewer bytes, the surrogates, and all beyond U+10FFFF. -/
def Begun.ofByte? (byte : Nat) : Option Begun :=
  if byte < 0xC2 then none
  else if byte < 0xE0 then some ⟨byte - 0xC0, 1, 0x80, 0xBF⟩
  else if byte < 0xF0 then
    some ⟨byte - 0xE0, 2, if byte = 0xE0 then 0xA0 else 0x80, if byte = 0xED then 0x9F else 0xBF⟩
  else if byte < 0xF5 then
    some ⟨byte - 0xF0, 3, if byte = 0xF0 then 0x90 else 0x80, if byte = 0xF4 then 0x8F else 0xBF⟩
  else none

/-- The characters of bytes, the first of which may belong to a character begun before. -/
def decodeUtf8 (begun : Option Begun) : List UInt8 → List Char
  | [] => if begun.isSome then [replacement] else []
  | byte :: rest =>
      let start (broken : List Char) : List Char :=
        if byte < 0x80 then broken ++ Char.ofNat byte.toNat :: decodeUtf8 none rest
        else match Begun.ofByte? byte.toNat with
          | some next => broken ++ decodeUtf8 (some next) rest
          | none => broken ++ replacement :: decodeUtf8 none rest
      match begun with
      | none => start []
      | some state =>
          if state.least ≤ byte.toNat ∧ byte.toNat ≤ state.greatest then
            let bits := state.bits * 64 + (byte.toNat - 0x80)
            if state.missing = 1 then Char.ofNat bits :: decodeUtf8 none rest
            else decodeUtf8 (some ⟨bits, state.missing - 1, 0x80, 0xBF⟩) rest
          else start [replacement]

/-- The bytes that U+FEFF takes, which may mark the start of a text. -/
def utf8Mark : List UInt8 := [0xEF, 0xBB, 0xBF]

/-! ## Larger units -/

inductive ByteOrder where
  | littleEndian
  | bigEndian
deriving DecidableEq, Repr

/-- The number that bytes denote. -/
def ByteOrder.number (order : ByteOrder) (bytes : List UInt8) : Nat :=
  let largestFirst := match order with
    | littleEndian => bytes.reverse
    | bigEndian => bytes
  largestFirst.foldl (fun value byte => value * 256 + byte.toNat) 0

/-- The characters of units of two bytes.  A broken end is one character. -/
def decodeUtf16 (order : ByteOrder) : List UInt8 → List Char
  | first :: second :: third :: fourth :: rest =>
      let unit := order.number [first, second]
      let next := order.number [third, fourth]
      if isHighSurrogate unit && isLowSurrogate next then
        joinSurrogates unit next :: decodeUtf16 order rest
      else charOfCode unit :: decodeUtf16 order (third :: fourth :: rest)
  | [first, second, third] =>
      let unit := order.number [first, second]
      if isHighSurrogate unit then [replacement]
      else charOfCode unit :: decodeUtf16 order [third]
  | [first, second] => [charOfCode (order.number [first, second])]
  | [_] => [replacement]
  | [] => []

/-- The characters of units of four bytes. -/
def decodeUtf32 (order : ByteOrder) : List UInt8 → List Char
  | first :: second :: third :: fourth :: rest =>
      let code := order.number [first, second, third, fourth]
      (if code ≤ 0x10FFFF then charOfCode code else replacement) :: decodeUtf32 order rest
  | [] => []
  | _ => [replacement]

end Text
end RouteIR
