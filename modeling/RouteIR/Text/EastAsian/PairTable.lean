namespace RouteIR
namespace Text
namespace EastAsian

/-!
# Pairs of bytes

The characters of East Asian scripts are too many for a byte, and stand for pairs of bytes.
-/

/-- For a first byte, and second bytes in a row that start with the given one, the characters
of the pairs; what is left open is U+FFFD. -/
abbrev PairTable := List (Nat × Nat × String)

/-- The character of a pair, if it has one. -/
def PairTable.find? (table : PairTable) (first second : Nat) : Option Char :=
  table.findSome? fun (lead, start, chars) =>
    if lead = first ∧ start ≤ second then
      (chars.toList[second - start]?).filter (· ≠ '\ufffd')
    else none

/-- The character of a pair in the first of two tables that has one. -/
def PairTable.findIn? (tables : List PairTable) (first second : Nat) : Option Char :=
  tables.findSome? (·.find? first second)

end EastAsian
end Text
end RouteIR
