import RouteIR.Address.Label
import RouteIR.Address.Numeric
import RouteIR.Text.Digit
import RouteIR.Text.Blank
import RouteIR.Text.LowerCase

namespace RouteIR
namespace Address

/-!
# Addresses on the network

A document can be asked for at an address if the part of it that names a host and a port is in
order.  The path after it can be any text; what an address may not hold is spelled out by those
who send it.
-/

/-- Why nothing can be asked for at an address. -/
inductive AddressFault where
  | malformed
  /-- The name of the host starts with a label in ASCII that encodes none, or another of its
  labels is none. -/
  | label (fault : LabelFault)
  /-- The zone of a numeric host is not in ASCII. -/
  | zone
deriving DecidableEq, Repr

/-- What starts an address. -/
def schemes : List String := ["http://", "https://"]

/-- What follows the scheme, for a text that is meant as an address. -/
def afterScheme? (text : String) : Option (List Char) :=
  (schemes.find? fun scheme => scheme.toList.isPrefixOf text.toList).map fun scheme =>
    text.toList.drop scheme.length

/-- The part of an address that names a host. -/
structure Authority where
  host : List Char
  /-- What stands for the port, empty where none is named. -/
  port : List Char
deriving DecidableEq, Repr

/-- What stands after the last occurrence of a character, the whole text where there is none. -/
def afterLast (char : Char) (text : List Char) : List Char :=
  (text.reverse.takeWhile (· ≠ char)).reverse

/-- A port is set off from the host by a colon.  A host in brackets may hold colons; it ends at
the last bracket, and the colon after it may be missing.  What stands before an at-sign is for
the host alone to know. -/
def Authority.ofText (text : List Char) : Authority :=
  let located := afterLast '@' text
  let host :=
    if located.head? = some '[' ∧ located.contains ']' then
      located.take (located.length - (afterLast ']' located).length)
    else located.takeWhile (· ≠ ':')
  match located.drop host.length with
  | ':' :: port => ⟨host, port⟩
  | port => ⟨host, port⟩

/-- How many digits a port can have. -/
def maxPortDigits : Nat := 4300

/-- Whether a text is digits, with single underscores between them. -/
def isGroupedNumber (text : List Char) : Bool :=
  ((text.splitOn '_').all fun digits => !digits.isEmpty && digits.all Char.isDigit) &&
    text.countP Char.isDigit ≤ maxPortDigits

/-- A port is an integer, with white space around it and a sign if need be. -/
def isPort (text : List Char) : Bool :=
  match Text.trimWhiteSpace (text.map Text.plainDigit) with
  | '+' :: digits => isGroupedNumber digits
  | '-' :: digits => isGroupedNumber digits
  | digits => isGroupedNumber digits

/-- Whether a host stands in brackets, as groups of hexadecimal digits do. -/
def isBracketed (host : List Char) : Bool := host.head? = some '[' && host.getLast? = some ']'

/-- A host is a number, or a name: any text in ASCII, or labels in other scripts too. -/
def isHost (host : List Char) : Bool :=
  if looksNumeric host then isQuad host
  else if isBracketed host then isZoned host.tail.dropLast
  else isAscii host || isInternationalName (host.flatMap Text.lowerCase)

/-- How long an address can be. -/
def maxLength : Nat := 65536

def isControl (char : Char) : Bool := char.toNat < 0x20 || char.toNat == 0x7F

/-- Whether a character sets the path, the query or the fragment off from what is before. -/
def endsAuthority (char : Char) : Bool := char = '/' || char = '?' || char = '#'

/-- Checks that a document can be asked for at an address, given what follows its scheme. -/
def check (address : String) (afterScheme : List Char) : Except AddressFault Unit := do
  let authority := Authority.ofText (afterScheme.takeWhile (!endsAuthority ·))
  if maxLength < address.length || address.toList.any isControl || !isHost authority.host ||
      !(authority.port.isEmpty || isPort authority.port) then throw .malformed
  if isAscii authority.host then
    (checkEncodedName (authority.host.map Char.toLower)).mapError .label
  else if isBracketed authority.host then throw .zone

end Address
end RouteIR
