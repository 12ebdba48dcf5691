import RouteIR.Calendar
import RouteIR.Number.Decimal

namespace RouteIR

/-!
# Document trees

A source document, once its JSON or YAML text is read, is a tree of scalars,
lists and mappings.  Mappings keep the order of their entries, and their keys may
be any scalar: YAML writes a response status as a number and a component name as
a truth value.  The members that only tagged YAML can write (bytes, dates, sets,
tuples) are part of the tree because messages show them.

A YAML document may hold a value that lies inside itself, and its tree would never end.
Such a tree is cut at a depth that no reader reaches, and every compound value on the way
there carries a label: copies of one value have one label.

Two keys are the same when they denote the same value: numbers by their exact
value, truth values counting as one and zero.  That notion is `Tree.identity`,
an invariant of a key that can be compared with decidable equality.
-/

/-- Tells the values of a document apart that may lie inside themselves. -/
abbrev Label := Nat × Nat

inductive Tree where
  | null
  | bool (value : Bool)
  | int (value : Int)
  | float (value : Binary64)
  | str (text : String)
  | bytes (content : List UInt8)
  | date (value : Date)
  | dateTime (value : DateTime)
  | list (items : List Tree) (label : Option Label)
  | tuple (items : List Tree) (label : Option Label)
  | set (members : List Tree)
  | map (entries : List (Tree × Tree)) (label : Option Label)
deriving Repr

/-- Integers of more decimal digits are neither written in base ten nor read from it. -/
def digitLimit : Nat := 4300

/-- An integer or a floating-point number; the two spellings of a value stay apart. -/
inductive Number where
  | int (value : Int)
  | float (value : Binary64)
deriving DecidableEq, Repr

namespace Number

/-- The exact value as an order key, absent for what is not a number. -/
def orderKey : Number → Option (Int × Int)
  | int value => some (0, value * Binary64.unitsPerOne)
  | float value => value.orderKey

/-- Strictly greater by exact value; never when either side is not a number. -/
def exceeds (left right : Number) : Bool :=
  match left.orderKey, right.orderKey with
  | some (leftClass, leftUnits), some (rightClass, rightUnits) =>
      rightClass < leftClass || (rightClass = leftClass && rightUnits < leftUnits)
  | _, _ => false

/-- Where what is not a number came from. -/
def origin : Number → Nat
  | int _ => 0
  | float value => value.origin

/-- What numbers share that are the same: their exact value in either spelling or, where
there is none, their origin. -/
inductive Identity where
  | value (key : Int × Int)
  | noNumber (origin : Nat)
deriving DecidableEq, Repr

def identity (number : Number) : Identity :=
  match number.orderKey with
  | some key => .value key
  | none => .noNumber number.origin

def text : Number → String
  | int value => toString value
  | float value => value.text

def toTree : Number → Tree
  | int value => .int value
  | float value => .float value

/-- Whether a number has a text: an integer has none when it has too many digits.  The numbers
of the floating-point format are all far below that. -/
def isLegible (number : Number) : Bool :=
  match number.orderKey with
  | some (_, units) => units.natAbs < Nat.pow 10 digitLimit * Binary64.unitsPerOne
  | none => true

end Number

/-- What a key denotes.  Keys with one identity are the same key. -/
inductive Identity where
  | null
  | number (value : Number.Identity)
  | text (value : String)
  | bytes (content : List UInt8)
  | day (value : Date)
  | localTime (value : DateTime)
  | instant (microseconds : Int)
deriving DecidableEq, Repr

/-- The compound values that cannot serve as keys. -/
inductive Compound where
  | list
  | tuple
  | set
  | map
deriving DecidableEq, Repr

namespace Tree

/-- The identity of a scalar, or the kind of compound value that has none. -/
def identity : Tree → Except Compound Identity
  | null => .ok .null
  | bool value => .ok (.number (Number.int (if value then 1 else 0)).identity)
  | int value => .ok (.number (Number.int value).identity)
  | float value => .ok (.number (Number.float value).identity)
  | str value => .ok (.text value)
  | bytes content => .ok (.bytes content)
  | date value => .ok (.day value)
  | dateTime value =>
      match value.offset with
      | none => .ok (.localTime value)
      | some offset => .ok (.instant (value.instant offset))
  | list _ _ => .error .list
  | tuple _ _ => .error .tuple
  | set _ => .error .set
  | map _ _ => .error .map

/-- Whether a tree is the given text. -/
def isText (text : String) : Tree → Bool
  | str value => value = text
  | _ => false

/-- What stands under a text key among the entries of a mapping. -/
def lookup? (key : String) : List (Tree × Tree) → Option Tree
  | [] => none
  | (entryKey, value) :: rest => if entryKey.isText key then some value else lookup? key rest

/-- What stands under a text key, null when nothing does. -/
def field (key : String) (entries : List (Tree × Tree)) : Tree :=
  (lookup? key entries).getD null

def hasKey (key : String) (entries : List (Tree × Tree)) : Bool :=
  (lookup? key entries).isSome

/-- Null, false, zero and whatever is empty count as absent where a default exists. -/
def isEmptyLike : Tree → Bool
  | null => true
  | bool value => !value
  | int value => value = 0
  | float (.finite _ significand _) => significand = 0
  | float _ => false
  | str text => text.isEmpty
  | bytes content => content.isEmpty
  | date _ => false
  | dateTime _ => false
  | list items _ => items.isEmpty
  | tuple items _ => items.isEmpty
  | set members => members.isEmpty
  | map entries _ => entries.isEmpty

/-! ## Values with a text -/

mutual

/-- Whether a tree has a text: whether all numbers in it have one. -/
def isLegible : Tree → Bool
  | int value => (Number.int value).isLegible
  | float value => (Number.float value).isLegible
  | list items _ => areLegible items
  | tuple items _ => areLegible items
  | set members => areLegible members
  | map entries _ => entriesAreLegible entries
  | _ => true

def areLegible : List Tree → Bool
  | [] => true
  | item :: rest => item.isLegible && areLegible rest

def entriesAreLegible : List (Tree × Tree) → Bool
  | [] => true
  | (key, value) :: rest => key.isLegible && value.isLegible && entriesAreLegible rest

end

/-- Whether the keys of a mapping all have a text. -/
def keysAreLegible (entries : List (Tree × Tree)) : Bool := entries.all (·.1.isLegible)

theorem keysAreLegible_cons (entry : Tree × Tree) (rest : List (Tree × Tree)) :
    keysAreLegible (entry :: rest) = (entry.1.isLegible && keysAreLegible rest) := rfl

theorem keysAreLegible_of_perm {entries others : List (Tree × Tree)}
    (order : entries.Perm others) : keysAreLegible entries = keysAreLegible others :=
  order.all_eq

/-! ## Values inside themselves -/

/-- Whether a value with this label lies inside a value with the same one. -/
def recurs (around : List Label) (label : Option Label) : Bool := label.any around.contains

mutual

/-- Whether a value is met again inside itself, or is one of those around it. -/
def recursWithin (around : List Label) : Tree → Bool
  | list items label =>
      recurs around label || anyRecursWithin (label.toList ++ around) items
  | tuple items label =>
      recurs around label || anyRecursWithin (label.toList ++ around) items
  | map entries label =>
      recurs around label || anyEntryRecursWithin (label.toList ++ around) entries
  | _ => false

def anyRecursWithin (around : List Label) : List Tree → Bool
  | [] => false
  | item :: rest => item.recursWithin around || anyRecursWithin around rest

def anyEntryRecursWithin (around : List Label) : List (Tree × Tree) → Bool
  | [] => false
  | (_, value) :: rest => value.recursWithin around || anyEntryRecursWithin around rest

end

/-- Whether some value in a tree lies inside itself, so that the tree never ends. -/
def isEndless (tree : Tree) : Bool := tree.recursWithin []

end Tree
end RouteIR
