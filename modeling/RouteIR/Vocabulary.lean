import RouteIR.Tree.Text

namespace RouteIR

/-!
# Words of the description language

The closed vocabularies of an API description: the scalar types, the methods of a
path, the places of a parameter, the kinds of refinement, and the literals of an
enumeration.  Each word has one spelling, and reading a spelling undoes writing it.
-/

inductive PrimitiveKind where
  | string
  | integer
  | number
  | boolean
deriving DecidableEq, Repr

namespace PrimitiveKind

def all : List PrimitiveKind := [string, integer, number, boolean]

def text : PrimitiveKind → String
  | string => "string"
  | integer => "integer"
  | number => "number"
  | boolean => "boolean"

def ofText? (spelling : String) : Option PrimitiveKind := all.find? (·.text = spelling)

theorem ofText?_text (kind : PrimitiveKind) : ofText? kind.text = some kind := by
  cases kind <;> decide

end PrimitiveKind

inductive Method where
  | get
  | post
  | put
  | patch
  | delete
  | head
  | options
  | trace
deriving DecidableEq, Repr

namespace Method

def all : List Method := [get, post, put, patch, delete, head, options, trace]

def text : Method → String
  | get => "get"
  | post => "post"
  | put => "put"
  | patch => "patch"
  | delete => "delete"
  | head => "head"
  | options => "options"
  | trace => "trace"

def ofText? (spelling : String) : Option Method := all.find? (·.text = spelling)

/-- The method that a key of a path item names, in either case of its letters.  No
other letter than those of ASCII has one of theirs as its lower case. -/
def ofKey? (key : Tree) : Option Method :=
  ofText? (String.ofList (key.display.toList.map Char.toLower))

def upperText (method : Method) : String :=
  String.ofList (method.text.toList.map Char.toUpper)

theorem ofText?_text (method : Method) : ofText? method.text = some method := by
  cases method <;> decide

end Method

/-- Where a parameter travels.  Cookies are outside the supported subset. -/
inductive ParameterLocation where
  | query
  | header
  | path
deriving DecidableEq, Repr

namespace ParameterLocation

def all : List ParameterLocation := [query, header, path]

def text : ParameterLocation → String
  | query => "query"
  | header => "header"
  | path => "path"

def ofText? (spelling : String) : Option ParameterLocation := all.find? (·.text = spelling)

def ofTree? : Tree → Option ParameterLocation
  | .str spelling => ofText? spelling
  | _ => none

theorem ofText?_text (location : ParameterLocation) :
    ofText? location.text = some location := by
  cases location <;> decide

end ParameterLocation

/-- What a refinement constrains. -/
inductive RefinementKind where
  | minLength
  | maxLength
  | minimum
  | maximum
  | pattern
deriving DecidableEq, Repr

namespace RefinementKind

/-- The canonical order: lengths, bounds, pattern. -/
def all : List RefinementKind := [minLength, maxLength, minimum, maximum, pattern]

def text : RefinementKind → String
  | minLength => "minLength"
  | maxLength => "maxLength"
  | minimum => "minimum"
  | maximum => "maximum"
  | pattern => "pattern"

def ofText? (spelling : String) : Option RefinementKind := all.find? (·.text = spelling)

/-- The word of a kind in names of decoders. -/
def slug : RefinementKind → String
  | minLength => "min_length"
  | maxLength => "max_length"
  | minimum => "minimum"
  | maximum => "maximum"
  | pattern => "pattern"

/-- Lengths and patterns apply to text, bounds to numbers, nothing to truth values. -/
def appliesTo : RefinementKind → PrimitiveKind → Bool
  | minLength, kind | maxLength, kind | pattern, kind => kind = .string
  | minimum, kind | maximum, kind => kind = .integer || kind = .number

/-- The place of a kind in the canonical order. -/
def rank : RefinementKind → Nat
  | minLength => 0
  | maxLength => 1
  | minimum => 2
  | maximum => 3
  | pattern => 4

theorem ofText?_text (kind : RefinementKind) : ofText? kind.text = some kind := by
  cases kind <;> decide

end RefinementKind

/-- A value of an enumeration. -/
inductive Literal where
  | bool (value : Bool)
  | int (value : Int)
  | float (value : Binary64)
  | str (text : String)
deriving DecidableEq, Repr

namespace Literal

def ofTree? : Tree → Option Literal
  | .bool value => some (bool value)
  | .int value => some (int value)
  | .float value => some (float value)
  | .str text => some (str text)
  | _ => none

def toTree : Literal → Tree
  | bool value => .bool value
  | int value => .int value
  | float value => .float value
  | str text => .str text

/-- Whether a literal has a text. -/
def isLegible (literal : Literal) : Bool := literal.toTree.isLegible

/-- The name of a literal's type. -/
def typeName (literal : Literal) : String := literal.toTree.kindName

/-- What two literals share when they count as one: their type and their value.  A
truth value differs from a number, and an integer from a floating-point number. -/
inductive Identity where
  | bool (value : Bool)
  | int (value : Int)
  | float (value : Number.Identity)
  | str (text : String)
deriving DecidableEq, Repr

def identity : Literal → Identity
  | bool value => .bool value
  | int value => .int value
  | float value => .float (Number.float value).identity
  | str text => .str text

/-- A list of literals without the later ones of those that count as one. -/
def distinct (literals : List Literal) : List Literal :=
  (literals.foldl (fun (kept, seen) literal =>
    if seen.contains literal.identity then (kept, seen)
    else (kept ++ [literal], literal.identity :: seen))
    (([] : List Literal), ([] : List Identity))).1

end Literal
end RouteIR
