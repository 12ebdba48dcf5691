import RouteIR.Rule

namespace RouteIR

/-!
# Refinements of primitive types

A refinement is a constraint that a decoder has to check.  The normal form of the
constraints of a schema, in any order and among any other keys, has at most one
refinement of each kind, in the canonical order, so that schemas which differ in the
order of their keys alone share a decoder.
-/

inductive Refinement where
  | minLength (value : Int)
  | maxLength (value : Int)
  | minimum (value : Number)
  | maximum (value : Number)
  | pattern (text : String)
deriving DecidableEq, Repr

namespace Refinement

def kind : Refinement → RefinementKind
  | minLength _ => .minLength
  | maxLength _ => .maxLength
  | minimum _ => .minimum
  | maximum _ => .maximum
  | pattern _ => .pattern

/-- The value as it reads in names and descriptions.  Neither is made for a value that is not
legible. -/
def valueText : Refinement → String
  | minLength value | maxLength value => toString value
  | minimum value | maximum value => value.text
  | pattern text => text

def valueTree : Refinement → Tree
  | minLength value | maxLength value => .int value
  | minimum value | maximum value => value.toTree
  | pattern text => .str text

/-- Whether the value of a refinement has a text. -/
def isLegible (refinement : Refinement) : Bool := refinement.valueTree.isLegible

/-- The number of a bound or a length. -/
def number? : Refinement → Option Number
  | minLength value | maxLength value => some (.int value)
  | minimum value | maximum value => some value
  | pattern _ => none

/-- What two refinements share when they count as one: equal numbers count as one in
either spelling. -/
inductive Identity where
  | bound (kind : RefinementKind) (value : Number.Identity)
  | pattern (text : String)
deriving DecidableEq, Repr

def identity : Refinement → Identity
  | minLength value => .bound .minLength (Number.int value).identity
  | maxLength value => .bound .maxLength (Number.int value).identity
  | minimum value => .bound .minimum value.identity
  | maximum value => .bound .maximum value.identity
  | pattern text => .pattern text

/-! ## Normal form -/

/-- A constraint of a schema as declared, or a refinement made before. -/
inductive Constraint where
  | declared (key : String) (value : Tree)
  | made (refinement : Refinement)
deriving Repr

def lengthOf (kind : RefinementKind) : Tree → Except Rule Int
  | .int value => if value < 0 then .error (.invalid (.lengthValue kind (.int value))) else .ok value
  | other => .error (.invalid (.lengthValue kind other))

def boundOf (kind : RefinementKind) : Tree → Except Rule Number
  | .int value => .ok (.int value)
  | .float value => .ok (.float value)
  | other => .error (.invalid (.boundValue kind other))

/-- The refinement of a kind with a value: a length is a natural number, a bound is a
number, a pattern is a text. -/
def build (kind : RefinementKind) (value : Tree) : Except Rule Refinement :=
  match kind with
  | .minLength => (lengthOf .minLength value).map minLength
  | .maxLength => (lengthOf .maxLength value).map maxLength
  | .minimum => (boundOf .minimum value).map minimum
  | .maximum => (boundOf .maximum value).map maximum
  | .pattern =>
      match value with
      | .str text => .ok (pattern text)
      | other => .error (.invalid (.patternValue other))

/-- The refinement that a constraint asks for, if it asks for one. -/
def ofConstraint : Constraint → Except Rule (Option Refinement)
  | .made refinement => .ok (some refinement)
  | .declared key value =>
      match RefinementKind.ofText? key with
      | none => .ok none
      | some kind => (build kind value).map some

/-- Adds the refinements of constraints to those found before.  A kind may occur
once. -/
def collect : List Refinement → List Constraint → Except Rule (List Refinement)
  | found, [] => .ok found
  | found, constraint :: rest => do
      match ← ofConstraint constraint with
      | none => collect found rest
      | some refinement =>
          if found.any (·.kind = refinement.kind) then .error (.conflicting refinement.kind)
          else collect (found ++ [refinement]) rest

def find? (kind : RefinementKind) (refinements : List Refinement) : Option Refinement :=
  refinements.find? (·.kind = kind)

/-- A lower bound must not exceed its upper bound. -/
def checkBounds (low high : RefinementKind) (refinements : List Refinement) : Except Rule Unit :=
  match (find? low refinements).bind number?, (find? high refinements).bind number? with
  | some lower, some upper =>
      if lower.exceeds upper then .error (.invalid (.crossedBounds low high lower upper))
      else .ok ()
  | _, _ => .ok ()

/-- The refinements in canonical order. -/
def ordered (refinements : List Refinement) : List Refinement :=
  RefinementKind.all.filterMap fun kind => find? kind refinements

/-- The refinements that constraints ask for, in canonical order.  A kind occurs once, and
no lower bound exceeds its upper bound. -/
def normalForm (constraints : List Constraint) : Except Rule (List Refinement) := do
  let found ← collect [] constraints
  checkBounds .minLength .maxLength found
  checkBounds .minimum .maximum found
  return ordered found

end Refinement
end RouteIR
