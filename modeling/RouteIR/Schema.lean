import RouteIR.Rule

namespace RouteIR

/-!
# Schemas as declared

A schema is one of five shapes.  References name a component and are not followed;
a primitive keeps its constraints as declared, in document order, since only
lowering knows which of them count.
-/

inductive Schema where
  | object (fields : List (String × Schema)) (required : List String)
  | array (element : Schema)
  | primitive (kind : PrimitiveKind) (format : Option String) (constraints : List (String × Tree))
  | enum (values : List Literal)
  | ref (name : String)
deriving Repr

/-! ## References -/

namespace Reference

/-- Every reference to a component starts with this pointer. -/
def pointer : List Char := "#/components/schemas/".toList

/-- Undoes the escapes of a pointer segment: `~1` stands for a slash and `~0` for a
tilde. -/
def unescape : List Char → List Char
  | '~' :: '1' :: rest => '/' :: unescape rest
  | '~' :: '0' :: rest => '~' :: unescape rest
  | char :: rest => char :: unescape rest
  | [] => []

def escape : List Char → List Char
  | [] => []
  | char :: rest =>
      if char = '~' then '~' :: '0' :: escape rest
      else if char = '/' then '~' :: '1' :: escape rest
      else char :: escape rest

theorem unescape_escape (name : List Char) : unescape (escape name) = name := by
  induction name with
  | nil => rfl
  | cons char rest ih =>
      by_cases tilde : char = '~'
      · simp [escape, unescape, tilde, ih]
      · by_cases slash : char = '/'
        · simp [escape, unescape, slash, ih]
        · simp [escape, unescape, tilde, slash, ih]

/-- A target inside the document, as far as its first character tells. -/
def isLocal : Tree → Bool
  | .str text => text.toList.head? = some '#'
  | _ => false

/-- The component that a reference names. -/
def parse (target : Tree) : Except Rule String :=
  match target with
  | .str text =>
      if !isLocal target then .error (.unsupported .externalReference)
      else
        let chars := text.toList
        let name := chars.drop pointer.length
        if !pointer.isPrefixOf chars || name.isEmpty || name.contains '/' then
          .error (.unsupported .nonSchemaReference)
        else .ok (String.ofList (unescape name))
  | _ => .error (.malformed .referenceNotText)

/-- A reference where none is supported: only its kind is told. -/
def refuse (target : Tree) (feature : Feature) : Rule :=
  .unsupported (if isLocal target then feature else .externalReference)

end Reference
end RouteIR
