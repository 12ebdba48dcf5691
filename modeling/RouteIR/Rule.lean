import RouteIR.Vocabulary

namespace RouteIR

/-!
# Why a document is refused

A rule names what a document violates, with the values that its message shows.  A
fault adds the way from the place where reading started to the offending node; a
violation adds the location as text.  The wording stands in one place.
-/

/-- The document does not have the required form. -/
inductive Malformation where
  | rootNotMapping
  | swagger (version : Tree)
  | unknownVersion (version : Tree)
  | componentsNotMapping
  | schemasNotMapping
  | schemaNotMapping
  | arrayWithoutItems
  | schemaWithoutType
  | propertiesNotMapping
  | requiredNotNames
  | enumNotList
  | referenceNotText
  | pathsMissing
  | pathsNotMapping
  | pathWithoutSlash
  | pathItemNotMapping
  | operationNotMapping
  | responsesNotMapping
  | parametersNotList
  | parameterNotMapping
  | parameterWithoutName
  | parameterLocation (location : Tree)
  | parameterWithoutSchema
  | requiredNotBoolean
  | bodyNotMapping
  | contentNotMapping
deriving Repr

def Malformation.text : Malformation → String
  | rootNotMapping => "document root must be a mapping"
  | swagger version =>
      "Swagger " ++ version.display ++ " documents are not supported, only OpenAPI 3.x"
  | unknownVersion version => "unsupported OpenAPI version " ++ version.display
  | componentsNotMapping => "'components' must be a mapping"
  | schemasNotMapping => "'schemas' must be a mapping"
  | schemaNotMapping => "schema must be a mapping"
  | arrayWithoutItems => "array schema without 'items'"
  | schemaWithoutType => "schema has no type"
  | propertiesNotMapping => "'properties' must be a mapping"
  | requiredNotNames => "'required' must be a list of property names"
  | enumNotList => "'enum' must be a list"
  | referenceNotText => "'$ref' must be a string"
  | pathsMissing => "missing required key 'paths'"
  | pathsNotMapping => "'paths' must be a mapping"
  | pathWithoutSlash => "path must start with '/'"
  | pathItemNotMapping => "path item must be a mapping"
  | operationNotMapping => "operation must be a mapping"
  | responsesNotMapping => "'responses' must be a mapping"
  | parametersNotList => "'parameters' must be a list"
  | parameterNotMapping => "parameter must be a mapping"
  | parameterWithoutName => "parameter without 'name'"
  | parameterLocation location => "unknown parameter location " ++ location.quoted
  | parameterWithoutSchema => "parameter without 'schema'"
  | requiredNotBoolean => "'required' must be a boolean"
  | bodyNotMapping => "body must be a mapping"
  | contentNotMapping => "'content' must be a mapping"

/-- The document uses something outside the supported subset. -/
inductive Feature where
  | externalReference
  | nonSchemaReference
  | pathItemReference
  | composition (keyword : String)
  | schemaType (type : Tree)
  | additionalProperties
  | cookieParameter
  | parameterContent
  | anonymousInlineType
  | nestedObject
deriving Repr

def Feature.text : Feature → String
  | externalReference => "external reference"
  | nonSchemaReference => "non-schema reference"
  | pathItemReference => "path item reference"
  | composition keyword => "composition keyword " ++ keyword
  | schemaType type => "schema type " ++ type.quoted
  | additionalProperties => "additional properties"
  | cookieParameter => "cookie parameter"
  | parameterContent => "parameter content encoding"
  | anonymousInlineType => "anonymous inline type"
  | nestedObject => "nested object definition"

/-- The document has the required form and contradicts itself or the language. -/
inductive Inconsistency where
  | requiredNotProperty (name : String)
  | literalNotScalar (value : Tree)
  | duplicateMethod
  | duplicateParameter
  | lengthValue (kind : RefinementKind) (value : Tree)
  | boundValue (kind : RefinementKind) (value : Tree)
  | patternValue (value : Tree)
  | crossedBounds (low high : RefinementKind) (lower upper : Number)
  | inapplicable (refinement : RefinementKind) (kind : PrimitiveKind)
  | emptyEnum
  | circularAlias
  | undeclaredPathParameter
  | pathParameterNotInTemplate
deriving Repr

def Inconsistency.text : Inconsistency → String
  | requiredNotProperty name => "required field '" ++ name ++ "' is not a property"
  | literalNotScalar value => "enum literal " ++ value.quoted ++ " is not a scalar"
  | duplicateMethod => "duplicate method"
  | duplicateParameter => "duplicate parameter"
  | lengthValue kind value =>
      kind.text ++ " must be a non-negative integer, got " ++ value.quoted
  | boundValue kind value => kind.text ++ " must be a number, got " ++ value.quoted
  | patternValue value => "pattern must be a string, got " ++ value.quoted
  | crossedBounds low high lower upper =>
      low.text ++ " " ++ lower.text ++ " exceeds " ++ high.text ++ " " ++ upper.text
  | inapplicable refinement kind => refinement.text ++ " does not apply to " ++ kind.text
  | emptyEnum => "empty enum"
  | circularAlias => "circular type alias"
  | undeclaredPathParameter => "undeclared path parameter"
  | pathParameterNotInTemplate => "path parameter not in template"

inductive Rule where
  | malformed (reason : Malformation)
  | unresolved (name : String)
  | unsupported (feature : Feature)
  | conflicting (kind : RefinementKind)
  | invalid (reason : Inconsistency)
deriving Repr

def Rule.text : Rule → String
  | malformed reason => "malformed document: " ++ reason.text
  | unresolved name => "unresolved reference: " ++ name
  | unsupported feature => "unsupported feature: " ++ feature.text
  | conflicting kind => "conflicting refinement: " ++ kind.text
  | invalid reason => "invalid schema: " ++ reason.text

/-! ## Rules with a text -/

def Malformation.isLegible : Malformation → Bool
  | swagger value | unknownVersion value | parameterLocation value => value.isLegible
  | _ => true

def Feature.isLegible : Feature → Bool
  | schemaType type => type.isLegible
  | _ => true

def Inconsistency.isLegible : Inconsistency → Bool
  | literalNotScalar value | lengthValue _ value | boundValue _ value | patternValue value =>
      value.isLegible
  | crossedBounds _ _ lower upper => lower.isLegible && upper.isLegible
  | _ => true

/-- Whether the values that a rule shows have a text. -/
def Rule.isLegible : Rule → Bool
  | malformed reason => reason.isLegible
  | unsupported feature => feature.isLegible
  | invalid reason => reason.isLegible
  | unresolved _ | conflicting _ => true

/-! ## Places -/

/-- One step from a schema node to a node inside it. -/
inductive Step where
  | items
  | property (name : String)
  | additionalProperties
  | patternProperties
deriving DecidableEq, Repr

def Step.text : Step → String
  | items => ".items"
  | property name => ".properties." ++ name
  | additionalProperties => ".additionalProperties"
  | patternProperties => ".patternProperties"

/-- A violated rule, with the steps that lead to the offending node. -/
structure Fault where
  steps : List Step
  rule : Rule
deriving Repr

namespace Fault

def here (rule : Rule) : Fault := ⟨[], rule⟩

/-- The same fault seen from one step above. -/
def under (step : Step) (fault : Fault) : Fault := ⟨step :: fault.steps, fault.rule⟩

end Fault

/-- A violated rule and the location of the offending node, empty for the root. -/
structure Violation where
  location : String
  rule : Rule
deriving Repr

def Violation.message (violation : Violation) : String :=
  if violation.location.isEmpty then violation.rule.text
  else violation.location ++ ": " ++ violation.rule.text

/-- The fault of a node that lies at a location. -/
def Fault.located (location : String) (fault : Fault) : Violation :=
  ⟨location ++ String.join (fault.steps.map Step.text), fault.rule⟩

/-! ## Failures -/

/-- The entries that have to be text when they are there at all. -/
inductive TextField where
  | format
  | operationId
deriving DecidableEq, Repr

/-- Why a value is no text. -/
inductive TextFault where
  /-- It is neither text nor bytes. -/
  | wrongKind
  /-- It is bytes that encode no text. -/
  | notEncoded
deriving DecidableEq, Repr

/-- The text of a value that may be missing.  Bytes stand for the text they encode. -/
def Tree.optionalText : Tree → Except TextFault (Option String)
  | .null => .ok none
  | .str text => .ok (some text)
  | .bytes content =>
      match String.fromUTF8? ⟨content.toArray⟩ with
      | some text => .ok (some text)
      | none => .error .notEncoded
  | _ => .error .wrongKind

/-- How a document ends without an interface.  Beside violations there are values that
no rule speaks of, and numbers that no message can show. -/
inductive Failure where
  | rule (error : Violation)
  | notText (field : TextField) (fault : TextFault)
  /-- A compound value stands where a parameter is identified. -/
  | compoundKey (kind : Compound)
  /-- A list decoder was asked for a type that is no list of primitives. -/
  | notAPrimitiveList
  | unknownComponent (name : String)
  /-- A message or a name would show a number that has no text. -/
  | illegible
deriving Repr

namespace Failure

def ofRule (location : String) (rule : Rule) : Failure := .rule ⟨location, rule⟩

/-- What a failure comes to when its message is made. -/
def raised : Failure → Failure
  | .rule error => if error.rule.isLegible then .rule error else illegible
  | other => other

end Failure
end RouteIR
