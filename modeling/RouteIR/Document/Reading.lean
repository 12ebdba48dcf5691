import RouteIR.Document
import RouteIR.Schema.Reading

namespace RouteIR
namespace Document

/-!
# Reading documents

The sections of a document are read in the order version, components, paths, and
within each in document order, so that of several faults the first is reported.
References other than those to component schemas are refused where they stand.  A key that is
read as a text has to have one, and so has a name in a location.
-/

def malformed {α : Type} (location : String) (reason : Malformation) : Except Failure α :=
  .error (.ofRule location (.malformed reason))

def unsupported {α : Type} (location : String) (feature : Feature) : Except Failure α :=
  .error (.ofRule location (.unsupported feature))

def invalid {α : Type} (location : String) (reason : Inconsistency) : Except Failure α :=
  .error (.ofRule location (.invalid reason))

/-- The schema of a node that lies at a location. -/
def readSchema (location : String) (node : Tree) : Except Failure Schema :=
  (Schema.read node).mapError fun refusal => refusal.located location

/-! ## Version -/

/-- Documents of an older generation are refused.  A version that is declared has to
be of the third. -/
def checkVersion (entries : List (Tree × Tree)) : Except Failure Unit :=
  match Tree.lookup? "swagger" entries with
  | some version => malformed "swagger" (.swagger version)
  | none =>
      match Tree.field "openapi" entries with
      | .null => .ok ()
      | version =>
          if "3.".toList.isPrefixOf version.display.toList then .ok ()
          else malformed "openapi" (.unknownVersion version)

/-! ## Components -/

def readComponentList : List (Tree × Tree) → Except Failure (List (String × Schema))
  | [] => .ok []
  | (key, node) :: rest => do
      let schema ← key.withText .illegible
        (readSchema ("components.schemas." ++ key.display) node)
      return (key.display, schema) :: (← readComponentList rest)

def readComponents (components : Tree) : Except Failure (List (String × Schema)) :=
  match components with
  | .null => .ok []
  | .map sections _ =>
      match Tree.field "schemas" sections with
      | .null => .ok []
      | .map schemas _ => (readComponentList schemas).map Keyed.ofList
      | _ => malformed "components.schemas" .schemasNotMapping
  | _ => malformed "components" .componentsNotMapping

/-! ## Parameters -/

def listOf (location : String) : Tree → Except Failure (List Tree)
  | .null => .ok []
  | .list items _ => .ok items
  | _ => malformed location .parametersNotList

/-- The name and place that identify a parameter. -/
def parameterKey (entries : List (Tree × Tree)) : Except Compound (Identity × Identity) := do
  let name ← (Tree.field "name" entries).identity
  let place ← (Tree.field "in" entries).identity
  return (name, place)

/-- No two mappings of a parameter list may share name and place. -/
def checkUnique (location : String) :
    List (Identity × Identity) → List Tree → Except Failure Unit
  | _, [] => .ok ()
  | seen, .map entries _ :: rest =>
      match parameterKey entries with
      | .error kind => .error (.compoundKey kind)
      | .ok key =>
          if seen.contains key then
            let name := Tree.field "name" entries
            name.withText .illegible (invalid (location ++ "." ++ name.display) .duplicateParameter)
          else checkUnique location (key :: seen) rest
  | seen, _ :: rest => checkUnique location seen rest

/-- Whether a parameter of a path gives way to one of the operation. -/
def isOverridden (operationKeys : List (Identity × Identity)) : Tree → Bool
  | .map entries _ =>
      match parameterKey entries with
      | .ok key => operationKeys.contains key
      | .error _ => false
  | _ => false

def parameterKeys (parameters : List Tree) : List (Identity × Identity) :=
  parameters.filterMap fun parameter =>
    match parameter with
    | .map entries _ => (parameterKey entries).toOption
    | _ => none

/-- The parameters of a path that the operation does not declare anew, then those of
the operation. -/
def mergeParameters (pathParameters operationParameters : List Tree) : List Tree :=
  let keys := parameterKeys operationParameters
  pathParameters.filter (!isOverridden keys ·) ++ operationParameters

def readParameter (location : String) (parameter : Tree) : Except Failure DeclaredParameter :=
  match parameter with
  | .map entries _ =>
      match Tree.lookup? "$ref" entries with
      | some target => .error (.ofRule location (Reference.refuse target .nonSchemaReference))
      | none =>
          match Tree.field "name" entries with
          | .str name =>
              if name.isEmpty then malformed location .parameterWithoutName
              else do
                let here := location ++ "." ++ name
                let place := Tree.field "in" entries
                if place.isText "cookie" then unsupported here .cookieParameter
                match ParameterLocation.ofTree? place with
                | none => malformed here (.parameterLocation place)
                | some location =>
                    match Tree.lookup? "schema" entries with
                    | none =>
                        if Tree.hasKey "content" entries then unsupported here .parameterContent
                        else malformed here .parameterWithoutSchema
                    | some node =>
                        match (Tree.lookup? "required" entries).getD (.bool false) with
                        | .bool required => do
                            let schema ← readSchema (here ++ ".schema") node
                            return ⟨name, location, required || location = .path, schema⟩
                        | _ => malformed here .requiredNotBoolean
          | _ => malformed location .parameterWithoutName
  | _ => malformed location .parameterNotMapping

def readParameters (location : String) : List Tree → Except Failure (List DeclaredParameter)
  | [] => .ok []
  | parameter :: rest => do
      let first ← readParameter location parameter
      return first :: (← readParameters location rest)

/-! ## Bodies -/

/-- The first media type that carries a schema, and that schema. -/
def firstMedia? : List (Tree × Tree) → Option (Tree × Tree)
  | [] => none
  | (mediaType, .map entries _) :: rest =>
      match Tree.lookup? "schema" entries with
      | some node => some (mediaType, node)
      | none => firstMedia? rest
  | _ :: rest => firstMedia? rest

/-- The schema of a request body or a response, absent where it carries none. -/
def readBody (location : String) (body : Tree) : Except Failure (Option Schema) :=
  match body with
  | .null => .ok none
  | .map entries _ =>
      match Tree.lookup? "$ref" entries with
      | some target => .error (.ofRule location (Reference.refuse target .nonSchemaReference))
      | none =>
          match Tree.lookup? "schema" entries with
          | some node => (readSchema (location ++ ".schema") node).map some
          | none =>
              match Tree.field "content" entries with
              | .null => .ok none
              | .map media _ =>
                  match firstMedia? media with
                  | none => .ok none
                  | some (mediaType, node) =>
                      mediaType.withText .illegible ((readSchema
                        (location ++ ".content." ++ mediaType.display ++ ".schema") node).map some)
              | _ => malformed location .contentNotMapping
  | _ => malformed location .bodyNotMapping

def readResponses (location : String) :
    List (Tree × Tree) → Except Failure (List (String × Option Schema))
  | [] => .ok []
  | (status, response) :: rest => do
      let schema ← status.withText .illegible (readBody (location ++ "." ++ status.display) response)
      return (status.display, schema) :: (← readResponses location rest)

/-- The entries of an operation's responses; whatever is empty counts as absent. -/
def responsesOf (location : String) (responses : Tree) : Except Failure (List (Tree × Tree)) :=
  if responses.isEmptyLike then .ok []
  else match responses with
    | .map entries _ => .ok entries
    | _ => malformed location .responsesNotMapping

/-! ## Operations and paths -/

def readOperationId (operationId : Tree) : Except Failure (Option String) :=
  match operationId.optionalText with
  | .ok name => .ok name
  | .error fault => .error (.notText .operationId fault)

/-- Reads an operation.  Its identifier is looked at last. -/
def readOperation (method : Method) (location : String) (pathParameters : List Tree)
    (entries : List (Tree × Tree)) : Except Failure Operation := do
  let parametersLocation := location ++ ".parameters"
  let declared ← listOf parametersLocation (Tree.field "parameters" entries)
  checkUnique parametersLocation [] declared
  let responseEntries ← responsesOf (location ++ ".responses") (Tree.field "responses" entries)
  let parameters ← readParameters parametersLocation (mergeParameters pathParameters declared)
  let requestBody ← readBody (location ++ ".requestBody") (Tree.field "requestBody" entries)
  let responses ← readResponses (location ++ ".responses") responseEntries
  let operationId ← readOperationId (Tree.field "operationId" entries)
  return ⟨method, operationId, parameters, requestBody, Keyed.ofList responses⟩

/-- The operations among the entries of a path item, in declaration order.  Entries
that name no method are passed over. -/
def readOperations (location : String) (pathParameters : List Tree) :
    List Method → List (Tree × Tree) → Except Failure (List Operation)
  | _, [] => .ok []
  | seen, (key, value) :: rest =>
      key.withText .illegible <|
        match Method.ofKey? key with
        | none => readOperations location pathParameters seen rest
        | some method =>
            let here := location ++ "." ++ key.display
            if seen.contains method then invalid here .duplicateMethod
            else match value with
              | .map entries _ => do
                  let operation ← readOperation method here pathParameters entries
                  return operation ::
                    (← readOperations location pathParameters (method :: seen) rest)
              | _ => malformed here .operationNotMapping

def readPathItem (location : String) (entries : List (Tree × Tree)) :
    Except Failure (List Operation) := do
  let parametersLocation := location ++ ".parameters"
  let pathParameters ← listOf parametersLocation (Tree.field "parameters" entries)
  checkUnique parametersLocation [] pathParameters
  readOperations location pathParameters [] entries

/-- A path is a text that starts with a slash. -/
def pathOf? : Tree → Option String
  | .str path => if path.toList.head? = some '/' then some path else none
  | _ => none

def readPathList : List (Tree × Tree) → Except Failure (List (String × List Operation))
  | [] => .ok []
  | (key, item) :: rest => key.withText .illegible do
      let here := "paths." ++ key.display
      match pathOf? key with
      | none => malformed here .pathWithoutSlash
      | some path =>
          match item with
          | .map entries _ =>
              match Tree.lookup? "$ref" entries with
              | some target => .error (.ofRule here (Reference.refuse target .pathItemReference))
              | none =>
                  let operations ← readPathItem here entries
                  return (path, operations) :: (← readPathList rest)
          | _ => malformed here .pathItemNotMapping

def readPaths (entries : List (Tree × Tree)) : Except Failure (List (String × List Operation)) :=
  match Tree.lookup? "paths" entries with
  | none => malformed "" .pathsMissing
  | some (.map paths _) => (readPathList paths).map Keyed.ofList
  | some _ => malformed "paths" .pathsNotMapping

def read (tree : Tree) : Except Failure Document :=
  match tree with
  | .map entries _ => do
      checkVersion entries
      let components ← readComponents (Tree.field "components" entries)
      let paths ← readPaths entries
      return ⟨components, paths⟩
  | _ => malformed "" .rootNotMapping

end Document
end RouteIR
