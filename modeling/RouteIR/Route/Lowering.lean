import RouteIR.Route
import RouteIR.Route.Template

namespace RouteIR

/-!
# From operations to routes

Each operation becomes a route item.  The placeholders of its template and its path
parameters have to be the same names.
-/

namespace Routes

/-- The type of a schema that stands in a route. -/
def typeOf (components : Components) (location : String) (schema : Schema) :
    Except Violation TypeExpr :=
  (TypeExpr.ofSchema (Keyed.keys components) .route schema).mapError (Fault.located location)

def invalid {α : Type} (location : String) (reason : Inconsistency) : Except Violation α :=
  .error ⟨location, .invalid reason⟩

/-- Whether a parameter is carried by repeating its key. -/
def isListValued (components : Components) (location : ParameterLocation) (type : TypeExpr) :
    Except Violation Bool :=
  match location with
  | .query => (components.isPrimitiveList type).mapError (⟨"", ·⟩)
  | .header | .path => .ok false

def parameterOf (components : Components) (location : String)
    (declared : DeclaredParameter) : Except Violation Parameter := do
  let type ← typeOf components (location ++ ".schema") declared.schema
  let listValued ← isListValued components declared.location type
  return ⟨declared.name, declared.location, declared.required, type, listValued⟩

def parametersOf (components : Components) (location : String) :
    List DeclaredParameter → Except Violation (List Parameter)
  | [] => .ok []
  | declared :: rest => do
      let parameter ← parameterOf components (location ++ "." ++ declared.name) declared
      return parameter :: (← parametersOf components location rest)

/-- The names of the parameters that travel in the path. -/
def pathNames (parameters : List Parameter) : List String :=
  (parameters.filter (·.location = .path)).map (·.name)

/-- Every placeholder needs a path parameter, and every path parameter a placeholder. -/
def checkPathNames (location : String) (placeholders declared : List String) :
    Except Violation Unit :=
  match placeholders.find? (!declared.contains ·) with
  | some name => invalid (location ++ "." ++ name) .undeclaredPathParameter
  | none =>
      match declared.find? (!placeholders.contains ·) with
      | some name => invalid (location ++ "." ++ name) .pathParameterNotInTemplate
      | none => .ok ()

/-- The type at a place that may carry none. -/
def optionalTypeOf (components : Components) (location : String) :
    Option Schema → Except Violation (Option TypeExpr)
  | none => .ok none
  | some schema => (typeOf components location schema).map some

def responsesOf (components : Components) (location : String) :
    List (String × Option Schema) → Except Violation (List (String × Option TypeExpr))
  | [] => .ok []
  | (status, schema) :: rest => do
      let type ← optionalTypeOf components (location ++ "." ++ status) schema
      return (status, type) :: (← responsesOf components location rest)

def itemOf (components : Components) (template : String) (operation : Operation) :
    Except Violation RouteItem := do
  let location := "paths." ++ template ++ "." ++ operation.method.text
  let placeholders := Template.placeholders template
  let parametersLocation := location ++ ".parameters"
  let parameters ← parametersOf components parametersLocation operation.parameters
  checkPathNames parametersLocation placeholders (pathNames parameters)
  let requestBody ← optionalTypeOf components (location ++ ".requestBody") operation.requestBody
  let responses ← responsesOf components (location ++ ".responses") operation.responses
  return ⟨operation.method, template, placeholders, operation.operationId, parameters, requestBody,
    responses⟩

def itemsOf (components : Components) (template : String) :
    List Operation → Except Violation (List RouteItem)
  | [] => .ok []
  | operation :: rest => do
      let item ← itemOf components template operation
      return item :: (← itemsOf components template rest)

/-- The routes of a document over the types of its components. -/
def ofPaths (components : Components) :
    List (String × List Operation) → Except Violation Routes
  | [] => .ok []
  | (template, operations) :: rest => do
      let items ← itemsOf components template operations
      return (template, ⟨template, items⟩) :: (← ofPaths components rest)

end Routes
end RouteIR
