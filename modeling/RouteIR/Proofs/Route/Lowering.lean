import RouteIR.Proofs.Document.Schemas
import RouteIR.Proofs.TypeExpr.Lowering
import RouteIR.Route.Lowering

namespace RouteIR

/-!
# What routes are made of

Each list of a route is made by a pass over the list that declares it.  The lemmas here
lead from a part of a route back to the declaration it was made from: an item to its
operation, a type to its schema, a list mark to the array of primitives that it stands for.
-/

namespace Routes

/-- The types of all routes. -/
def types (routes : Routes) : List TypeExpr := routes.items.flatMap RouteItem.types

/-! ## Passes -/

theorem parametersOf_eq_mapM (components : Components) (location : String)
    (declared : List DeclaredParameter) :
    parametersOf components location declared =
      declared.mapM fun one => parameterOf components (location ++ "." ++ one.name) one := by
  induction declared with
  | nil => rfl
  | cons one rest ih => rw [parametersOf, ih, List.mapM_cons]

/-- The type of a response under its status. -/
def responseOf (components : Components) (location : String)
    (declared : String × Option Schema) : Except Violation (String × Option TypeExpr) :=
  (optionalTypeOf components (location ++ "." ++ declared.1) declared.2).map (declared.1, ·)

theorem responsesOf_eq_mapM (components : Components) (location : String)
    (declared : List (String × Option Schema)) :
    responsesOf components location declared = declared.mapM (responseOf components location) := by
  induction declared with
  | nil => rfl
  | cons one rest ih =>
      rw [responsesOf, ih, List.mapM_cons, responseOf]
      cases optionalTypeOf components (location ++ "." ++ one.1) one.2 <;> rfl

theorem itemsOf_eq_mapM (components : Components) (template : String)
    (operations : List Operation) :
    itemsOf components template operations = operations.mapM (itemOf components template) := by
  induction operations with
  | nil => rfl
  | cons operation rest ih => rw [itemsOf, ih, List.mapM_cons]

/-- The routes of one template. -/
def pathOf (components : Components) (path : String × List Operation) :
    Except Violation (String × PathRoutes) :=
  (itemsOf components path.1 path.2).map fun items => (path.1, ⟨path.1, items⟩)

theorem ofPaths_eq_mapM (components : Components) (paths : List (String × List Operation)) :
    ofPaths components paths = paths.mapM (pathOf components) := by
  induction paths with
  | nil => rfl
  | cons path rest ih =>
      rw [ofPaths, ih, List.mapM_cons, pathOf]
      cases itemsOf components path.1 path.2 <;> rfl

/-! ## Back to the declaration -/

theorem parameterOf_eq_ok_iff {components : Components} {location : String}
    {declared : DeclaredParameter} {parameter : Parameter} :
    parameterOf components location declared = .ok parameter ↔
      Exists fun type => Exists fun listValued =>
        typeOf components (location ++ ".schema") declared.schema = .ok type ∧
        isListValued components declared.location type = .ok listValued ∧
        parameter = ⟨declared.name, declared.location, declared.required, type, listValued⟩ := by
  rw [parameterOf]
  simp only [Outcome.bind_eq_ok_iff, Outcome.pure_eq_ok_iff]
  constructor
  · rintro ⟨type, lowered, listValued, marked, same⟩
    exact ⟨type, listValued, lowered, marked, same.symm⟩
  · rintro ⟨type, listValued, lowered, marked, same⟩
    exact ⟨type, lowered, listValued, marked, same.symm⟩

/-- What an item has of the operation it was made from. -/
structure ItemOf (components : Components) (path : String) (operation : Operation)
    (item : RouteItem) : Prop where
  method : item.method = operation.method
  template : item.template = path
  placeholders : item.pathParameters = Template.placeholders path
  operationId : item.operationId = operation.operationId
  parameters : List.Forall₂
    (fun declared parameter => Exists fun location =>
      parameterOf components location declared = .ok parameter)
    operation.parameters item.parameters
  requestBody : Exists fun location =>
    optionalTypeOf components location operation.requestBody = .ok item.requestBody
  responses : List.Forall₂
    (fun declared response => response.1 = declared.1 ∧ Exists fun location =>
      optionalTypeOf components location declared.2 = .ok response.2)
    operation.responses item.responses

theorem itemOf_of_eq_ok {components : Components} {path : String} {operation : Operation}
    {item : RouteItem} (made : itemOf components path operation = .ok item) :
    ItemOf components path operation item := by
  rw [itemOf] at made
  simp only [Outcome.bind_eq_ok_iff, Outcome.pure_eq_ok_iff] at made
  rcases made with ⟨parameters, parametersMade, _, _, requestBody, bodyMade, responses,
    responsesMade, rfl⟩
  rw [parametersOf_eq_mapM, Outcome.mapM_eq_ok_iff] at parametersMade
  rw [responsesOf_eq_mapM, Outcome.mapM_eq_ok_iff] at responsesMade
  refine ⟨rfl, rfl, rfl, rfl, ?_, ⟨_, bodyMade⟩, ?_⟩
  · exact parametersMade.imp fun _ _ one => ⟨_, one⟩
  · refine responsesMade.imp ?_
    intro declared response one
    rcases Outcome.map_eq_ok_iff.mp one with ⟨type, lowered, rfl⟩
    exact ⟨rfl, _, lowered⟩

/-- Every item was made from an operation of the document. -/
theorem exists_operation_of_item {components : Components}
    {paths : List (String × List Operation)} {routes : Routes}
    (made : ofPaths components paths = .ok routes) {item : RouteItem}
    (member : item ∈ routes.items) :
    Exists fun path => path ∈ paths ∧ Exists fun operation => operation ∈ path.2 ∧
      ItemOf components path.1 operation item := by
  rw [ofPaths_eq_mapM] at made
  rcases List.mem_flatMap.mp member with ⟨entry, entryMember, itemMember⟩
  rcases Outcome.exists_item_of_mapM made entryMember with ⟨path, pathMember, pathMade⟩
  rcases Outcome.map_eq_ok_iff.mp pathMade with ⟨items, itemsMade, rfl⟩
  rw [itemsOf_eq_mapM] at itemsMade
  rcases Outcome.exists_item_of_mapM itemsMade itemMember with
    ⟨operation, operationMember, itemMade⟩
  exact ⟨path, pathMember, operation, operationMember, itemOf_of_eq_ok itemMade⟩

/-- A type at a place that may carry none comes from the schema there. -/
theorem exists_schema_of_optional {components : Components} {location : String}
    {declared : Option Schema} {type : TypeExpr}
    (made : optionalTypeOf components location declared = .ok (some type)) :
    Exists fun schema => declared = some schema ∧ typeOf components location schema = .ok type := by
  cases declared with
  | none => cases made
  | some schema =>
      rcases Outcome.map_eq_ok_iff.mp made with ⟨lowered, loweredMade, same⟩
      cases same
      exact ⟨schema, rfl, loweredMade⟩

namespace ItemOf

variable {components : Components} {path : String} {operation : Operation} {item : RouteItem}

theorem exists_declared (itemOf : ItemOf components path operation item)
    {parameter : Parameter} (member : parameter ∈ item.parameters) :
    Exists fun declared => declared ∈ operation.parameters ∧ Exists fun location =>
      parameterOf components location declared = .ok parameter :=
  Outcome.exists_left_of_forall₂ itemOf.parameters member

/-- Every type of an item was lowered from a schema of its operation. -/
theorem exists_schema (itemOf : ItemOf components path operation item) {type : TypeExpr}
    (member : type ∈ item.types) :
    Exists fun schema => schema ∈ operation.schemas ∧
      Exists fun location => typeOf components location schema = .ok type := by
  rw [RouteItem.types, List.mem_append, List.mem_append] at member
  rw [Operation.schemas]
  rcases member with (fromParameter | fromBody) | fromResponse
  · rcases List.mem_map.mp fromParameter with ⟨parameter, parameterMember, rfl⟩
    rcases itemOf.exists_declared parameterMember with ⟨declared, declaredMember, location, made⟩
    rcases parameterOf_eq_ok_iff.mp made with ⟨lowered, listValued, loweredMade, _, rfl⟩
    refine ⟨declared.schema, ?_, _, loweredMade⟩
    exact List.mem_append_left _ (List.mem_append_left _ (List.mem_map_of_mem declaredMember))
  · rcases itemOf.requestBody with ⟨location, made⟩
    rw [Option.mem_toList.mp fromBody] at made
    rcases exists_schema_of_optional made with ⟨schema, declared, lowered⟩
    refine ⟨schema, ?_, location, lowered⟩
    exact List.mem_append_left _ (List.mem_append_right _ (Option.mem_toList.mpr declared))
  · rcases List.mem_filterMap.mp fromResponse with ⟨response, responseMember, carried⟩
    rcases Outcome.exists_left_of_forall₂ itemOf.responses responseMember with
      ⟨declared, declaredMember, _, location, made⟩
    rw [carried] at made
    rcases exists_schema_of_optional made with ⟨schema, declaredSchema, lowered⟩
    refine ⟨schema, ?_, location, lowered⟩
    refine List.mem_append_right _ (List.mem_filterMap.mpr ?_)
    exact ⟨declared, declaredMember, declaredSchema⟩

/-- A parameter that is marked as a list is one of primitives. -/
theorem exists_listElement (itemOf : ItemOf components path operation item)
    {parameter : Parameter} (member : parameter ∈ item.parameters)
    (marked : parameter.listValued = true) :
    Exists fun element => components.listElement? parameter.type = .ok (some element) := by
  rcases itemOf.exists_declared member with ⟨declared, _, location, made⟩
  rcases parameterOf_eq_ok_iff.mp made with ⟨type, listValued, _, mark, rfl⟩
  cases place : declared.location with
  | query =>
      rw [place] at mark
      have found := Outcome.mapError_eq_ok_iff.mp mark
      rcases Outcome.map_eq_ok_iff.mp found with ⟨element, elementFound, isList⟩
      rcases Option.isSome_iff_exists.mp (isList.trans marked) with ⟨scalar, rfl⟩
      exact ⟨scalar, elementFound⟩
  | header | path =>
      rw [place] at mark
      cases mark
      cases marked

end ItemOf

theorem refersTo_of_typeOf {components : Components} {location : String} {schema : Schema}
    {type : TypeExpr} (made : typeOf components location schema = .ok type) :
    type.RefersTo components :=
  TypeExpr.refersTo_of_lowered (Outcome.mapError_eq_ok_iff.mp made)

/-- The types of routes refer to components only. -/
theorem refersTo_of_types {components : Components} {paths : List (String × List Operation)}
    {routes : Routes} (made : ofPaths components paths = .ok routes) {type : TypeExpr}
    (member : type ∈ routes.types) : type.RefersTo components := by
  rcases List.mem_flatMap.mp member with ⟨item, itemMember, typeMember⟩
  rcases exists_operation_of_item made itemMember with ⟨path, _, operation, _, itemOf⟩
  rcases itemOf.exists_schema typeMember with ⟨schema, _, location, lowered⟩
  exact refersTo_of_typeOf lowered

/-- The mark of a parameter is what its place and its type are marked with. -/
theorem isListValued_of_parameter {components : Components}
    {paths : List (String × List Operation)} {routes : Routes}
    (made : ofPaths components paths = .ok routes) {item : RouteItem} (member : item ∈ routes.items)
    {parameter : Parameter} (carried : parameter ∈ item.parameters) :
    isListValued components parameter.location parameter.type = .ok parameter.listValued := by
  rcases exists_operation_of_item made member with ⟨path, _, operation, _, itemOf⟩
  rcases itemOf.exists_declared carried with ⟨declared, _, location, parameterMade⟩
  rcases parameterOf_eq_ok_iff.mp parameterMade with ⟨type, listValued, _, marked, rfl⟩
  exact marked

end Routes
end RouteIR
