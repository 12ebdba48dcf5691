import RouteIR.Interface.Json
import RouteIR.Proofs.Document.KeyOrder
import RouteIR.Proofs.Interface.Stages
import RouteIR.Proofs.Route.Lowering
import RouteIR.Proofs.TypeExpr.Components

namespace RouteIR

/-!
# Interfaces of documents with their keys in another order

Schemas that are lowered alike give the same components, the same routes and so the same
decoders under the same names.  A document whose keys are reordered where they are looked up
has therefore the same interface, and the same text of it.
-/

theorem Components.ofSchemas_alike {schemas others : List (String × Schema)}
    (alike : Keyed.Related Schema.LoweredAlike schemas others) :
    Outcome.Agree Eq (ofSchemas schemas) (ofSchemas others) := by
  have each : List.Forall₂
      (fun declared other => Outcome.Agree Eq (componentOf (Keyed.keys others) declared)
        (componentOf (Keyed.keys others) other)) schemas others := by
    apply alike.imp
    rintro ⟨name, schema⟩ ⟨_, other⟩ ⟨rfl, lowered⟩
    rw [componentOf, componentOf]
    apply (lowered _ .component).mapError.map
    rintro type _ rfl
    rfl
  rw [ofSchemas, ofSchemas, alike.keys, ofSchemaList_eq_mapM, ofSchemaList_eq_mapM]
  apply (Outcome.agree_mapM_eq each).bind
  rintro components _ rfl
  exact .of_eq rfl

namespace Routes

variable (components : Components)

theorem typeOf_alike {schema other : Schema} (alike : schema.LoweredAlike other)
    (location : String) :
    Outcome.Agree Eq (typeOf components location schema) (typeOf components location other) :=
  (alike _ .route).mapError

theorem optionalTypeOf_alike {schema other : Option Schema}
    (alike : Option.Rel Schema.LoweredAlike schema other) (location : String) :
    Outcome.Agree Eq (optionalTypeOf components location schema)
      (optionalTypeOf components location other) := by
  cases alike with
  | none => exact .of_eq rfl
  | some alike =>
      rw [optionalTypeOf, optionalTypeOf]
      apply (typeOf_alike components alike location).map
      rintro type _ rfl
      rfl

theorem parameterOf_alike {declared other : DeclaredParameter} (alike : declared.Alike other)
    (location : String) :
    Outcome.Agree Eq (parameterOf components location declared)
      (parameterOf components location other) := by
  rw [parameterOf, parameterOf, alike.name, alike.location, alike.required]
  apply (typeOf_alike components alike.schema _).bind
  rintro type _ rfl
  exact .of_eq rfl

theorem parametersOf_alike {declared others : List DeclaredParameter}
    (alike : List.Forall₂ DeclaredParameter.Alike declared others) (location : String) :
    Outcome.Agree Eq (parametersOf components location declared)
      (parametersOf components location others) := by
  rw [parametersOf_eq_mapM, parametersOf_eq_mapM]
  apply Outcome.agree_mapM_eq
  apply alike.imp
  intro one other same
  rw [same.name]
  exact parameterOf_alike components same (location ++ "." ++ other.name)

theorem responsesOf_alike {declared others : List (String × Option Schema)}
    (alike : Keyed.Related (Option.Rel Schema.LoweredAlike) declared others) (location : String) :
    Outcome.Agree Eq (responsesOf components location declared)
      (responsesOf components location others) := by
  rw [responsesOf_eq_mapM, responsesOf_eq_mapM]
  apply Outcome.agree_mapM_eq
  apply alike.imp
  rintro ⟨status, schema⟩ ⟨_, other⟩ ⟨rfl, same⟩
  rw [responseOf, responseOf]
  apply (optionalTypeOf_alike components same _).map
  rintro type _ rfl
  rfl

theorem itemOf_alike {operation other : Operation} (alike : operation.Alike other)
    (template : String) :
    Outcome.Agree Eq (itemOf components template operation) (itemOf components template other) := by
  rw [itemOf, itemOf, alike.method, alike.operationId]
  apply (parametersOf_alike components alike.parameters _).bind
  rintro found _ rfl
  apply (Outcome.Agree.of_eq rfl).bind
  intro _ _ _
  apply (optionalTypeOf_alike components alike.requestBody _).bind
  rintro body _ rfl
  apply (responsesOf_alike components alike.responses _).bind
  rintro responses _ rfl
  exact .of_eq rfl

theorem ofPaths_alike {paths others : List (String × List Operation)}
    (alike : Keyed.Related (List.Forall₂ Operation.Alike) paths others) :
    Outcome.Agree Eq (ofPaths components paths) (ofPaths components others) := by
  rw [ofPaths_eq_mapM, ofPaths_eq_mapM]
  apply Outcome.agree_mapM_eq
  apply alike.imp
  rintro ⟨template, operations⟩ ⟨_, changed⟩ ⟨rfl, operationsAlike⟩
  rw [pathOf, pathOf, itemsOf_eq_mapM, itemsOf_eq_mapM]
  apply (Outcome.agree_mapM_eq
    (operationsAlike.imp fun _ _ one => itemOf_alike components one template)).map
  rintro items _ rfl
  rfl

end Routes

namespace Interface

/-- Documents that differ in the order of keys where these are looked up have the same
interface. -/
theorem ofTree_keysReordered {tree other : Tree}
    (reordered : Tree.KeysReordered (some .document) tree other) :
    Outcome.Agree Eq (ofTree tree) (ofTree other) := by
  rw [ofTree, ofTree]
  apply (Document.read_keysReordered reordered).mapError.bind
  intro document changed alike
  apply (Components.ofSchemas_alike alike.components).mapError.bind
  rintro components _ rfl
  apply (Routes.ofPaths_alike components alike.paths).mapError.bind
  rintro routes _ rfl
  exact .of_eq rfl

/-- The order of keys in schemas, parameters, operations, the components and the root decides
neither whether a document has an interface nor anything in its text. -/
theorem render_of_keysReordered {tree other : Tree}
    (reordered : Tree.KeysReordered (some .document) tree other) :
    (Outcome.Succeeds (ofTree tree) ↔ Outcome.Succeeds (ofTree other)) ∧
      forall left right, ofTree tree = .ok left -> ofTree other = .ok right ->
        left.render = right.render := by
  have agree := ofTree_keysReordered reordered
  refine ⟨agree.succeeds_iff, ?_⟩
  intro left right leftMade rightMade
  rw [agree.values leftMade rightMade]

/-! ## A document in two orders -/

/-- A schema with keys of a primitive, known and unknown ones. -/
def arrangedSchema (arrange : List (String × Tree) -> List (String × Tree)) : Tree :=
  .object (arrange [("type", .str "string"), ("maxLength", .int 8),
    ("description", .str "a name"), ("minLength", .int 1)])

def arrangedParameter (arrange : List (String × Tree) -> List (String × Tree)) : Tree :=
  .object (arrange [("name", .str "n"), ("in", .str "query"), ("schema", arrangedSchema arrange)])

def arrangedOperation (arrange : List (String × Tree) -> List (String × Tree)) : Tree :=
  .object (arrange [("operationId", .str "find"),
    ("parameters", .list [arrangedParameter arrange] none)])

/-- A document with several keys wherever their order is free. -/
def arrangedTree (arrange : List (String × Tree) -> List (String × Tree)) : Tree :=
  .object (arrange [
    ("components", .object (arrange [("schemas", .object [("Name", arrangedSchema arrange)]),
      ("examples", .null)])),
    ("paths", .object [("/names", .object [("get", arrangedOperation arrange)])])])

section Witness

open RouteIR.Tree

theorem reordered_arrangedSchema :
    KeysReordered (some .schema) (arrangedSchema id) (arrangedSchema List.reverse) := by
  refine MembersReordered.anyOrder ?_ rfl (by decide) (List.reverse_perm _).symm
  apply List.forall₂_same.mpr
  exact fun entry _ => ⟨rfl, .same _ _⟩

theorem reordered_arrangedParameter :
    KeysReordered (some .parameter) (arrangedParameter id) (arrangedParameter List.reverse) := by
  refine MembersReordered.anyOrder ?_ rfl (by decide) (List.reverse_perm _).symm
  exact .cons ⟨rfl, .same _ _⟩ (.cons ⟨rfl, .same _ _⟩ (.cons ⟨rfl, reordered_arrangedSchema⟩ .nil))

theorem reordered_arrangedOperation :
    KeysReordered (some .operation) (arrangedOperation id) (arrangedOperation List.reverse) := by
  have parameters : KeysReordered (some .parameters) (.list [arrangedParameter id] none)
      (.list [arrangedParameter List.reverse] none) := by
    refine .list rfl ?_
    intro item changed pair
    cases List.mem_singleton.mp pair
    exact reordered_arrangedParameter
  refine MembersReordered.anyOrder ?_ rfl (by decide) (List.reverse_perm _).symm
  exact .cons ⟨rfl, .same _ _⟩ (.cons ⟨rfl, parameters⟩ .nil)

theorem reordered_arrangedTree :
    KeysReordered (some .document) (arrangedTree id) (arrangedTree List.reverse) := by
  have schemas : KeysReordered (some .schemas) (.object [("Name", arrangedSchema id)])
      (.object [("Name", arrangedSchema List.reverse)]) :=
    MembersReordered.inOrder (.cons ⟨rfl, reordered_arrangedSchema⟩ .nil)
  have components : KeysReordered (some .components)
      (.object [("schemas", .object [("Name", arrangedSchema id)]), ("examples", .null)])
      (.object (List.reverse
        [("schemas", .object [("Name", arrangedSchema List.reverse)]), ("examples", .null)])) := by
    refine MembersReordered.anyOrder ?_ rfl (by decide) (List.reverse_perm _).symm
    exact .cons ⟨rfl, schemas⟩ (.cons ⟨rfl, .same _ _⟩ .nil)
  have item : KeysReordered (some .pathItem) (.object [("get", arrangedOperation id)])
      (.object [("get", arrangedOperation List.reverse)]) := by
    refine MembersReordered.inOrder (.cons ⟨rfl, ?_⟩ .nil)
    have named : Method.ofKey? (.str "get") = some .get := by decide +kernel
    rw [Role.inner_operation named]
    exact reordered_arrangedOperation
  have paths : KeysReordered (some .paths)
      (.object [("/names", .object [("get", arrangedOperation id)])])
      (.object [("/names", .object [("get", arrangedOperation List.reverse)])]) :=
    MembersReordered.inOrder (.cons ⟨rfl, item⟩ .nil)
  refine MembersReordered.anyOrder ?_ rfl (by decide) (List.reverse_perm _).symm
  exact .cons ⟨rfl, components⟩ (.cons ⟨rfl, paths⟩ .nil)

end Witness

theorem render_of_arrangedTree :
    Tree.KeysReordered (some .document) (arrangedTree id) (arrangedTree List.reverse) ∧
      Exists fun left => Exists fun right => ofTree (arrangedTree id) = .ok left ∧
        ofTree (arrangedTree List.reverse) = .ok right ∧ left.render = right.render := by
  rcases render_of_keysReordered reordered_arrangedTree with ⟨both, same⟩
  have accepted : Outcome.Succeeds (ofTree (arrangedTree id)) :=
    Outcome.exists_of_isOk (by decide +kernel)
  rcases accepted with ⟨left, leftMade⟩
  rcases both.mp ⟨left, leftMade⟩ with ⟨right, rightMade⟩
  exact ⟨reordered_arrangedTree, left, right, leftMade, rightMade,
    same left right leftMade rightMade⟩

end Interface
end RouteIR
