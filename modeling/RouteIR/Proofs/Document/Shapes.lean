import RouteIR.Proofs.Document.Duplicates

namespace RouteIR

/-!
# Wrong shapes

An object schema has its properties in a mapping and the names of those required in a list;
an operation has its parameters in a list and its responses in a mapping.  Each of these may be
absent or null.  Anything else is refused where reading comes to it, but outside of parameters
whatever is empty, zero or false counts as absent.
-/

namespace Tree

def AbsentOrMapping (tree : Tree) : Prop :=
  tree = .null ∨ Exists fun entries => Exists fun label => tree = .map entries label

def AbsentOrList (tree : Tree) : Prop :=
  tree = .null ∨ Exists fun items => Exists fun label => tree = .list items label

theorem entries_of_isEmptyLike {tree : Tree} (empty : tree.isEmptyLike = true) :
    tree.entries = [] := by
  cases tree with
  | map entries label => exact List.isEmpty_iff.mp empty
  | _ => rfl

theorem items_of_isEmptyLike {tree : Tree} (empty : tree.isEmptyLike = true) :
    tree.items = [] := by
  cases tree with
  | list items label => exact List.isEmpty_iff.mp empty
  | _ => rfl

end Tree

namespace Schema

/-! ## Objects -/

/-- The entries of an object schema have the right shape. -/
structure ObjectShape (entries : List (Tree × Tree)) : Prop where
  properties : (Tree.field "properties" entries).AbsentOrMapping
  required : (Tree.field "required" entries).AbsentOrList
  names : forall item, item ∈ (Tree.field "required" entries).items ->
    Exists fun name => item = .str name ∧
      Tree.hasKey name (Tree.field "properties" entries).entries = true

/-- What counts as absent in an object schema is absent or an empty value of the right kind. -/
structure PlainlyEmpty (entries : List (Tree × Tree)) : Prop where
  properties : (Tree.field "properties" entries).isEmptyLike = true ->
    (Tree.field "properties" entries).AbsentOrMapping
  required : (Tree.field "required" entries).isEmptyLike = true ->
    (Tree.field "required" entries).AbsentOrList

/-- What an object schema of the wrong shape is refused for. -/
inductive ShapeRule : Rule -> Prop
  | properties : ShapeRule (.malformed .propertiesNotMapping)
  | required : ShapeRule (.malformed .requiredNotNames)
  | name (name : String) : ShapeRule (.invalid (.requiredNotProperty name))

theorem propertiesOf_cases {entries : List (Tree × Tree)} (plainly : PlainlyEmpty entries) :
    ((Tree.field "properties" entries).AbsentOrMapping ∧
      propertiesOf entries = .ok (Tree.field "properties" entries).entries) ∨
    propertiesOf entries = .error (.malformed .propertiesNotMapping) := by
  rw [propertiesOf.eq_def]
  split
  · next empty =>
      refine Or.inl ⟨plainly.properties empty, ?_⟩
      rw [Tree.entries_of_isEmptyLike empty]
  · next filled =>
      cases declared : Tree.field "properties" entries with
      | map properties label => exact Or.inl ⟨Or.inr ⟨properties, label, rfl⟩, rfl⟩
      | _ => exact Or.inr rfl

theorem requiredOf_cases {entries : List (Tree × Tree)} (plainly : PlainlyEmpty entries) :
    ((Tree.field "required" entries).AbsentOrList ∧ Exists fun names =>
      (Tree.field "required" entries).items = names.map .str ∧
        requiredOf entries = .ok names) ∨
    requiredOf entries = .error (.malformed .requiredNotNames) := by
  rw [requiredOf.eq_def]
  dsimp only
  split
  · next empty =>
      refine Or.inl ⟨plainly.required empty, [], ?_, rfl⟩
      rw [Tree.items_of_isEmptyLike empty, List.map_nil]
  · next filled =>
      cases declared : Tree.field "required" entries with
      | list items label =>
          dsimp only
          cases found : namesOf items with
          | none => exact Or.inr rfl
          | some names =>
              exact Or.inl ⟨Or.inr ⟨items, label, rfl⟩, names, (namesOf_eq_some_iff _ _).mp found,
                rfl⟩
      | _ => exact Or.inr rfl

/-- An object schema has the right shape, or is refused for a rule of its shape. -/
theorem shape_or_refused {entries : List (Tree × Tree)} (plainly : PlainlyEmpty entries) :
    ObjectShape entries ∨ Exists fun rule => ShapeRule rule ∧
      objectParts entries = .error (.here rule) := by
  rcases propertiesOf_cases plainly with ⟨isMapping, properties⟩ | refused
  · rcases requiredOf_cases plainly with ⟨isList, names, items, required⟩ | refused
    · cases missing : names.find? fun name =>
          !Tree.hasKey name (Tree.field "properties" entries).entries with
      | some name =>
          refine Or.inr ⟨_, .name name, ?_⟩
          rw [objectParts, properties, required]
          dsimp only
          rw [missing]
      | none =>
          refine Or.inl ⟨isMapping, isList, ?_⟩
          intro item member
          rw [items] at member
          rcases List.mem_map.mp member with ⟨name, nameMember, rfl⟩
          exact ⟨name, rfl, find?_missing_eq_none_iff.mp missing name nameMember⟩
    · refine Or.inr ⟨_, .required, ?_⟩
      rw [objectParts, properties, refused]
  · refine Or.inr ⟨_, .properties, ?_⟩
    rw [objectParts, refused]

end Schema

namespace Document

/-! ## Operations -/

/-- The entries of an operation have the right shape. -/
structure OperationShape (entries : List (Tree × Tree)) : Prop where
  parameters : (Tree.field "parameters" entries).AbsentOrList
  responses : (Tree.field "responses" entries).AbsentOrMapping

/-- What an operation of the wrong shape is refused for.  Responses are looked at after the
parameters are told apart, and a compound name or place has been met by then, or a name without
a text. -/
inductive OperationFailure (here : String) (parameters : List Tree) : Failure -> Prop
  | parameters :
      OperationFailure here parameters
        (.rule ⟨here ++ ".parameters", .malformed .parametersNotList⟩)
  | responses :
      OperationFailure here parameters
        (.rule ⟨here ++ ".responses", .malformed .responsesNotMapping⟩)
  | duplicate {place : String} :
      OperationFailure here parameters (.rule ⟨place, .invalid .duplicateParameter⟩)
  | compound {entries : List (Tree × Tree)} {label : Option Label} {kind : Compound}
      (member : .map entries label ∈ parameters) (compound : parameterKey entries = .error kind) :
      OperationFailure here parameters (.compoundKey kind)
  | illegible {entries : List (Tree × Tree)} {label : Option Label}
      (member : .map entries label ∈ parameters)
      (unknown : (Tree.field "name" entries).isLegible = false) :
      OperationFailure here parameters .illegible

theorem responsesOf_cases {responses : Tree}
    (plainly : responses.isEmptyLike = true -> responses.AbsentOrMapping) (location : String) :
    responses.AbsentOrMapping ∨
      responsesOf location responses =
        .error (.rule ⟨location, .malformed .responsesNotMapping⟩) := by
  unfold responsesOf
  split
  · next empty => exact Or.inl (plainly empty)
  · cases responses with
    | map entries label => exact Or.inl (Or.inr ⟨entries, label, rfl⟩)
    | _ => exact Or.inr rfl

theorem listOf_cases (location : String) (declared : Tree) :
    (declared.AbsentOrList ∧ listOf location declared = .ok declared.items) ∨
      listOf location declared = .error (.rule ⟨location, .malformed .parametersNotList⟩) := by
  cases declared with
  | null => exact Or.inl ⟨Or.inl rfl, rfl⟩
  | list items label => exact Or.inl ⟨Or.inr ⟨items, label, rfl⟩, rfl⟩
  | _ => exact Or.inr rfl

theorem OperationFailure.later {here : String} {parameters : List Tree} {failure : Failure}
    (failed : OperationFailure here parameters failure) (first : Tree) :
    OperationFailure here (first :: parameters) failure := by
  cases failed with
  | parameters => exact .parameters
  | responses => exact .responses
  | duplicate => exact .duplicate
  | compound member compound => exact .compound (List.mem_cons_of_mem _ member) compound
  | illegible member unknown => exact .illegible (List.mem_cons_of_mem _ member) unknown

/-- The check for duplicates ends at a duplicate or at a compound name or place, or at a name
without a text. -/
theorem operationFailure_of_checkUnique {here location : String}
    {seen : List (Identity × Identity)} {parameters : List Tree} {failure : Failure}
    (refused : checkUnique location seen parameters = .error failure) :
    OperationFailure here parameters failure := by
  fun_induction checkUnique location seen parameters with
  | case1 seen => cases refused
  | case2 seen entries label rest kind compound =>
      cases refused
      exact .compound List.mem_cons_self compound
  | case3 seen entries label rest key keyFound taken name =>
      rcases Tree.withText_eq_error_iff.mp refused with ⟨unknown, rfl⟩ | ⟨_, same⟩
      · exact .illegible List.mem_cons_self unknown
      · cases same
        exact .duplicate
  | case4 seen entries label rest key keyFound fresh ih => exact (ih refused).later _
  | case5 seen parameter rest other ih => exact (ih refused).later _

/-- An operation has the right shape, or gives rise to a failure of its shape. -/
theorem operationShape_or_fault {entries : List (Tree × Tree)}
    (plainly : (Tree.field "responses" entries).isEmptyLike = true ->
      (Tree.field "responses" entries).AbsentOrMapping)
    (location : String) (pathParameters : List Tree) (method : Method) (key : Tree)
    (label : Option Label) :
    OperationShape entries ∨ Exists fun failure =>
      OperationFailure (location ++ "." ++ key.display) (parameterList (.map entries label))
        failure ∧
      (Section.operation location pathParameters false (method, key, .map entries label)).fault? =
        some failure := by
  simp only [Section.fault?, Bool.false_eq_true, if_false, listFault?, Tree.entries]
  rcases listOf_cases (location ++ "." ++ key.display ++ ".parameters")
    (Tree.field "parameters" entries) with ⟨isList, listed⟩ | refused
  · rw [listed, Outcome.failure?_ok, Option.none_or]
    cases unique : checkUnique (location ++ "." ++ key.display ++ ".parameters") []
        (parameterList (.map entries label)) with
    | error failure => exact Or.inr ⟨failure, operationFailure_of_checkUnique unique, rfl⟩
    | ok _ =>
        rcases responsesOf_cases plainly (location ++ "." ++ key.display ++ ".responses") with
          isMapping | refused
        · exact Or.inl ⟨isList, isMapping⟩
        · rw [refused]
          exact Or.inr ⟨_, .responses, rfl⟩
  · rw [refused]
    exact Or.inr ⟨_, .parameters, rfl⟩

/-! ## Sections -/

namespace Section

/-- A section has the right shape.  Object schemas and operations are told to have one. -/
def Shaped : Section -> Prop
  | schema _ (.map entries _) => Schema.form entries = .object -> Schema.ObjectShape entries
  | operation _ _ _ (_, _, .map entries _) => OperationShape entries
  | _ => True

/-- What counts as absent in a section is absent or an empty value of the right kind. -/
def PlainlyEmpty : Section -> Prop
  | schema _ (.map entries _) => Schema.form entries = .object -> Schema.PlainlyEmpty entries
  | operation _ _ _ (_, _, .map entries _) =>
      (Tree.field "responses" entries).isEmptyLike = true ->
        (Tree.field "responses" entries).AbsentOrMapping
  | _ => True

/-- What a section of the wrong shape is refused for. -/
inductive ShapeFailure : Section -> Failure -> Prop
  | object {location : String} {node : Tree} {rule : Rule} (violated : Schema.ShapeRule rule) :
      ShapeFailure (schema location node) (.rule ⟨location, rule⟩)
  | operation {location : String} {pathParameters : List Tree} {repeated : Bool}
      {method : Method} {key value : Tree} {failure : Failure}
      (failed : OperationFailure (location ++ "." ++ key.display) (parameterList value) failure) :
      ShapeFailure (operation location pathParameters repeated (method, key, value)) failure
  | repeated {location : String} {pathParameters : List Tree} {method : Method}
      {key value : Tree} :
      ShapeFailure (Section.operation location pathParameters true (method, key, value))
        (.rule ⟨location ++ "." ++ key.display, .invalid .duplicateMethod⟩)

/-- A section has the right shape, or gives rise to a failure of its shape. -/
theorem shaped_or_fault {inner : Section} (plainly : inner.PlainlyEmpty) :
    inner.Shaped ∨ Exists fun failure =>
      inner.ShapeFailure failure ∧ inner.fault? = some failure := by
  cases inner with
  | schema location node =>
      cases node with
      | map entries label =>
          by_cases isObject : Schema.form entries = .object
          · rcases Schema.shape_or_refused (plainly isObject) with shape | ⟨rule, violated, refused⟩
            · exact Or.inl fun _ => shape
            · refine Or.inr ⟨_, .object violated, ?_⟩
              simp [fault?, Schema.refusal?, isObject, refused, Schema.Refusal.located,
                Fault.located, Fault.here]
          · exact Or.inl fun impossible => absurd impossible isObject
      | _ => exact Or.inl trivial
  | operation location pathParameters repeated named =>
      rcases named with ⟨method, key, value⟩
      cases value with
      | map entries label =>
          cases repeated with
          | true => exact Or.inr ⟨_, .repeated, rfl⟩
          | false =>
              rcases operationShape_or_fault plainly location pathParameters method key label with
                shape | ⟨failure, failed, faulty⟩
              · exact Or.inl shape
              · exact Or.inr ⟨failure, .operation failed, faulty⟩
      | _ => exact Or.inl trivial
  | _ => exact Or.inl trivial

end Section

/-- In a document that is read every section has the right shape, where what counts as absent
in it is so plainly.  Under the same condition a document is refused at the first section that
has another shape. -/
theorem shapes_exact (tree : Tree) :
    (forall document, read tree = .ok document -> forall inner,
      (Section.document tree).Inside inner -> inner.PlainlyEmpty -> inner.Shaped) ∧
    forall inner, (Section.document tree).Reaches inner -> inner.PlainlyEmpty -> ¬ inner.Shaped ->
      Exists fun failure => inner.ShapeFailure failure ∧ read tree = .error failure := by
  constructor
  · intro document readOk inner inside plainly
    rcases Section.shaped_or_fault plainly with shaped | ⟨failure, _, faulty⟩
    · exact shaped
    · rw [fault?_eq_none_of_read readOk inside] at faulty
      cases faulty
  · intro inner reached plainly misshapen
    rcases Section.shaped_or_fault plainly with shaped | ⟨failure, shapeFailure, faulty⟩
    · exact absurd shaped misshapen
    · exact ⟨failure, shapeFailure, (read_eq_error_iff _ _).mpr ⟨inner, reached, faulty⟩⟩

/-- A document with one component and no paths. -/
def componentTree (node : Tree) : Tree :=
  .object [("components", .object [("schemas", .object [("A", node)])]), ("paths", .object [])]

theorem reaches_componentTree (node : Tree) :
    (Section.document (componentTree node)).Reaches (.schema "components.schemas.A" node) := by
  refine @Section.Reaches.part _ _ _ [] _ rfl rfl (List.forall_mem_nil _) ?_
  exact @Section.Reaches.part _ _ _ [] _ rfl rfl (List.forall_mem_nil _) .here

/-- An object with one field, which is required. -/
def fieldNode : Tree :=
  .object [("type", .str "object"),
    ("properties", .object [("p", .object [("type", .str "string")])]),
    ("required", .list [.str "p"] none)]

/-- An object whose properties stand in a list. -/
def listedNode : Tree := .object [("properties", .list [.object [("name", .str "p")]] none)]

/-- The object with a field is read in its shape, and the other one is refused for it. -/
theorem shapes_exact_of_componentTree :
    (Exists fun document => read (componentTree fieldNode) = .ok document ∧
      (Section.schema "components.schemas.A" fieldNode).Shaped) ∧
    Exists fun failure =>
      (Section.schema "components.schemas.A" listedNode).ShapeFailure failure ∧
        read (componentTree listedNode) = .error failure := by
  constructor
  · have accepted : Exists fun document => read (componentTree fieldNode) = .ok document :=
      Outcome.exists_of_isOk (by decide +kernel)
    rcases accepted with ⟨document, readOk⟩
    refine ⟨document, readOk, (shapes_exact _).1 document readOk _ ?_ ?_⟩
    · exact (reaches_componentTree fieldNode).inside
    · intro _
      constructor <;> intro empty <;> cases empty
  · apply (shapes_exact _).2 _ (reaches_componentTree listedNode)
    · intro _
      constructor
      · intro empty
        cases empty
      · exact fun _ => Or.inl rfl
    · intro shaped
      have shape := shaped rfl
      rcases shape.properties with impossible | ⟨_, _, impossible⟩ <;> cases impossible

/-- An operation whose responses are an empty list. -/
def listedResponses : Tree := .object [("responses", .list [] none)]

/-- The empty list is taken for no responses at all. -/
theorem accepted_of_listedResponses :
    (Exists fun document => read (operationTree listedResponses) = .ok document) ∧
      (Section.document (operationTree listedResponses)).Inside
        (.operation "paths./a" [] false (.get, .str "get", listedResponses)) ∧
      ¬ (Tree.field "responses" listedResponses.entries).AbsentOrMapping := by
  refine ⟨Outcome.exists_of_isOk (by decide +kernel), (reaches_operationTree _).inside, ?_⟩
  intro shape
  rcases shape with impossible | ⟨_, _, impossible⟩ <;> cases impossible

end Document
end RouteIR
