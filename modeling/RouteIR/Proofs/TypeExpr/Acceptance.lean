import RouteIR.Proofs.TypeExpr.Lowering

namespace RouteIR

/-!
# The schemas that have a type

Lowering goes through the nodes of a schema from the outside in and from the first field to
the last, and it stops at the first node that it refuses.  Whether it refuses a node depends
on what the node itself declares, on where it stands, and on the names of the components.
So a schema has a type when all of its nodes are supported, and else its fault is that of the
first which is not.  The type then shows the schema node by node.
-/

namespace Primitive

/-- Constraints give a primitive when they have a normal form all of which applies. -/
theorem ofConstraints_eq_ok_iff {kind : PrimitiveKind} {format : Option String}
    {constraints : List (String × Tree)} {scalar : Primitive} :
    ofConstraints kind format constraints = .ok scalar ↔ Exists fun refinements =>
      Refinement.normalForm (constraints.map fun entry => .declared entry.1 entry.2) =
        .ok refinements ∧
      (forall refinement, refinement ∈ refinements -> refinement.kind.appliesTo kind = true) ∧
      scalar = ⟨kind, format, refinements⟩ := by
  rw [ofConstraints, Outcome.bind_eq_ok_iff]
  refine exists_congr fun refinements => and_congr_right fun _ => ?_
  split
  · next refinement refused =>
      have inapplicable := List.find?_some refused
      refine iff_of_false nofun fun ⟨applies, _⟩ => ?_
      rw [applies refinement (List.mem_of_find?_eq_some refused)] at inapplicable
      cases inapplicable
  · next none =>
      have applies : forall refinement, refinement ∈ refinements ->
          refinement.kind.appliesTo kind = true := by
        simpa using none
      rw [Except.ok.injEq]
      exact ⟨fun same => ⟨applies, same.symm⟩, fun both => both.2.symm⟩

end Primitive

/-! ## Nodes -/

namespace Schema

/-- A node of a schema, with the steps that lead to it. -/
structure Node where
  steps : List Step
  schema : Schema

/-- The same node seen from one step above. -/
def Node.under (step : Step) (node : Node) : Node := ⟨step :: node.steps, node.schema⟩

mutual

/-- The nodes of a schema in document order, each before the nodes inside it. -/
def nodes : Schema -> List Node
  | object fields required => ⟨[], object fields required⟩ :: fieldNodes fields
  | array element => ⟨[], array element⟩ :: element.nodes.map (.under .items)
  | primitive kind format constraints => [⟨[], primitive kind format constraints⟩]
  | enum values => [⟨[], enum values⟩]
  | ref name => [⟨[], ref name⟩]

def fieldNodes : List (String × Schema) -> List Node
  | [] => []
  | (name, schema) :: rest => schema.nodes.map (.under (.property name)) ++ fieldNodes rest

end

namespace Node

/-- What is asked of a node.  An object has to be the whole of a component, an enumeration has
literals, a reference names a component, and the constraints of a primitive have a normal form
that applies to its kind. -/
def Supported (components : List String) (position : Position) (node : Node) : Prop :=
  match node.schema with
  | .object _ _ => node.steps = [] ∧ position = .component
  | .array _ => True
  | .primitive kind _ constraints => Exists fun refinements =>
      Refinement.normalForm (constraints.map fun entry => .declared entry.1 entry.2) =
        .ok refinements ∧
      forall refinement, refinement ∈ refinements -> refinement.kind.appliesTo kind = true
  | .enum values => values ≠ []
  | .ref name => name ∈ components

/-- The rule that a node violates by itself. -/
def rule? (components : List String) (position : Position) (node : Node) : Option Rule :=
  match node.schema with
  | .object _ _ =>
      if node.steps = [] ∧ position = .component then none
      else some (.unsupported position.objectFeature)
  | .array _ => none
  | .primitive kind format constraints =>
      Outcome.failure? (Primitive.ofConstraints kind format constraints)
  | .enum values => if values = [] then some (.invalid .emptyEnum) else none
  | .ref name => if name ∈ components then none else some (.unresolved name)

def fault? (components : List String) (position : Position) (node : Node) : Option Fault :=
  (node.rule? components position).map (.mk node.steps)

variable (components : List String) (position : Position)

theorem fault?_eq_none_iff (node : Node) :
    node.fault? components position = none ↔ node.Supported components position := by
  obtain ⟨steps, schema⟩ := node
  rw [fault?, Option.map_eq_none_iff, rule?, Supported]
  cases schema with
  | object fields required => simp
  | array element => simp
  | primitive kind format constraints =>
      simp only [Outcome.failure?_eq_none_iff, Primitive.ofConstraints_eq_ok_iff]
      constructor
      · rintro ⟨_, refinements, normal, applies, rfl⟩
        exact ⟨refinements, normal, applies⟩
      · rintro ⟨refinements, normal, applies⟩
        exact ⟨_, refinements, normal, applies, rfl⟩
  | enum values => simp
  | ref name => simp

/-- Below the top of a schema, a component is a place like any other that is no route. -/
theorem fault?_under (step : Step) (node : Node) :
    (node.under step).fault? components position =
      (node.fault? components position.ofItems).map (.under step) := by
  obtain ⟨steps, schema⟩ := node
  cases schema with
  | object fields required =>
      cases position <;> simp [fault?, rule?, under, Position.ofItems, Position.objectFeature,
        Fault.under]
  | array _ | primitive _ _ _ | enum _ | ref _ =>
      simp only [fault?, rule?, under, Option.map_map, Function.comp_def, Fault.under]

theorem findSome?_under (step : Step) (nodes : List Node) :
    (nodes.map (.under step)).findSome? (fault? components position) =
      (nodes.findSome? (fault? components position.ofItems)).map (.under step) := by
  rw [List.findSome?_map, List.map_findSome?]
  exact congrArg (nodes.findSome? ·) (funext (fault?_under components position step))

end Node
end Schema

namespace TypeExpr

mutual

/-- Lowering fails with the fault of the first node that is refused. -/
theorem failure?_ofSchema (components : List String) (position : Position) (schema : Schema) :
    Outcome.failure? (ofSchema components position schema) =
      schema.nodes.findSome? (Schema.Node.fault? components position) := by
  match schema with
  | .object fields required =>
      cases position with
      | component =>
          rw [ofSchema, Outcome.failure?_map, failure?_ofFields, Schema.nodes, List.findSome?_cons]
          rfl
      | nested | route => rfl
  | .array element =>
      rw [ofSchema, Outcome.failure?_map, Outcome.failure?_mapError, failure?_ofSchema,
        Schema.nodes, List.findSome?_cons, Schema.Node.findSome?_under]
      rfl
  | .primitive kind format constraints =>
      rw [ofSchema, Outcome.failure?_map, Outcome.failure?_mapError, Schema.nodes,
        List.findSome?_singleton]
      rfl
  | .enum values =>
      rw [ofSchema, Schema.nodes, List.findSome?_singleton, Schema.Node.fault?, Schema.Node.rule?]
      cases values <;> rfl
  | .ref name =>
      rw [ofSchema, Schema.nodes, List.findSome?_singleton, Schema.Node.fault?, Schema.Node.rule?]
      by_cases known : name ∈ components
      · simp [known, Outcome.failure?]
      · simp [known, Outcome.failure?, Fault.here]

theorem failure?_ofFields (components required : List String) (fields : List (String × Schema)) :
    Outcome.failure? (ofFields components required fields) =
      (Schema.fieldNodes fields).findSome? (Schema.Node.fault? components .component) := by
  match fields with
  | [] => rfl
  | (name, schema) :: rest =>
      have others (type : TypeExpr) : Outcome.failure? (do
          let others ← ofFields components required rest
          return ⟨name, type, required.contains name⟩ :: others) =
          (Schema.fieldNodes rest).findSome? (Schema.Node.fault? components .component) := by
        rw [Outcome.failure?_bind_pure, failure?_ofFields]
      rw [ofFields, Outcome.failure?_bind fun type _ => others type, Outcome.failure?_mapError,
        failure?_ofSchema, Schema.fieldNodes, List.findSome?_append, Schema.Node.findSome?_under]
      rfl

end

mutual

/-- A type that shows a schema node by node. -/
inductive Mirrors : Schema -> TypeExpr -> Prop
  | record {properties : List (String × Schema)} {required : List String}
      {fields : List (Field TypeExpr)} (parts : FieldsMirror required properties fields) :
      Mirrors (.object properties required) (.record fields)
  | array {element : Schema} {type : TypeExpr} (part : Mirrors element type) :
      Mirrors (.array element) (.array type)
  | primitive {kind : PrimitiveKind} {format : Option String}
      {constraints : List (String × Tree)} {refinements : List Refinement}
      (normal : Refinement.normalForm (constraints.map fun entry => .declared entry.1 entry.2) =
        .ok refinements) :
      Mirrors (.primitive kind format constraints) (.primitive ⟨kind, format, refinements⟩)
  | enum (values : List Literal) : Mirrors (.enum values) (.enum values)
  | ref (name : String) : Mirrors (.ref name) (.ref name)

/-- The fields of a record show the properties of an object in order, and which of them are
required. -/
inductive FieldsMirror : List String -> List (String × Schema) -> List (Field TypeExpr) -> Prop
  | nil {required : List String} : FieldsMirror required [] []
  | cons {required : List String} {name : String} {schema : Schema} {type : TypeExpr}
      {mark : Bool} {properties : List (String × Schema)} {fields : List (Field TypeExpr)}
      (part : Mirrors schema type) (marked : mark = true ↔ name ∈ required)
      (others : FieldsMirror required properties fields) :
      FieldsMirror required ((name, schema) :: properties) (⟨name, type, mark⟩ :: fields)

end

theorem mirrorCases (components : List String) :
    LoweringCases components fun _ schema type => Mirrors schema type where
  record properties required fields fieldsOf := by
    refine .record ?_
    induction fieldsOf with
    | nil => exact .nil
    | @cons property field _ _ fieldOf _ ih =>
        obtain ⟨name, schema⟩ := property
        obtain ⟨fieldName, type, mark⟩ := field
        cases fieldOf.name
        refine .cons fieldOf.holds ?_ ih
        have marked : mark = required.contains name := fieldOf.required
        rw [marked, List.contains_iff_mem]
  array _ _ _ part := .array part
  primitive _ _ _ _ _ built := by
    rcases Primitive.ofConstraints_eq_ok_iff.mp built with ⟨refinements, normal, _, rfl⟩
    exact .primitive normal
  enum _ values _ := .enum values
  ref _ name _ := .ref name

/-- A schema has a type when all of its nodes are supported. -/
theorem exists_ofSchema_iff (components : List String) (position : Position) (schema : Schema) :
    (Exists fun type => ofSchema components position schema = .ok type) ↔
      forall node, node ∈ schema.nodes -> node.Supported components position := by
  rw [← Outcome.failure?_eq_none_iff, failure?_ofSchema, List.findSome?_eq_none_iff]
  simp only [Schema.Node.fault?_eq_none_iff]

/-- Lowering fails with the fault of the first node that is not supported. -/
theorem ofSchema_eq_error_iff (components : List String) (position : Position) (schema : Schema)
    (fault : Fault) :
    ofSchema components position schema = .error fault ↔
      Outcome.First (·.Supported components position)
        (·.fault? components position = some fault) schema.nodes := by
  rw [← Outcome.failure?_eq_some_iff, failure?_ofSchema, Outcome.findSome?_eq_some_iff]
  simp only [Schema.Node.fault?_eq_none_iff]

/-- A schema has a type when all of its nodes are supported, and the type shows it node by
node.  Where the first node that is not supported is an object, the fault is named after the
place where the object stands. -/
theorem lowering_exact (components : List String) (position : Position) (schema : Schema) :
    ((Exists fun type => ofSchema components position schema = .ok type) ↔
      forall node, node ∈ schema.nodes -> node.Supported components position) ∧
    (forall type, ofSchema components position schema = .ok type -> Mirrors schema type) ∧
    forall steps fields required,
      Outcome.First (·.Supported components position)
        (fun node => node = ⟨steps, .object fields required⟩ ∧
          ¬ node.Supported components position) schema.nodes ->
      ofSchema components position schema = .error ⟨steps,
        .unsupported (if position = .route then .anonymousInlineType else .nestedObject)⟩ := by
  refine ⟨exists_ofSchema_iff components position schema,
    (mirrorCases components).of_lowered position schema, ?_⟩
  rintro steps fields required ⟨before, node, after, inOrder, earlier, rfl, refused⟩
  have misplaced : ¬ (steps = [] ∧ position = .component) := refused
  refine (ofSchema_eq_error_iff components position schema _).mpr
    ⟨before, _, after, inOrder, earlier, ?_⟩
  simp only [Schema.Node.fault?, Schema.Node.rule?, if_neg misplaced]
  cases position <;> rfl

/-- An object with a list of references, an enumeration and a refined primitive. -/
def entrySchema : Schema :=
  .object [("tags", .array (.ref "Tag")), ("level", .enum [.int 1, .int 2]),
    ("name", .primitive .string (some "slug") [("example", .null), ("maxLength", .int 8)])] ["tags"]

/-- As a component the object has a type.  In two arrays of a route it has none, and neither has
it in an array that is a later field of a component. -/
theorem lowering_exact_of_entry :
    (Exists fun type => ofSchema ["Tag"] .component entrySchema = .ok type ∧
      Mirrors entrySchema type) ∧
    ofSchema ["Tag"] .route (.array (.array entrySchema)) =
      .error ⟨[.items, .items], .unsupported .anonymousInlineType⟩ ∧
    ofSchema ["Tag"] .component (.object [("tag", .ref "Tag"), ("entry", .array entrySchema)] []) =
      .error ⟨[.property "entry", .items], .unsupported .nestedObject⟩ := by
  refine ⟨?_, ?_, ?_⟩
  · rcases lowering_exact ["Tag"] .component entrySchema with ⟨accepted, mirrored, _⟩
    have supported : forall node, node ∈ entrySchema.nodes ->
        node.Supported ["Tag"] .component := by
      intro node member
      simp only [entrySchema, Schema.nodes, Schema.fieldNodes, List.map_cons, List.map_nil,
        List.cons_append, List.nil_append, List.mem_cons, List.not_mem_nil, or_false] at member
      rcases member with rfl | rfl | rfl | rfl | rfl
      · exact ⟨rfl, rfl⟩
      · trivial
      · exact List.mem_cons_self
      · exact List.cons_ne_nil _ _
      · exact ⟨[.maxLength 8], rfl, by simp [Refinement.kind, RefinementKind.appliesTo]⟩
    rcases accepted.mpr supported with ⟨type, lowered⟩
    exact ⟨type, lowered, mirrored type lowered⟩
  · rcases lowering_exact ["Tag"] .route (.array (.array entrySchema)) with ⟨_, _, located⟩
    refine located [.items, .items] _ _ ⟨[⟨[], _⟩, ⟨[.items], _⟩], _, _, rfl, ?_, rfl, ?_⟩
    · simp [Schema.Node.Supported]
    · simp [Schema.Node.Supported, Schema.Node.under]
  · rcases lowering_exact ["Tag"] .component
      (.object [("tag", .ref "Tag"), ("entry", .array entrySchema)] []) with ⟨_, _, located⟩
    refine located [.property "entry", .items] _ _
      ⟨[⟨[], _⟩, ⟨[.property "tag"], .ref "Tag"⟩, ⟨[.property "entry"], _⟩], _, _, rfl, ?_, rfl, ?_⟩
    · simp [Schema.Node.Supported]
    · simp [Schema.Node.Supported, Schema.Node.under]

end TypeExpr
end RouteIR
