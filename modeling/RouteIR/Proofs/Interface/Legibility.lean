import RouteIR.Proofs.Document.Legibility
import RouteIR.Proofs.Interface.ClosedWorld
import RouteIR.Proofs.Refinement.NormalForm

namespace RouteIR

/-!
# Documents whose values all have a text

Legible schemas are lowered to legible types, and a rule that is violated on the way shows
values of the schemas only.  The types that the routes lead to are among them, so every decoder
has a name: the work on a legible tree never ends for want of a text.
-/

open Outcome (Ends FailsAs)

/-! ## Refinements -/

namespace Refinement

theorem legible_lengthOf {kind : RefinementKind} {value : Tree} (legible : value.isLegible = true) :
    Ends (fun length => (Tree.int length).isLegible = true) (fun rule => rule.isLegible = true)
      (lengthOf kind value) := by
  unfold lengthOf
  split
  · split
    · exact legible
    · exact legible
  · exact legible

theorem legible_boundOf {kind : RefinementKind} {value : Tree} (legible : value.isLegible = true) :
    Ends (fun bound => bound.toTree.isLegible = true) (fun rule => rule.isLegible = true)
      (boundOf kind value) := by
  unfold boundOf
  split <;> exact legible

theorem legible_build {value : Tree} (legible : value.isLegible = true) (kind : RefinementKind) :
    Ends (fun refinement => refinement.isLegible = true) (fun rule => rule.isLegible = true)
      (build kind value) := by
  cases kind with
  | minLength | maxLength => exact (legible_lengthOf legible).map fun _ lengthLegible => lengthLegible
  | minimum | maximum => exact (legible_boundOf legible).map fun _ boundLegible => boundLegible
  | pattern =>
      unfold build
      dsimp only
      split
      · rfl
      · exact legible

theorem legible_ofConstraint {entry : String × Tree} (legible : entry.2.isLegible = true) :
    Ends (fun asked => forall refinement, asked = some refinement -> refinement.isLegible = true)
      (fun rule => rule.isLegible = true) (ofConstraint (.declared entry.1 entry.2)) := by
  rw [ofConstraint]
  split
  · rintro refinement ⟨⟩
  · next kind _ =>
      apply (legible_build legible kind).map
      rintro refinement refinementLegible _ ⟨⟩
      exact refinementLegible

theorem legible_collect {entries : List (String × Tree)}
    (legible : forall entry, entry ∈ entries -> entry.2.isLegible = true)
    {found : List Refinement}
    (foundLegible : forall refinement, refinement ∈ found -> refinement.isLegible = true) :
    Ends (fun refinements => forall refinement, refinement ∈ refinements ->
        refinement.isLegible = true)
      (fun rule => rule.isLegible = true)
      (collect found (entries.map fun entry => .declared entry.1 entry.2)) := by
  induction entries generalizing found with
  | nil => exact foundLegible
  | cons entry rest ih =>
      rw [List.forall_mem_cons] at legible
      rw [List.map_cons, collect]
      apply (legible_ofConstraint legible.1).bind
      intro asked askedLegible
      cases asked with
      | none => exact ih legible.2 foundLegible
      | some refinement =>
          dsimp only
          split
          · rfl
          · refine ih legible.2 ?_
            rw [List.forall_mem_append, List.forall_mem_singleton]
            exact ⟨foundLegible, askedLegible refinement rfl⟩

theorem isLegible_number {refinement : Refinement} (legible : refinement.isLegible = true)
    {number : Number} (isNumber : refinement.number? = some number) : number.isLegible = true := by
  cases refinement with
  | pattern => cases isNumber
  | minLength value | maxLength value =>
      cases isNumber
      rw [← Number.isLegible_toTree]
      exact legible
  | minimum value | maximum value =>
      cases isNumber
      rw [← Number.isLegible_toTree]
      exact legible

theorem legible_checkBounds {refinements : List Refinement}
    (legible : forall refinement, refinement ∈ refinements -> refinement.isLegible = true)
    (low high : RefinementKind) :
    FailsAs (fun rule => rule.isLegible = true) (checkBounds low high refinements) := by
  have number {kind : RefinementKind} {number : Number}
      (found : (find? kind refinements).bind number? = some number) : number.isLegible = true := by
    rcases Option.bind_eq_some_iff.mp found with ⟨refinement, isFound, isNumber⟩
    exact isLegible_number (legible refinement (mem_of_find? isFound)) isNumber
  unfold checkBounds
  split
  · next lower upper lowFound highFound =>
      split
      · exact Bool.and_eq_true_iff.mpr ⟨number lowFound, number highFound⟩
      · trivial
  · trivial

theorem legible_normalForm {entries : List (String × Tree)}
    (legible : forall entry, entry ∈ entries -> entry.2.isLegible = true) :
    Ends (fun refinements => forall refinement, refinement ∈ refinements ->
        refinement.isLegible = true)
      (fun rule => rule.isLegible = true)
      (normalForm (entries.map fun entry => .declared entry.1 entry.2)) := by
  rw [normalForm]
  apply (legible_collect legible (by simp)).bind
  intro found foundLegible
  apply (legible_checkBounds foundLegible .minLength .maxLength).bind
  intro _ _
  apply (legible_checkBounds foundLegible .minimum .maximum).bind
  intro _ _ refinement member
  rcases List.mem_filterMap.mp member with ⟨kind, _, isFound⟩
  exact foundLegible refinement (mem_of_find? isFound)

end Refinement

/-! ## Types -/

namespace Primitive

theorem legible_ofConstraints (kind : PrimitiveKind) (format : Option String)
    {constraints : List (String × Tree)}
    (legible : forall entry, entry ∈ constraints -> entry.2.isLegible = true) :
    Ends (fun scalar => forall refinement, refinement ∈ scalar.refinements ->
        refinement.isLegible = true)
      (fun rule => rule.isLegible = true) (ofConstraints kind format constraints) := by
  rw [ofConstraints]
  apply (Refinement.legible_normalForm legible).bind
  intro refinements refinementsLegible
  split
  · rfl
  · exact refinementsLegible

end Primitive

namespace TypeExpr

/-- All values in a type have a text, those in the fields of records too. -/
inductive Legible : TypeExpr -> Prop
  | primitive {scalar : Primitive}
      (refinements : forall refinement, refinement ∈ scalar.refinements ->
        refinement.isLegible = true) : Legible (.primitive scalar)
  | array {element : TypeExpr} (part : Legible element) : Legible (.array element)
  | enum {values : List Literal}
      (literals : forall literal, literal ∈ values -> literal.isLegible = true) :
      Legible (.enum values)
  | ref {name : String} : Legible (.ref name)
  | record {fields : List (Field TypeExpr)}
      (parts : forall field, field ∈ fields -> Legible field.type) : Legible (.record fields)

theorem Legible.isDescribable {type : TypeExpr} (legible : type.Legible) :
    type.isDescribable = true := by
  induction legible with
  | primitive refinements => exact List.all_eq_true.mpr refinements
  | array _ ih => exact ih
  | enum literals => exact List.all_eq_true.mpr literals
  | ref => rfl
  | record _ _ => rfl

mutual

/-- A legible schema is lowered to a legible type, or refused with a message. -/
theorem legible_ofSchema (components : List String) (position : Position) (schema : Schema)
    (legible : schema.Legible) :
    Ends Legible (fun fault => fault.rule.isLegible = true)
      (ofSchema components position schema) := by
  match schema, legible with
  | .object fields required, .object parts =>
      cases position with
      | component =>
          exact (legible_ofFields components required fields parts).map fun _ typed => .record typed
      | nested => rfl
      | route => rfl
  | .array element, .array part =>
      have inner := legible_ofSchema components position.ofItems element part
      rw [ofSchema]
      exact (inner.mapError fun _ shown => shown).map fun _ typed => .array typed
  | .primitive kind format constraints, .primitive values =>
      rw [ofSchema]
      have scalar := Primitive.legible_ofConstraints kind format values
      exact (scalar.mapError fun _ shown => shown).map fun _ typed => .primitive typed
  | .enum values, .enum literals =>
      rw [ofSchema]
      split
      · rfl
      · exact .enum literals
  | .ref name, .ref =>
      rw [ofSchema]
      split
      · exact .ref
      · rfl

theorem legible_ofFields (components required : List String) (properties : List (String × Schema))
    (legible : forall property, property ∈ properties -> property.2.Legible) :
    Ends (fun fields => forall field, field ∈ fields -> field.type.Legible)
      (fun fault => fault.rule.isLegible = true) (ofFields components required properties) := by
  match properties with
  | [] =>
      intro field member
      cases member
  | (name, schema) :: rest =>
      rw [List.forall_mem_cons] at legible
      rw [ofFields]
      have first := legible_ofSchema components .nested schema legible.1
      apply (first.mapError fun _ shown => shown).bind
      intro type typeLegible
      apply (legible_ofFields components required rest legible.2).bind
      intro others othersLegible
      exact List.forall_mem_cons.mpr ⟨typeLegible, othersLegible⟩

end

end TypeExpr

/-! ## Components -/

/-- A violation whose message has a text. -/
def Violation.Shown (violation : Violation) : Prop := violation.rule.isLegible = true

namespace Components

theorem shown_follow (components : Components) (links : Nat) (type : TypeExpr) :
    FailsAs (fun rule => rule.isLegible = true) (components.follow links type) := by
  fun_induction follow components links type with
  | case1 => rfl
  | case2 => rfl
  | case3 _ _ _ _ ih => exact ih
  | case4 => trivial

theorem shown_isPrimitiveList (components : Components) (type : TypeExpr) :
    FailsAs (fun rule => rule.isLegible = true) (components.isPrimitiveList type) := by
  apply FailsAs.map
  apply (shown_follow components _ type).bind
  intro target _
  cases target with
  | array element =>
      apply (shown_follow components _ element).bind
      intro inner _
      cases inner <;> trivial
  | _ => trivial

theorem shown_checkAliases (components : Components) (names : List String) :
    FailsAs Violation.Shown (components.checkAliases names) := by
  induction names with
  | nil => trivial
  | cons name rest ih =>
      rw [checkAliases]
      have resolved : FailsAs Violation.Shown
          ((components.resolve (.ref name)).mapError (⟨location name, ·⟩)) :=
        (shown_follow components _ _).mapError fun _ shown => shown
      exact (resolved.map fun _ => ()).bind fun _ _ => ih

/-- Legible schemas have legible types. -/
theorem legible_ofSchemas {schemas : List (String × Schema)}
    (legible : forall declared, declared ∈ schemas -> declared.2.Legible) :
    Outcome.Ends (fun components => forall component, component ∈ components -> component.2.Legible)
      Violation.Shown (ofSchemas schemas) := by
  have lowered : Outcome.Ends
      (fun components => forall component, component ∈ components -> component.2.Legible)
      Violation.Shown (ofSchemaList (Keyed.keys schemas) schemas) := by
    rw [ofSchemaList_eq_mapM]
    apply Outcome.ends_mapM
    intro declared member
    have one := TypeExpr.legible_ofSchema (Keyed.keys schemas) .component declared.2
      (legible declared member)
    exact (one.mapError fun _ shown => shown).map fun _ typed => typed
  rw [ofSchemas]
  apply lowered.bind
  intro components componentsLegible
  exact (shown_checkAliases components _).bind fun _ _ => componentsLegible

/-- Legible types over legible components lead to legible types only. -/
theorem legible_of_types {components : Components} {roots : List TypeExpr}
    (legible : forall component, component ∈ components -> component.2.Legible)
    (start : forall root, root ∈ roots -> root.Legible) : components.Legible roots := by
  have hereditary : components.Hereditary TypeExpr.Legible := by
    refine ⟨?_, ?_, ?_⟩
    · intro element array
      cases array with
      | array part => exact part
    · intro fields field record member
      cases record with
      | record parts => exact parts field member
    · intro name target _ found
      exact legible (name, target) (Keyed.mem_of_lookup found)
  intro type reached
  exact (reached.of_hereditary hereditary start).isDescribable

end Components

/-! ## Routes -/

namespace Routes

theorem shown_typeOf (components : Components) (location : String) {schema : Schema}
    (legible : schema.Legible) : FailsAs Violation.Shown (typeOf components location schema) := by
  have ends := TypeExpr.legible_ofSchema (Keyed.keys components) .route schema legible
  rw [typeOf]
  cases outcome : TypeExpr.ofSchema (Keyed.keys components) .route schema with
  | ok type => trivial
  | error fault => exact ends.failure outcome

theorem shown_optionalTypeOf (components : Components) (location : String) {schema : Option Schema}
    (legible : forall declared, schema = some declared -> declared.Legible) :
    FailsAs Violation.Shown (optionalTypeOf components location schema) := by
  cases schema with
  | none => trivial
  | some declared => exact (shown_typeOf components location (legible declared rfl)).map _

theorem shown_parameterOf (components : Components) (location : String)
    {declared : DeclaredParameter} (legible : declared.schema.Legible) :
    FailsAs Violation.Shown (parameterOf components location declared) := by
  rw [parameterOf]
  apply (shown_typeOf components _ legible).bind
  intro type _
  have marked : FailsAs Violation.Shown (isListValued components declared.location type) := by
    unfold isListValued
    split
    · exact (components.shown_isPrimitiveList type).mapError fun _ shown => shown
    · trivial
    · trivial
  exact marked.bind fun _ _ => trivial

theorem shown_checkPathNames (location : String) (placeholders declared : List String) :
    FailsAs Violation.Shown (checkPathNames location placeholders declared) := by
  unfold checkPathNames
  split
  · rfl
  · split
    · rfl
    · trivial

theorem shown_itemOf (components : Components) (template : String) {operation : Operation}
    (legible : forall schema, schema ∈ operation.schemas -> schema.Legible) :
    FailsAs Violation.Shown (itemOf components template operation) := by
  rw [Operation.schemas, List.forall_mem_append, List.forall_mem_append] at legible
  rcases legible with ⟨⟨parametersLegible, bodyLegible⟩, responsesLegible⟩
  rw [itemOf]
  have parameters (location : String) :
      FailsAs Violation.Shown (parametersOf components location operation.parameters) := by
    rw [parametersOf_eq_mapM]
    apply Outcome.failsAs_mapM
    intro declared member
    exact shown_parameterOf components _
      (parametersLegible declared.schema (List.mem_map_of_mem member))
  apply (parameters _).bind
  intro _ _
  apply (shown_checkPathNames _ _ _).bind
  intro _ _
  have body : forall declared, operation.requestBody = some declared -> declared.Legible :=
    fun declared found => bodyLegible declared (Option.mem_toList.mpr found)
  apply (shown_optionalTypeOf components _ body).bind
  intro _ _
  have responses (location : String) :
      FailsAs Violation.Shown (responsesOf components location operation.responses) := by
    rw [responsesOf_eq_mapM]
    apply Outcome.failsAs_mapM
    intro response member
    refine FailsAs.map (shown_optionalTypeOf components _ ?_) _
    intro declared found
    exact responsesLegible declared (List.mem_filterMap.mpr ⟨response, member, found⟩)
  exact (responses _).bind fun _ _ => trivial

section Paths

variable {paths : List (String × List Operation)}
  (legible : forall path, path ∈ paths -> forall operation, operation ∈ path.2 ->
    forall schema, schema ∈ operation.schemas -> schema.Legible)
include legible

theorem shown_ofPaths (components : Components) :
    FailsAs Violation.Shown (ofPaths components paths) := by
  rw [ofPaths_eq_mapM]
  apply Outcome.failsAs_mapM
  intro path member
  apply FailsAs.map
  rw [itemsOf_eq_mapM]
  apply Outcome.failsAs_mapM
  intro operation operationMember
  exact shown_itemOf components path.1 (legible path member operation operationMember)

/-- The types of routes are lowered from the schemas of their operations. -/
theorem legible_types {components : Components} {routes : Routes}
    (made : ofPaths components paths = .ok routes) (type : TypeExpr) (member : type ∈ routes.types) :
    type.Legible := by
  rcases List.mem_flatMap.mp member with ⟨item, itemMember, typeMember⟩
  rcases exists_operation_of_item made itemMember with
    ⟨path, pathMember, operation, operationMember, itemOf⟩
  rcases itemOf.exists_schema typeMember with ⟨schema, schemaMember, location, lowered⟩
  have schemaLegible := legible path pathMember operation operationMember schema schemaMember
  have ends := TypeExpr.legible_ofSchema (Keyed.keys components) .route schema schemaLegible
  exact ends.value (Outcome.mapError_eq_ok_iff.mp lowered)

end Paths

end Routes

/-! ## Interfaces -/

namespace Interface

section Tree

variable {tree : Tree} (legible : tree.isLegible = true) {document : Document}
  (read : Document.read tree = .ok document)
include legible read

theorem legible_of_components (declared : String × Schema)
    (member : declared ∈ document.components) : declared.2.Legible := by
  refine Schema.legible_of_readInside legible (Document.readInside_of_schema read ?_)
  exact List.mem_append_left _ (List.mem_map_of_mem member)

theorem legible_of_paths (path : String × List Operation) (pathMember : path ∈ document.paths)
    (operation : Operation) (member : operation ∈ path.2) (schema : Schema)
    (schemaMember : schema ∈ operation.schemas) : schema.Legible := by
  refine Schema.legible_of_readInside legible (Document.readInside_of_schema read ?_)
  refine List.mem_append_right _ (List.mem_flatMap.mpr ⟨operation, ?_, schemaMember⟩)
  exact List.mem_flatMap.mpr ⟨path, pathMember, member⟩

theorem legible_of_routes {components : Components} (typed : componentsOf document = .ok components)
    {routes : Routes} (aggregated : routesOf components document = .ok routes) :
    components.Legible routes.types := by
  have componentsEnd := Components.legible_ofSchemas (legible_of_components legible read)
  have componentsLegible := componentsEnd.value (Outcome.mapError_eq_ok_iff.mp typed)
  exact Components.legible_of_types componentsLegible
    (Routes.legible_types (legible_of_paths legible read) (ofPaths_of_routesOf aggregated))

end Tree

/-- The work on a legible tree does not end for want of a text. -/
theorem ofTree_ne_illegible {tree : Tree} (legible : tree.isLegible = true) :
    ofTree tree ≠ .error .illegible := by
  intro refused
  rcases (ofTree_eq_error_iff tree .illegible).mp refused with
    unread | ⟨document, read, untyped | ⟨components, typed, unrouted | ⟨routes, made, unplanned⟩⟩⟩
  · rcases Outcome.mapError_eq_error_iff.mp unread with ⟨failure, readRefused, told⟩
    exact (Document.shown_read legible).failure readRefused told
  · rcases Outcome.mapError_eq_error_iff.mp untyped with ⟨violation, refused, told⟩
    have ends := Components.legible_ofSchemas (legible_of_components legible read)
    exact Failure.shown_rule (ends.failure refused) told
  · rcases Outcome.mapError_eq_error_iff.mp unrouted with ⟨violation, refused, told⟩
    have ends := Routes.shown_ofPaths (legible_of_paths legible read) components
    exact Failure.shown_rule (ends.failure refused) told
  · rcases DecoderPlan.forRoutes_of_closed (settled_of_componentsOf typed).closed
      (ofPaths_of_routesOf made) with ⟨plan, _, _, planned, _⟩
    rw [planned (legible_of_routes legible read typed made)] at unplanned
    cases unplanned

end Interface
end RouteIR
