import RouteIR.Proofs.Decoder.Agreement
import RouteIR.Proofs.Interface.ClosedWorld

namespace RouteIR

/-!
# The list decoders of an interface

A list decoder is made when a parameter asks for it, together with the check of its element or
after it.  The check may have been made for a primitive of another spelling, with another
format, met at quite another place; what the two have in common is the key that both are found
by.  So a list decoder always refers to a check of the plan that it is in, and each list that a
query carries has one decoder, which no other list of equal elements has a second time.
-/

/-- Primitives that are equal, their numbers by value. -/
def Primitive.Equal (left right : Primitive) : Prop :=
  left.kind = right.kind ∧ left.format = right.format ∧
    left.refinements.map Refinement.identity = right.refinements.map Refinement.identity

instance (left right : Primitive) : Decidable (left.Equal right) :=
  inferInstanceAs (Decidable (_ ∧ _))

/-- Without formats, primitives are equal when one decoder serves both. -/
theorem Primitive.equal_iff_key {left right : Primitive} (leftPlain : left.format = none)
    (rightPlain : right.format = none) : left.Equal right ↔ left.key = right.key := by
  rw [Equal, key, key, Prod.mk.injEq, leftPlain, rightPlain]
  simp

/-- A list decoder of a plan that decodes an array of primitives of no format, and refers to the
check of a refined one by its name. -/
structure ListDecoder.Sound (plan : DecoderPlan) (decoder : ListDecoder) : Prop where
  plain : decoder.element.format = none
  unchecked : decoder.elementDecoder = none ↔ decoder.element.refinements = []
  checked : forall name, decoder.elementDecoder = some name -> Exists fun check =>
    check ∈ plan.refinementDecoders ∧ check.name = name ∧ check.primitive.Equal decoder.element
  named : decoder.name = "list_of_" ++ decoder.elementDecoder.getD decoder.element.kind.text

namespace DecoderPlan

/-- Every decoder of a plan is made for a primitive of no format. -/
structure Unformatted (plan : DecoderPlan) : Prop where
  refined : forall decoder, decoder ∈ plan.refinementDecoders -> decoder.primitive.format = none
  lists : forall decoder, decoder ∈ plan.listDecoders -> decoder.element.format = none

theorem Serves.unformatted {plan : DecoderPlan} {scalars elements : Primitive -> Prop}
    {literals : List Literal -> Prop} (serves : plan.Serves scalars elements literals) :
    plan.Unformatted := by
  constructor
  · intro decoder member
    rcases serves.refined decoder member with ⟨scalar, _, _, rfl⟩
    rfl
  · intro decoder member
    rcases serves.lists decoder member with ⟨element, _, same⟩
    rw [same]
    rfl

/-- In a linked plan of no formats every list decoder is sound. -/
theorem Linked.sound {plan : DecoderPlan} (linked : plan.Linked) (unformatted : plan.Unformatted)
    {decoder : ListDecoder} (member : decoder ∈ plan.listDecoders) : decoder.Sound plan := by
  rcases linked.lists decoder member with ⟨named, link⟩
  have plain := unformatted.lists decoder member
  cases link with
  | plain unrefined unnamed =>
      refine ⟨plain, iff_of_true unnamed unrefined, ?_, named⟩
      intro name impossible
      rw [unnamed] at impossible
      cases impossible
  | @checked check checkMember same checkNamed =>
      have refined : decoder.element.refinements ≠ [] := by
        rw [Ne, ← refinements_eq_nil_iff same]
        exact (linked.refined check checkMember).1
      refine ⟨plain, iff_of_false (by simp [checkNamed]) refined, ?_, named⟩
      intro name isNamed
      rw [checkNamed] at isNamed
      exact ⟨check, checkMember, Option.some.inj isNamed,
        (Primitive.equal_iff_key (unformatted.refined check checkMember) plain).mpr same⟩

/-- Among distinct decoders of no formats, one decodes the lists of an element that is known. -/
theorem Distinct.exists_list {plan : DecoderPlan} (distinct : plan.Distinct)
    (unformatted : plan.Unformatted) {scalar : Primitive} (known : scalar.key ∈ plan.listKeys) :
    Exists fun decoder =>
      plan.listDecoders.filter (·.element.Equal scalar.withoutFormat) = [decoder] := by
  rcases Keyed.exists_filter_eq_singleton distinct.lists known with ⟨decoder, once⟩
  refine ⟨decoder, ?_⟩
  rw [← once]
  refine List.filter_congr fun other member => ?_
  rw [decide_eq_decide, Primitive.equal_iff_key (unformatted.lists other member) rfl]
  rfl

end DecoderPlan

namespace Interface

/-- The list decoders of an interface are sound, and each parameter that carries a list has one
for the element that its type resolves to. -/
theorem listDecoders_sound {tree : Tree} {interface : Interface}
    (made : ofTree tree = .ok interface) :
    (forall decoder, decoder ∈ interface.decoders.listDecoders ->
      decoder.Sound interface.decoders) ∧
    forall item, item ∈ interface.routes.items -> forall parameter, parameter ∈ item.parameters ->
      parameter.listValued = true ->
      Exists fun element => interface.components.resolve parameter.type = .ok (.array element) ∧
        Exists fun scalar => interface.components.resolve element = .ok (.primitive scalar) ∧
          Exists fun decoder => interface.decoders.listDecoders.filter
            (·.element.Equal scalar.withoutFormat) = [decoder] := by
  rcases (ofTree_eq_ok_iff tree interface).mp made with ⟨document, _, typed, aggregated, planned, _⟩
  have routed := ofPaths_of_routesOf aggregated
  rcases DecoderPlan.exists_survey_of_routes (settled_of_componentsOf typed).closed routed with
    ⟨final, finalPlanned, met, distinct, serves⟩
  have same : interface.decoders = final.plan := Except.ok.inj (planned.symm.trans finalPlanned)
  rw [same] at planned ⊢
  constructor
  · exact fun decoder member =>
      (DecoderPlan.linked_of_ofRoutes planned).sound serves.unformatted member
  · intro item itemMember parameter parameterMember marked
    rcases Routes.exists_operation_of_item routed itemMember with ⟨path, _, operation, _, itemOf⟩
    rcases itemOf.exists_listElement parameterMember marked with ⟨scalar, found⟩
    rcases (Components.listElement?_eq_some_iff _ _ _).mp found with
      ⟨element, resolved, elementResolved⟩
    have known : scalar.key ∈ final.plan.listKeys := by
      refine met.lists parameter.type scalar ?_ found
      exact (Routes.list_mem_demands_iff _ _).mpr
        ⟨item, itemMember, parameter, parameterMember, marked, rfl⟩
    exact ⟨element, resolved, scalar, elementResolved, distinct.exists_list serves.unformatted known⟩

/-- A share of at least one, lists of it with and without a format and through aliases, in
another spelling of the bound, and a list of flags. -/
def sharesTree : Tree :=
  let object (entries : List (String × Tree)) : Tree :=
    .map (entries.map fun entry => (.str entry.1, entry.2)) none
  let reference (name : String) : Tree := object [("$ref", .str ("#/components/schemas/" ++ name))]
  let share (bound : Tree) (format : Tree) : Tree :=
    object [("type", .str "number"), ("minimum", bound), ("format", format)]
  let array (items : Tree) : Tree := object [("type", .str "array"), ("items", items)]
  let query (name : String) (schema : Tree) : Tree :=
    object [("name", .str name), ("in", .str "query"), ("schema", schema)]
  object [
    ("components", object [("schemas", object [
      ("Share", share (.float (.ofInt 1)) .null), ("Shares", array (reference "Share"))])]),
    ("paths", object [("/shares", object [("get", object [
      ("parameters", .list [query "least" (share (.int 1) (.str "double")),
        query "any" (reference "Shares"), query "all" (array (share (.int 1) (.str "float"))),
        query "flags" (array (object [("type", .str "boolean")]))] none),
      ("responses", object [])])])])]

/-- The check is made for the integer bound, the list decoder for the other spelling of it. -/
theorem listDecoders_sound_of_sharesTree :
    Exists fun interface => ofTree sharesTree = .ok interface ∧
      interface.decoders.listDecoders.map (·.name) =
        ["list_of_number_minimum_1", "list_of_boolean"] ∧
      interface.decoders.listDecoders.map (·.element.refinements) =
        [[.minimum (.float (.ofInt 1))], []] ∧
      (forall decoder, decoder ∈ interface.decoders.listDecoders ->
        decoder.Sound interface.decoders) ∧
      forall item, item ∈ interface.routes.items ->
        forall parameter, parameter ∈ item.parameters -> parameter.listValued = true ->
        Exists fun element => interface.components.resolve parameter.type = .ok (.array element) ∧
          Exists fun scalar => interface.components.resolve element = .ok (.primitive scalar) ∧
            Exists fun decoder => interface.decoders.listDecoders.filter
              (·.element.Equal scalar.withoutFormat) = [decoder] := by
  have accepted : Exists fun interface => ofTree sharesTree = .ok interface :=
    Outcome.exists_of_isOk (by decide +kernel)
  rcases accepted with ⟨interface, made⟩
  have names : interface.decoders.listDecoders.map (·.name) =
      ["list_of_number_minimum_1", "list_of_boolean"] :=
    Outcome.part_eq_of_computed made (·.decoders.listDecoders.map (·.name)) (by decide +kernel)
  have elements : interface.decoders.listDecoders.map (·.element.refinements) =
      [[.minimum (.float (.ofInt 1))], []] :=
    Outcome.part_eq_of_computed made (·.decoders.listDecoders.map (·.element.refinements))
      (by decide +kernel)
  exact ⟨interface, made, names, elements, listDecoders_sound made⟩

end Interface
end RouteIR
