import RouteIR.Proofs.Decoder.Agreement
import RouteIR.Proofs.Document.ComponentOrder
import RouteIR.Proofs.Interface.ClosedWorld
import RouteIR.Proofs.TypeExpr.Locality

namespace RouteIR

/-!
# The components that an interface needs

The routes of an interface need some of its components, and no others have a part in what is
made for them.  Over any components that share the needed ones, be it these alone or a document
in which all others were changed, the operations have the same routes, each parameter is marked
as before, and the plan has the same decoders in the same order.
-/

namespace Survey

variable {components other : Components} {roots : List TypeExpr}

theorem meet_shared (shares : components.Shares roots other) {survey next : Survey}
    {demand : Demand} (serves : components.Serves roots demand.type)
    (met : meet components survey demand = (next, none)) :
    meet other survey demand = (next, none) := by
  cases demand with
  | parts type =>
      have alone : forall single, single ∈ [type] -> components.Serves roots single := by
        intro single member
        rw [List.mem_singleton.mp member]
        exact serves
      have looked (name : String) (named : components.Serves roots (.ref name)) :
          other.lookup name = components.lookup name :=
        shares name (named name (by simp [TypeExpr.names]))
      have explored := explore_congr (components.hereditary_serves roots) looked [type] survey alone
      exact explored.trans met
  | list type =>
      rw [meet, DecoderPlan.withList] at met ⊢
      cases listed : components.listElement? type with
      | error rule =>
          rw [listed] at met
          cases met
      | ok found =>
          have listedThere : other.listElement? type = .ok found :=
            Components.listElement?_shared shares serves listed
          rw [listed] at met
          rw [listedThere]
          exact met

theorem meetAll_shared (shares : components.Shares roots other) {demands : List Demand}
    {survey final : Survey}
    (serves : forall demand, demand ∈ demands -> components.Serves roots demand.type)
    (run : meetAll components survey demands = .ok final) :
    meetAll other survey demands = .ok final := by
  induction demands generalizing survey with
  | nil => exact run
  | cons demand rest ih =>
      rw [meetAll] at run
      cases outcome : meet components survey demand with
      | mk next failure =>
          rw [outcome] at run
          cases failure with
          | some failure => cases run
          | none =>
              rw [meetAll, meet_shared shares (serves demand List.mem_cons_self) outcome]
              exact ih (List.forall_mem_of_forall_mem_cons serves) run

end Survey

theorem DecoderPlan.ofRoutes_shared {components other : Components} {routes : Routes}
    {plan : DecoderPlan} (shares : components.Shares routes.types other)
    (planned : ofRoutes routes components = .ok plan) : ofRoutes routes other = .ok plan := by
  rcases Outcome.map_eq_ok_iff.mp planned with ⟨final, run, rfl⟩
  refine Outcome.map_eq_ok_iff.mpr ⟨final, Survey.meetAll_shared shares ?_ run, rfl⟩
  intro demand member
  exact Components.serves_of_root (Routes.type_mem_types_of_demand member)

/-! ## Routes -/

/-- A pass makes the same again if every value that it made is made again. -/
theorem Outcome.mapM_transfer {ε α β : Type} {run rerun : α -> Except ε β} {items : List α}
    {values : List β} (succeeded : items.mapM run = .ok values)
    (transfers : forall value, value ∈ values -> forall item, run item = .ok value ->
      rerun item = .ok value) :
    items.mapM rerun = .ok values := by
  rw [mapM_eq_ok_iff] at succeeded ⊢
  refine (forall₂_and_mem succeeded).imp ?_
  rintro item value ⟨made, _, member⟩
  exact transfers value member item made

namespace Routes

variable {components other : Components} {roots : List TypeExpr}

theorem typeOf_shared (shares : components.Shares roots other) {location : String}
    {schema : Schema} {type : TypeExpr} (serves : components.Serves roots type)
    (made : typeOf components location schema = .ok type) :
    typeOf other location schema = .ok type := by
  have refers := refersTo_of_typeOf made
  have lowered := Outcome.mapError_eq_ok_iff.mp made
  refine Outcome.mapError_eq_ok_iff.mpr (TypeExpr.ofSchema_transfer lowered ?_)
  intro name named
  rcases (Keyed.exists_lookup_iff name components).mpr (refers name named) with ⟨target, found⟩
  have foundThere := (shares name (serves name named)).trans found
  exact (Keyed.exists_lookup_iff name other).mp ⟨target, foundThere⟩

theorem optionalTypeOf_shared (shares : components.Shares roots other) {location : String}
    {schema : Option Schema} {type : Option TypeExpr}
    (serves : forall carried, type = some carried -> components.Serves roots carried)
    (made : optionalTypeOf components location schema = .ok type) :
    optionalTypeOf other location schema = .ok type := by
  cases schema with
  | none => exact made
  | some schema =>
      rcases Outcome.map_eq_ok_iff.mp made with ⟨carried, lowered, rfl⟩
      have loweredThere := typeOf_shared shares (serves carried rfl) lowered
      exact Outcome.map_eq_ok_iff.mpr ⟨carried, loweredThere, rfl⟩

theorem isListValued_shared (shares : components.Shares roots other)
    {location : ParameterLocation} {type : TypeExpr} {listValued : Bool}
    (serves : components.Serves roots type)
    (marked : isListValued components location type = .ok listValued) :
    isListValued other location type = .ok listValued := by
  cases location with
  | query =>
      rcases Outcome.map_eq_ok_iff.mp (Outcome.mapError_eq_ok_iff.mp marked) with
        ⟨found, listed, rfl⟩
      have listedThere := Components.listElement?_shared shares serves listed
      exact Outcome.mapError_eq_ok_iff.mpr (Outcome.map_eq_ok_iff.mpr ⟨found, listedThere, rfl⟩)
  | header | path => exact marked

theorem parameterOf_shared (shares : components.Shares roots other) {location : String}
    {declared : DeclaredParameter} {parameter : Parameter}
    (serves : components.Serves roots parameter.type)
    (made : parameterOf components location declared = .ok parameter) :
    parameterOf other location declared = .ok parameter := by
  rcases parameterOf_eq_ok_iff.mp made with ⟨type, listValued, lowered, marked, rfl⟩
  exact parameterOf_eq_ok_iff.mpr ⟨type, listValued, typeOf_shared shares serves lowered,
    isListValued_shared shares serves marked, rfl⟩

theorem itemOf_shared (shares : components.Shares roots other) {template : String}
    {operation : Operation} {item : RouteItem}
    (serves : forall type, type ∈ item.types -> components.Serves roots type)
    (made : itemOf components template operation = .ok item) :
    itemOf other template operation = .ok item := by
  rw [itemOf] at made ⊢
  simp only [Outcome.bind_eq_ok_iff, Outcome.pure_eq_ok_iff, parametersOf_eq_mapM,
    responsesOf_eq_mapM] at made ⊢
  rcases made with ⟨parameters, parametersMade, checked, paired, requestBody, bodyMade, responses,
    responsesMade, rfl⟩
  simp only [RouteItem.types, List.mem_append] at serves
  refine ⟨parameters, Outcome.mapM_transfer parametersMade ?_, checked, paired, requestBody, ?_,
    responses, Outcome.mapM_transfer responsesMade ?_, rfl⟩
  · intro parameter member declared one
    have carried := serves _ (.inl (.inl (List.mem_map_of_mem member)))
    exact parameterOf_shared shares carried one
  · refine optionalTypeOf_shared shares ?_ bodyMade
    intro carried same
    exact serves carried (.inl (.inr (Option.mem_toList.mpr same)))
  · intro response member declared one
    rcases Outcome.map_eq_ok_iff.mp one with ⟨type, lowered, rfl⟩
    refine Outcome.map_eq_ok_iff.mpr ⟨type, optionalTypeOf_shared shares ?_ lowered, rfl⟩
    intro carried same
    exact serves carried (.inr (List.mem_filterMap.mpr ⟨_, member, same⟩))

/-- Operations have the same routes over components that share what these need. -/
theorem ofPaths_shared {routes : Routes} (shares : components.Shares routes.types other)
    {paths : List (String × List Operation)} (made : ofPaths components paths = .ok routes) :
    ofPaths other paths = .ok routes := by
  rw [ofPaths_eq_mapM] at made ⊢
  refine Outcome.mapM_transfer made ?_
  intro entry member path one
  rcases Outcome.map_eq_ok_iff.mp one with ⟨items, itemsMade, rfl⟩
  rw [itemsOf_eq_mapM] at itemsMade
  refine Outcome.map_eq_ok_iff.mpr ⟨items, ?_, rfl⟩
  rw [itemsOf_eq_mapM]
  refine Outcome.mapM_transfer itemsMade ?_
  intro item itemMember operation itemMade
  refine itemOf_shared shares ?_ itemMade
  intro type typeMember
  have itemThere : item ∈ routes.items := List.mem_flatMap.mpr ⟨_, member, itemMember⟩
  exact Components.serves_of_root (List.mem_flatMap.mpr ⟨item, itemThere, typeMember⟩)

end Routes

namespace Interface

/-- The plan and the marks of an interface are those that its routes have over some
components. -/
structure PlannedOver (interface : Interface) (components : Components) : Prop where
  decoders : DecoderPlan.ofRoutes interface.routes components = .ok interface.decoders
  marks : forall item, item ∈ interface.routes.items ->
    forall parameter, parameter ∈ item.parameters ->
      Routes.isListValued components parameter.location parameter.type = .ok parameter.listValued

theorem plannedOver_of_shares {tree : Tree} {interface : Interface} {other : Components}
    (made : ofTree tree = .ok interface)
    (shares : interface.components.Shares interface.routes.types other) :
    interface.PlannedOver other := by
  rcases (ofTree_eq_ok_iff tree interface).mp made with
    ⟨document, _, _, aggregated, planned, _⟩
  refine ⟨DecoderPlan.ofRoutes_shared shares planned, ?_⟩
  intro item member parameter carried
  have marked := Routes.isListValued_of_parameter (ofPaths_of_routesOf aggregated) member carried
  refine Routes.isListValued_shared shares (Components.serves_of_root ?_) marked
  refine List.mem_flatMap.mpr ⟨item, member, ?_⟩
  rw [RouteItem.types]
  exact List.mem_append_left _ (List.mem_append_left _ (List.mem_map_of_mem carried))

/-- Nothing but the components that its routes need has a part in the plan and in the marks of
an interface.  They are the same over these alone, over any components that share them, and for
every document with the same paths whose components share them. -/
theorem plan_of_needed_components {tree : Tree} {interface : Interface}
    (made : ofTree tree = .ok interface) :
    (forall keep : String -> Bool,
      (forall name, keep name = true ↔
        interface.components.Needs interface.routes.types name) ->
      interface.PlannedOver (interface.components.filter (keep ·.1))) ∧
    (forall other, interface.components.Shares interface.routes.types other ->
      interface.PlannedOver other) ∧
    forall document, Document.read tree = .ok document ->
      forall changed changedDocument other, Document.read changed = .ok changedDocument ->
        componentsOf changedDocument = .ok other -> changedDocument.paths = document.paths ->
        interface.components.Shares interface.routes.types other ->
        ofTree changed = .ok { interface with components := other } := by
  refine ⟨?_, fun other => plannedOver_of_shares made, ?_⟩
  · intro keep kept
    exact plannedOver_of_shares made (Components.shares_filter fun name => (kept name).mpr)
  · intro document read changed changedDocument other changedRead typed samePaths shares
    rcases (ofTree_eq_ok_iff tree interface).mp made with
      ⟨same, sameRead, _, aggregated, _, nameable⟩
    rw [read] at sameRead
    cases sameRead
    refine (ofTree_eq_ok_iff changed _).mpr ⟨changedDocument, changedRead, typed, ?_,
      (plannedOver_of_shares made shares).decoders, nameable⟩
    refine Outcome.mapError_eq_ok_iff.mpr ?_
    rw [samePaths]
    exact Routes.ofPaths_shared shares (ofPaths_of_routesOf aggregated)

/-- A document with one operation, which needs the component of a tag and no other. -/
def tagTree (spare : Tree) : Tree :=
  let reference : Tree := .object [("$ref", .str "#/components/schemas/Tag")]
  .object [
    ("components", .object [("schemas", .object [
      ("Tag", .object [("type", .str "string"), ("maxLength", .int 8)]), ("Spare", spare)])]),
    ("paths", .object [("/tags", .object [("get", .object [
      ("parameters", .list [.object [("name", .str "tag"), ("in", .str "query"),
        ("schema", .object [("type", .str "array"), ("items", reference)])]] none),
      ("responses", .object [("200", .object [("schema", reference)])])])])])]

/-- A record with a list of records of its own kind. -/
def cyclicSpare : Tree :=
  .object [("type", .str "object"), ("properties", .object [("next", .object [
    ("type", .str "array"), ("items", .object [("$ref", .str "#/components/schemas/Spare")])])])]

/-- The routes of the document need its tag and not what is spare. -/
theorem needs_tag_iff {interface : Interface} (made : ofTree (tagTree cyclicSpare) = .ok interface)
    (name : String) :
    (name == "Tag") = true ↔ interface.components.Needs interface.routes.types name := by
  have rooted : interface.routes.types.map (·.referenced) = [["Tag"], ["Tag"]] :=
    Outcome.part_eq_of_computed made (·.routes.types.map (·.referenced)) (by decide +kernel)
  have table : interface.components.map (fun entry => (entry.1, entry.2.referenced)) =
      [("Tag", []), ("Spare", ["Spare"])] :=
    Outcome.part_eq_of_computed made
      (·.components.map fun entry => (entry.1, entry.2.referenced)) (by decide +kernel)
  constructor
  · intro same
    have first : ["Tag"] ∈ interface.routes.types.map (·.referenced) := by simp [rooted]
    rcases List.mem_map.mp first with ⟨type, member, referenced⟩
    exact .root member (by rw [referenced, beq_iff_eq.mp same]; exact List.mem_singleton_self _)
  · intro needed
    have member : name ∈ ["Tag"] := by
      refine needed.mem ?_ ?_
      · intro type member
        have listed := List.mem_map_of_mem (f := (·.referenced)) member
        rw [rooted] at listed
        simp only [List.mem_cons, List.not_mem_nil, or_false, or_self] at listed
        rw [listed]
        exact List.Subset.refl _
      · intro entry member isTag
        have listed := List.mem_map_of_mem (f := fun entry => (entry.1, entry.2.referenced)) member
        rw [table] at listed
        simp only [List.mem_cons, List.not_mem_nil, or_false, Prod.mk.injEq] at listed
        rcases listed with ⟨_, referenced⟩ | ⟨isSpare, _⟩
        · rw [referenced]
          exact List.nil_subset _
        · rw [isSpare] at isTag
          exact absurd isTag (by decide)
    exact beq_iff_eq.mpr (List.mem_singleton.mp member)

theorem plan_of_tag_component :
    Exists fun interface => Exists fun other =>
      ofTree (tagTree cyclicSpare) = .ok interface ∧
      interface.PlannedOver (interface.components.filter (·.1 == "Tag")) ∧
      interface.components.Shares interface.routes.types other ∧ interface.PlannedOver other ∧
      ofTree (tagTree (.object [("type", .str "boolean")])) =
        .ok { interface with components := other } := by
  have accepted : Exists fun interface => ofTree (tagTree cyclicSpare) = .ok interface :=
    Outcome.exists_of_isOk (by decide +kernel)
  have changed : Exists fun interface =>
      ofTree (tagTree (.object [("type", .str "boolean")])) = .ok interface :=
    Outcome.exists_of_isOk (by decide +kernel)
  rcases accepted with ⟨interface, made⟩
  rcases changed with ⟨altered, alteredMade⟩
  rcases plan_of_needed_components made with ⟨restricted, shared, lasting⟩
  have shares : interface.components.Shares interface.routes.types altered.components := by
    intro name needed
    rw [beq_iff_eq.mp ((needs_tag_iff made name).mpr needed)]
    have here : (interface.components.lookup "Tag").map TypeExpr.primitive? =
        some (some ⟨.string, none, [.maxLength 8]⟩) :=
      Outcome.part_eq_of_computed made (fun interface =>
        (interface.components.lookup "Tag").map TypeExpr.primitive?) (by decide +kernel)
    have there : (altered.components.lookup "Tag").map TypeExpr.primitive? =
        some (some ⟨.string, none, [.maxLength 8]⟩) :=
      Outcome.part_eq_of_computed alteredMade (fun interface =>
        (interface.components.lookup "Tag").map TypeExpr.primitive?) (by decide +kernel)
    rcases Option.map_eq_some_iff.mp here with ⟨type, found, isPrimitive⟩
    rcases Option.map_eq_some_iff.mp there with ⟨type', found', isPrimitive'⟩
    rw [found, found', TypeExpr.primitive?_eq_some isPrimitive,
      TypeExpr.primitive?_eq_some isPrimitive']
  rcases (ofTree_eq_ok_iff _ _).mp made with ⟨document, read, _, _, _⟩
  rcases (ofTree_eq_ok_iff _ _).mp alteredMade with ⟨changedDocument, changedRead, typed, _, _⟩
  have samePaths : changedDocument.paths = document.paths := by
    rcases (Document.read_eq_ok_iff _ _).mp read with ⟨_, _, same, _, _, pathsRead⟩
    rcases (Document.read_eq_ok_iff _ _).mp changedRead with ⟨_, _, changedSame, _, _, changedPaths⟩
    cases same
    cases changedSame
    have samePaths := (Document.readPaths_congr rfl).trans pathsRead
    exact Except.ok.inj (changedPaths.symm.trans samePaths)
  exact ⟨interface, altered.components, made, restricted _ (needs_tag_iff made), shares,
    shared _ shares, lasting document read _ changedDocument _ changedRead typed samePaths shares⟩

end Interface
end RouteIR
