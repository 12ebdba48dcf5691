import RouteIR.Proofs.Decoder.Exactness
import RouteIR.Proofs.Interface.Stages

namespace RouteIR

/-!
# Formats do not reach the plan

A decoder is made for a kind and its refinements.  The format of a primitive is carried through
components and routes for the renderer, but a survey of types without formats does what the
survey of the types does, step by step, and it ends with the same plan or the same failure.  So
types that differ in their formats only, wherever these stand, have one plan.
-/

namespace TypeExpr

mutual

/-- A type with no format at any depth. -/
def withoutFormats : TypeExpr -> TypeExpr
  | primitive scalar => primitive scalar.withoutFormat
  | array element => array element.withoutFormats
  | enum values => enum values
  | ref name => ref name
  | record fields => record (fieldsWithoutFormats fields)

def fieldsWithoutFormats : List (Field TypeExpr) -> List (Field TypeExpr)
  | [] => []
  | ⟨name, type, required⟩ :: rest =>
      ⟨name, type.withoutFormats, required⟩ :: fieldsWithoutFormats rest

end

theorem types_fieldsWithoutFormats (fields : List (Field TypeExpr)) :
    (fieldsWithoutFormats fields).map (·.type) = (fields.map (·.type)).map withoutFormats := by
  induction fields with
  | nil => rfl
  | cons field rest ih => rw [fieldsWithoutFormats, List.map_cons, List.map_cons, List.map_cons, ih]

end TypeExpr

/-! ## Components -/

namespace Components

/-- The same components with no format in their types. -/
def withoutFormats (components : Components) : Components :=
  components.map fun component => (component.1, component.2.withoutFormats)

theorem lookup_withoutFormats (components : Components) (name : String) :
    components.withoutFormats.lookup name =
      (components.lookup name).map TypeExpr.withoutFormats := by
  induction components with
  | nil => rfl
  | cons component rest ih =>
      rw [withoutFormats, List.map_cons, List.lookup_cons, List.lookup_cons]
      by_cases same : name = component.1
      · simp [same]
      · rw [beq_false_of_ne same]
        exact ih

theorem follow_withoutFormats (components : Components) (links : Nat) (type : TypeExpr) :
    components.withoutFormats.follow links type.withoutFormats =
      (components.follow links type).map TypeExpr.withoutFormats := by
  induction links generalizing type with
  | zero => cases type <;> rfl
  | succ links ih =>
      cases type with
      | ref name =>
          rw [TypeExpr.withoutFormats, follow, follow, lookup_withoutFormats]
          cases components.lookup name with
          | none => rfl
          | some target => exact ih target
      | primitive _ | array _ | enum _ | record _ => rfl

theorem resolve_withoutFormats (components : Components) (type : TypeExpr) :
    components.withoutFormats.resolve type.withoutFormats =
      (components.resolve type).map TypeExpr.withoutFormats := by
  rw [resolve, resolve, follow_withoutFormats, withoutFormats, List.length_map]

/-- Without formats a type is a list of the same primitives, but for their formats. -/
theorem listElement?_withoutFormats (components : Components) (type : TypeExpr) :
    components.withoutFormats.listElement? type.withoutFormats =
      (components.listElement? type).map (·.map Primitive.withoutFormat) := by
  rw [listElement?, listElement?, resolve_withoutFormats]
  cases components.resolve type with
  | error rule => rfl
  | ok target =>
      cases target with
      | array element =>
          simp only [Except.map, TypeExpr.withoutFormats, bind, Except.bind]
          rw [resolve_withoutFormats]
          cases components.resolve element with
          | error rule => rfl
          | ok inner => cases inner <;> rfl
      | primitive _ | enum _ | ref _ | record _ => rfl

end Components

/-! ## Surveys -/

namespace Survey

/-- A survey of types without formats finds what the survey of the types finds. -/
theorem explore_withoutFormats (components : Components) (types : List TypeExpr)
    (survey : Survey) :
    explore components.withoutFormats (types.map TypeExpr.withoutFormats) survey =
      explore components types survey := by
  apply explore_induction components (motive := fun types survey outcome =>
    explore components.withoutFormats (types.map TypeExpr.withoutFormats) survey = outcome)
  case nil => exact fun survey => by rw [List.map_nil, explore]
  case primitive =>
    intro scalar rest survey outcome ih
    rw [List.map_cons, TypeExpr.withoutFormats, explore]
    exact ih
  case enum =>
    intro values rest survey outcome ih
    rw [List.map_cons, TypeExpr.withoutFormats, explore]
    exact ih
  case array =>
    intro element rest survey outcome ih
    rw [List.map_cons, TypeExpr.withoutFormats, explore]
    exact ih
  case record =>
    intro fields rest survey outcome ih
    rw [List.map_cons, TypeExpr.withoutFormats, explore, TypeExpr.types_fieldsWithoutFormats,
      ← List.map_append]
    exact ih
  case visited =>
    intro name rest survey outcome known ih
    rw [List.map_cons, TypeExpr.withoutFormats, explore_visited known]
    exact ih
  case missing =>
    intro name rest survey fresh absent
    have gone : components.withoutFormats.lookup name = none := by
      rw [Components.lookup_withoutFormats, absent, Option.map_none]
    rw [List.map_cons, TypeExpr.withoutFormats, explore_missing fresh gone]
  case opened =>
    intro name target rest survey outcome fresh found ih
    have opened : components.withoutFormats.lookup name = some target.withoutFormats := by
      rw [Components.lookup_withoutFormats, found, Option.map_some]
    rw [List.map_cons, TypeExpr.withoutFormats, explore_opened fresh opened]
    exact ih

/-- A demand for a type without formats. -/
def Demand.withoutFormats : Demand -> Demand
  | parts type => parts type.withoutFormats
  | list type => list type.withoutFormats

theorem meet_withoutFormats (components : Components) (survey : Survey) (demand : Demand) :
    meet components.withoutFormats survey demand.withoutFormats =
      meet components survey demand := by
  cases demand with
  | parts type => exact explore_withoutFormats components [type] survey
  | list type =>
      simp only [Demand.withoutFormats, meet, DecoderPlan.withList,
        Components.listElement?_withoutFormats]
      cases components.listElement? type with
      | error rule => rfl
      | ok found => cases found <;> rfl

theorem meetAll_withoutFormats (components : Components) (survey : Survey)
    (demands : List Demand) :
    meetAll components.withoutFormats survey (demands.map Demand.withoutFormats) =
      meetAll components survey demands := by
  induction demands generalizing survey with
  | nil => rfl
  | cons demand rest ih =>
      rw [List.map_cons, meetAll, meetAll, meet_withoutFormats]
      split
      · rfl
      · exact ih _

end Survey

/-! ## Routes -/

def Parameter.withoutFormats (parameter : Parameter) : Parameter :=
  { parameter with type := parameter.type.withoutFormats }

def RouteItem.withoutFormats (item : RouteItem) : RouteItem :=
  { item with
    parameters := item.parameters.map Parameter.withoutFormats
    requestBody := item.requestBody.map TypeExpr.withoutFormats
    responses := item.responses.map fun response =>
      (response.1, response.2.map TypeExpr.withoutFormats) }

/-- The same routes with no format in their types. -/
def Routes.withoutFormats (routes : Routes) : Routes :=
  routes.map fun entry =>
    (entry.1, ⟨entry.2.template, entry.2.items.map RouteItem.withoutFormats⟩)

theorem Parameter.demands_withoutFormats (parameter : Parameter) :
    parameter.withoutFormats.demands =
      parameter.demands.map Survey.Demand.withoutFormats := by
  rw [demands, demands, withoutFormats]
  split <;> rfl

theorem RouteItem.demands_withoutFormats (item : RouteItem) :
    item.withoutFormats.demands = item.demands.map Survey.Demand.withoutFormats := by
  have parameters : item.withoutFormats.parameters.flatMap Parameter.demands =
      (item.parameters.flatMap Parameter.demands).map Survey.Demand.withoutFormats := by
    simp only [withoutFormats, List.flatMap_map, List.map_flatMap,
      Parameter.demands_withoutFormats]
  have others : item.withoutFormats.requestBody.toList ++
      item.withoutFormats.responses.filterMap (·.2) =
      (item.requestBody.toList ++ item.responses.filterMap (·.2)).map TypeExpr.withoutFormats := by
    simp only [withoutFormats, Option.toList_map, List.map_append, List.filterMap_map,
      List.map_filterMap, Function.comp_def]
  have parts : Survey.Demand.parts ∘ TypeExpr.withoutFormats =
      Survey.Demand.withoutFormats ∘ Survey.Demand.parts := rfl
  rw [demands, demands, parameters, others, List.map_map, parts, ← List.map_map, ← List.map_append]

theorem Routes.demands_withoutFormats (routes : Routes) :
    routes.withoutFormats.demands = routes.demands.map Survey.Demand.withoutFormats := by
  simp only [demands, items, withoutFormats, List.flatMap_map, List.map_flatMap,
    List.flatMap_assoc, RouteItem.demands_withoutFormats]

namespace DecoderPlan

/-- Routes and components without formats have the plan of the routes. -/
theorem ofRoutes_withoutFormats (routes : Routes) (components : Components) :
    ofRoutes routes.withoutFormats components.withoutFormats = ofRoutes routes components := by
  have demanded : Survey.meetAll components.withoutFormats .empty routes.withoutFormats.demands =
      Survey.meetAll components .empty routes.demands := by
    rw [routes.demands_withoutFormats, Survey.meetAll_withoutFormats]
  exact congrArg (·.map Survey.plan) demanded

/-- Components and routes that differ from those of an interface in formats only have the plan
of the interface. -/
theorem plan_of_changed_formats {tree : Tree} {interface : Interface}
    (made : Interface.ofTree tree = .ok interface) {components : Components} {routes : Routes}
    (sameComponents : components.withoutFormats = interface.components.withoutFormats)
    (sameRoutes : routes.withoutFormats = interface.routes.withoutFormats) :
    ofRoutes routes components = .ok interface.decoders := by
  rcases (Interface.ofTree_eq_ok_iff tree interface).mp made with ⟨_, _, _, _, planned, _⟩
  rw [← ofRoutes_withoutFormats, sameComponents, sameRoutes, ofRoutes_withoutFormats, planned]

/-- A search by tags that answers with days. -/
def searchTree : Tree :=
  let object (entries : List (String × Tree)) : Tree :=
    .map (entries.map fun entry => (.str entry.1, entry.2)) none
  let text (format : String) : Tree :=
    object [("type", .str "string"), ("format", .str format), ("maxLength", .int 8)]
  object [
    ("components", object [("schemas", object [("Tag", text "slug")])]),
    ("paths", object [("/days", object [("get", object [
      ("parameters", .list [object [("name", .str "tag"), ("in", .str "query"),
        ("schema", object [("type", .str "array"),
          ("items", object [("$ref", .str "#/components/schemas/Tag")])])]] none),
      ("responses", object [("200", object [("schema", text "date")])])])])])]

def searchDocument : Document :=
  let text (format : String) : Schema := .primitive .string (some format) [("maxLength", .int 8)]
  ⟨[("Tag", text "slug")],
    [("/days", [⟨.get, none, [⟨"tag", .query, false, .array (.ref "Tag")⟩], none,
      [("200", some (text "date"))]⟩])]⟩

/-- The components of the search, with a certain format. -/
def searchComponents (format : Option String) : Components :=
  [("Tag", .primitive ⟨.string, format, [.maxLength 8]⟩)]

/-- The routes of the search, with a certain format. -/
def searchRoutes (format : Option String) : Routes :=
  [("/days", ⟨"/days", [⟨.get, "/days", [], none,
    [⟨"tag", .query, false, .array (.ref "Tag"), true⟩], none,
    [("200", some (.primitive ⟨.string, format, [.maxLength 8]⟩))]⟩]⟩)]

def searchPlan : DecoderPlan :=
  let name := "string_max_length_8"
  let scalar : Primitive := ⟨.string, none, [.maxLength 8]⟩
  ⟨[⟨name, scalar⟩], [⟨"list_of_" ++ name, scalar, some name⟩], []⟩

theorem plan_of_changed_formats_of_search :
    Interface.ofTree searchTree =
      .ok ⟨searchComponents (some "slug"), searchRoutes (some "date"), searchPlan⟩ ∧
    ofRoutes (searchRoutes none) (searchComponents (some "uuid")) = .ok searchPlan := by
  have planned : ofRoutes (searchRoutes (some "date")) (searchComponents (some "slug")) =
      .ok searchPlan := by
    have accepted : Exists fun plan =>
        ofRoutes (searchRoutes (some "date")) (searchComponents (some "slug")) = .ok plan :=
      Outcome.exists_of_isOk (by decide +kernel)
    rcases accepted with ⟨plan, made⟩
    have same : plan = searchPlan := Outcome.part_eq_of_computed made id (by decide +kernel)
    rw [made, same]
  have read : Document.read searchTree = .ok searchDocument := by with_unfolding_all rfl
  have made := (Interface.ofTree_eq_ok_iff searchTree
    ⟨searchComponents (some "slug"), searchRoutes (some "date"), searchPlan⟩).mpr
    ⟨searchDocument, read, rfl, rfl, planned, by decide +kernel⟩
  exact ⟨made, plan_of_changed_formats made rfl rfl⟩

end DecoderPlan
end RouteIR
