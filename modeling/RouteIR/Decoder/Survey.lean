import RouteIR.Decoder.Name
import RouteIR.Route

namespace RouteIR

/-!
# Surveying types

The decoders of a set of routes are found by going through their types from left to
right, and into each component once, when a reference first names it.  What has been
found stays when the survey fails on a reference to nothing.
-/

namespace DecoderPlan

/-- The decoder of a refined primitive, and the plan that holds it. -/
def withRefined (plan : DecoderPlan) (scalar : Primitive) : RefinementDecoder × DecoderPlan :=
  match plan.refinementDecoders.find? (·.primitive.key = scalar.key) with
  | some decoder => (decoder, plan)
  | none =>
      let decoder := ⟨RefinementDecoder.nameFor scalar, scalar.withoutFormat⟩
      (decoder, ⟨plan.refinementDecoders ++ [decoder], plan.listDecoders, plan.enumDecoders⟩)

/-- The plan with the decoder of a primitive, which needs one if it is refined. -/
def withPrimitive (plan : DecoderPlan) (scalar : Primitive) : DecoderPlan :=
  if scalar.refinements.isEmpty then plan else (plan.withRefined scalar).2

/-- The plan with the decoder of a set of literals. -/
def withEnum (plan : DecoderPlan) (values : List Literal) : DecoderPlan :=
  if plan.enumDecoders.any (Literal.sameSet ·.values values) then plan
  else
    ⟨plan.refinementDecoders, plan.listDecoders,
      plan.enumDecoders ++ [⟨EnumDecoder.nameFor values, values⟩]⟩

/-- The plan with the decoder of a list of the given element, and with that of the
element where it is refined. -/
def withListOf (plan : DecoderPlan) (element : Primitive) : DecoderPlan :=
  if plan.listDecoders.any (·.element.key = element.key) then plan
  else
    let (elementDecoder, plan) :=
      if element.refinements.isEmpty then (none, plan)
      else
        let (decoder, plan) := plan.withRefined element
        (some decoder.name, plan)
    let decoder :=
      ⟨ListDecoder.nameFor elementDecoder element, element.withoutFormat, elementDecoder⟩
    ⟨plan.refinementDecoders, plan.listDecoders ++ [decoder], plan.enumDecoders⟩

/-- The plan with the list decoder of a parameter type, which has to resolve to an array
of primitives. -/
def withList (plan : DecoderPlan) (components : Components) (type : TypeExpr) :
    Except Failure DecoderPlan :=
  match components.listElement? type with
  | .error rule => .error (.ofRule "" rule)
  | .ok none => .error .notAPrimitiveList
  | .ok (some element) => .ok (plan.withListOf element)

end DecoderPlan

/-- What a survey has come to know. -/
structure Survey where
  /-- The components seen from inside so far, the latest first. -/
  visited : List String
  plan : DecoderPlan
deriving Repr

namespace Survey

def empty : Survey := ⟨[], .empty⟩

/-! ## Going through types -/

/-- The nodes of a list of types. -/
def load : List TypeExpr → Nat
  | [] => 0
  | type :: rest => type.weight + load rest

theorem load_append (left right : List TypeExpr) : load (left ++ right) = load left + load right := by
  induction left with
  | nil => simp [load]
  | cons type rest ih =>
      rw [List.cons_append, load, load, ih]
      omega

theorem load_fields (fields : List (Field TypeExpr)) :
    load (fields.map (·.type)) = TypeExpr.fieldsWeight fields := by
  induction fields with
  | nil => rfl
  | cons field rest ih => rw [List.map_cons, load, TypeExpr.fieldsWeight, ih]

/-- The nodes of the components that are not yet visited. -/
def pending (visited : List String) : Components → Nat
  | [] => 0
  | (name, type) :: rest =>
      (if visited.contains name then 0 else type.weight) + pending visited rest

/-- Visiting a component leaves no more to visit. -/
theorem pending_cons_le (name : String) (visited : List String) (components : Components) :
    pending (name :: visited) components ≤ pending visited components := by
  induction components with
  | nil => exact Nat.le_refl _
  | cons entry rest ih =>
      obtain ⟨key, type⟩ := entry
      simp only [pending, List.contains_cons]
      by_cases same : key = name
      · simp only [same, beq_self_eq_true, Bool.true_or, if_true]
        omega
      · have other : (key == name) = false := beq_false_of_ne same
        simp only [other, Bool.false_or]
        omega

/-- Visiting a component that is new takes its nodes from what is left to visit. -/
theorem pending_visit (visited : List String) (name : String) (target : TypeExpr)
    (components : Components) (fresh : ¬ visited.contains name)
    (found : components.lookup name = some target) :
    target.weight + pending (name :: visited) components ≤ pending visited components := by
  induction components with
  | nil => cases found
  | cons entry rest ih =>
      obtain ⟨key, type⟩ := entry
      by_cases same : name = key
      · subst same
        rw [List.lookup_cons_self] at found
        cases found
        have shrink := pending_cons_le name visited rest
        simp only [pending, if_neg fresh, List.contains_cons, beq_self_eq_true, Bool.true_or,
          if_true]
        omega
      · have differs : (name == key) = false := beq_false_of_ne same
        rw [List.lookup_cons, differs] at found
        have smaller := ih found
        have other : (key == name) = false := beq_false_of_ne (Ne.symm same)
        simp only [pending, List.contains_cons, other, Bool.false_or]
        omega

/-- Goes through a list of types from left to right.  Each step removes a node from the
list or trades a component not yet visited for its body. -/
def explore (components : Components) (types : List TypeExpr) (survey : Survey) :
    Survey × Option Failure :=
  match types with
  | [] => (survey, none)
  | .primitive scalar :: rest =>
      explore components rest ⟨survey.visited, survey.plan.withPrimitive scalar⟩
  | .enum values :: rest =>
      explore components rest ⟨survey.visited, survey.plan.withEnum values⟩
  | .array element :: rest => explore components (element :: rest) survey
  | .record fields :: rest => explore components (fields.map (·.type) ++ rest) survey
  | .ref name :: rest =>
      if _fresh : survey.visited.contains name then explore components rest survey
      else
        let visited := name :: survey.visited
        match _found : components.lookup name with
        | none => (⟨visited, survey.plan⟩, some (.unknownComponent name))
        | some target => explore components (target :: rest) ⟨visited, survey.plan⟩
termination_by load types + pending survey.visited components
decreasing_by
  · simp [load, TypeExpr.weight]
  · simp [load, TypeExpr.weight]
  · simp [load, TypeExpr.weight]
  · simp [load, load_append, load_fields, TypeExpr.weight]
  · simp [load, TypeExpr.weight]
  · have := pending_visit survey.visited name target components _fresh _found
    simp [load, TypeExpr.weight] at this ⊢; omega

/-! ## The plan of a set of routes -/

/-- One thing to look for: the decoders of a type's parts, or a list decoder for it. -/
inductive Demand where
  | parts (type : TypeExpr)
  | list (type : TypeExpr)
deriving Repr

/-- Meets a demand.  A list decoder that cannot be made leaves the plan as it was. -/
def meet (components : Components) (survey : Survey) :
    Demand → Survey × Option Failure
  | .parts type => explore components [type] survey
  | .list type =>
      match survey.plan.withList components type with
      | .error failure => (survey, some failure)
      | .ok plan => (⟨survey.visited, plan⟩, none)

/-- Meets demands in order, up to the first that fails. -/
def meetAll (components : Components) : Survey → List Demand → Except Failure Survey
  | survey, [] => .ok survey
  | survey, demand :: rest =>
      match meet components survey demand with
      | (_, some failure) => .error failure
      | (next, none) => meetAll components next rest

end Survey

namespace Parameter

def demands (parameter : Parameter) : List Survey.Demand :=
  .parts parameter.type :: if parameter.listValued then [.list parameter.type] else []

end Parameter

namespace RouteItem

/-- What a route needs, in the order parameters, body, responses. -/
def demands (item : RouteItem) : List Survey.Demand :=
  item.parameters.flatMap Parameter.demands ++
    (item.requestBody.toList ++ item.responses.filterMap (·.2)).map .parts

end RouteItem

namespace DecoderPlan

/-- The decoders that a set of routes needs. -/
def ofRoutes (routes : Routes) (components : Components) : Except Failure DecoderPlan :=
  (Survey.meetAll components .empty (routes.items.flatMap RouteItem.demands)).map (·.plan)

/-- A plan whose decoders all have names. -/
def named (plan : DecoderPlan) : Except Failure DecoderPlan :=
  if plan.isNameable then .ok plan else .error .illegible

/-- The plan of a set of routes.  A decoder is named when it is first met; as no name decides what
is met next, that one has none is found out at the end. -/
def forRoutes (routes : Routes) (components : Components) : Except Failure DecoderPlan := do
  (← ofRoutes routes components).named

end DecoderPlan
end RouteIR
