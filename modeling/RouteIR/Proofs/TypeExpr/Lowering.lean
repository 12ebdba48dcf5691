import RouteIR.Proofs.TypeExpr.Reachability

namespace RouteIR

/-!
# Types that lowering makes

Lowering goes along a schema, so what it makes is described by one case for each shape.
The induction principle of this module states these cases once, with what each check has
found; every property of lowered types is proved through it.  The first such property is
that a lowered type refers to the given components only, which makes the components of a
document closed.
-/

namespace TypeExpr

/-- A field of a record comes from a property of the object, under the same name. -/
structure FieldOf (components required : List String)
    (motive : Position -> Schema -> TypeExpr -> Prop) (property : String × Schema)
    (field : Field TypeExpr) : Prop where
  name : field.name = property.1
  required : field.required = required.contains property.1
  lowered : ofSchema components .nested property.2 = .ok field.type
  holds : motive .nested property.2 field.type

/-- What a property of lowered schemas has to satisfy, one case for each shape. -/
structure LoweringCases (components : List String)
    (motive : Position -> Schema -> TypeExpr -> Prop) : Prop where
  record : forall properties required fields,
    List.Forall₂ (FieldOf components required motive) properties fields ->
    motive .component (.object properties required) (.record fields)
  array : forall position element type,
    motive position.ofItems element type -> motive position (.array element) (.array type)
  primitive : forall position kind format constraints scalar,
    Primitive.ofConstraints kind format constraints = .ok scalar ->
    motive position (.primitive kind format constraints) (.primitive scalar)
  enum : forall position values, values ≠ [] -> motive position (.enum values) (.enum values)
  ref : forall position name, name ∈ components -> motive position (.ref name) (.ref name)

namespace LoweringCases

variable {components : List String} {motive : Position -> Schema -> TypeExpr -> Prop}

mutual

/-- Induction along a schema that was lowered. -/
theorem of_lowered (cases : LoweringCases components motive) (position : Position)
    (schema : Schema) (type : TypeExpr)
    (lowered : ofSchema components position schema = .ok type) : motive position schema type := by
  match schema with
  | .object properties required =>
      cases position with
      | component =>
          rcases Outcome.map_eq_ok_iff.mp lowered with ⟨fields, fieldsLowered, rfl⟩
          exact cases.record properties required fields
            (cases.fields_of_lowered required properties fields fieldsLowered)
      | nested => cases lowered
      | route => cases lowered
  | .array element =>
      rw [ofSchema] at lowered
      rcases Outcome.map_eq_ok_iff.mp lowered with ⟨inner, innerLowered, rfl⟩
      have innerLowered := Outcome.mapError_eq_ok_iff.mp innerLowered
      exact cases.array position element inner
        (cases.of_lowered position.ofItems element inner innerLowered)
  | .primitive kind format constraints =>
      rw [ofSchema] at lowered
      rcases Outcome.map_eq_ok_iff.mp lowered with ⟨scalar, built, rfl⟩
      have built := Outcome.mapError_eq_ok_iff.mp built
      exact cases.primitive position kind format constraints scalar built
  | .enum values =>
      rw [ofSchema] at lowered
      split at lowered
      · cases lowered
      · next filled =>
          cases lowered
          exact cases.enum position values (by simpa using filled)
  | .ref name =>
      rw [ofSchema] at lowered
      split at lowered
      · next known =>
          cases lowered
          exact cases.ref position name (by simpa using known)
      · cases lowered

/-- The fields of an object that was lowered, in the order of its properties. -/
theorem fields_of_lowered (cases : LoweringCases components motive) (required : List String)
    (properties : List (String × Schema)) (fields : List (Field TypeExpr))
    (lowered : ofFields components required properties = .ok fields) :
    List.Forall₂ (FieldOf components required motive) properties fields := by
  match properties with
  | [] =>
      cases lowered
      exact .nil
  | (name, schema) :: rest =>
      rw [ofFields] at lowered
      rcases Outcome.bind_eq_ok_iff.mp lowered with ⟨type, typeLowered, lowered⟩
      rcases Outcome.bind_eq_ok_iff.mp lowered with ⟨others, othersLowered, lowered⟩
      cases lowered
      have typeLowered := Outcome.mapError_eq_ok_iff.mp typeLowered
      refine .cons ⟨rfl, rfl, typeLowered, ?_⟩
        (cases.fields_of_lowered required rest others othersLowered)
      exact cases.of_lowered .nested schema type typeLowered

end

end LoweringCases

theorem names_of_lowered (components : List String) :
    LoweringCases components fun _ _ type =>
      forall name, name ∈ type.names -> name ∈ components where
  record properties required fields fieldsOf := by
    intro name named
    rw [names] at named
    rcases (mem_fieldNames_iff name fields).mp named with ⟨field, member, named⟩
    rcases Outcome.exists_left_of_forall₂ fieldsOf member with ⟨property, _, fieldOf⟩
    exact fieldOf.holds name named
  array position element type ih := by
    intro name named
    exact ih name (by simpa only [names] using named)
  primitive position kind format constraints scalar _ := by
    intro name named
    rw [names] at named
    cases named
  enum position values _ := by
    intro name named
    rw [names] at named
    cases named
  ref position name known := by
    intro other named
    rw [names] at named
    rw [List.mem_singleton.mp named]
    exact known

/-- A lowered type refers to the components it was lowered with. -/
theorem refersTo_of_lowered {components : Components} {position : Position} {schema : Schema}
    {type : TypeExpr}
    (lowered : ofSchema (Keyed.keys components) position schema = .ok type) :
    type.RefersTo components :=
  (names_of_lowered (Keyed.keys components)).of_lowered position schema type lowered

end TypeExpr
end RouteIR
