import RouteIR.Proofs.TypeExpr.Lowering

namespace RouteIR

/-!
# The components of a document are settled

Components are lowered one by one under the names of all of them, so their references
name components.  After that every name is resolved once, which leaves no chain of aliases
without an end.
-/

namespace Components

/-- The type of one component under its name. -/
def componentOf (names : List String) (declared : String × Schema) :
    Except Violation (String × TypeExpr) :=
  ((TypeExpr.ofSchema names .component declared.2).mapError
    (Fault.located (location declared.1))).map (declared.1, ·)

theorem ofSchemaList_eq_mapM (names : List String) (schemas : List (String × Schema)) :
    ofSchemaList names schemas = schemas.mapM (componentOf names) := by
  induction schemas with
  | nil => rfl
  | cons declared rest ih =>
      rw [ofSchemaList, ih, List.mapM_cons, componentOf]
      cases (TypeExpr.ofSchema names .component declared.2).mapError
        (Fault.located (location declared.1)) <;> rfl

theorem checkAliases_eq_ok_iff (components : Components) (names : List String) :
    components.checkAliases names = .ok () ↔ forall name, name ∈ names ->
      Exists fun target => components.resolve (.ref name) = .ok target := by
  induction names with
  | nil => simp [checkAliases]
  | cons name rest ih =>
      rw [checkAliases, Outcome.bind_eq_ok_iff, List.forall_mem_cons]
      simp only [Outcome.discard_eq_ok_iff, Outcome.mapError_eq_ok_iff, ih]
      constructor
      · rintro ⟨_, first, others⟩
        exact ⟨first, others⟩
      · rintro ⟨first, others⟩
        exact ⟨(), first, others⟩

/-- A component that was made, with the schema that declares it. -/
structure ComponentOf (names : List String) (declared : String × Schema)
    (component : String × TypeExpr) : Prop where
  name : component.1 = declared.1
  lowered : TypeExpr.ofSchema names .component declared.2 = .ok component.2

theorem forall₂_of_ofSchemaList {names : List String} {schemas : List (String × Schema)}
    {components : Components} (made : ofSchemaList names schemas = .ok components) :
    List.Forall₂ (ComponentOf names) schemas components := by
  rw [ofSchemaList_eq_mapM, Outcome.mapM_eq_ok_iff] at made
  refine made.imp ?_
  intro declared component one
  rcases Outcome.map_eq_ok_iff.mp one with ⟨type, lowered, rfl⟩
  exact ⟨rfl, Outcome.mapError_eq_ok_iff.mp lowered⟩

/-- Components keep the names of their schemas, in the same order. -/
theorem keys_of_ofSchemaList {names : List String} {schemas : List (String × Schema)}
    {components : Components} (made : ofSchemaList names schemas = .ok components) :
    Keyed.keys components = Keyed.keys schemas :=
  (Outcome.map_eq_map_of_forall₂ (forall₂_of_ofSchemaList made) fun _ _ one => one.name.symm).symm

/-- Components that are lowered under the names of all of them are closed. -/
theorem closed_of_ofSchemaList {schemas : List (String × Schema)} {components : Components}
    (made : ofSchemaList (Keyed.keys schemas) schemas = .ok components) : components.Closed := by
  intro component member
  rcases Outcome.exists_left_of_forall₂ (forall₂_of_ofSchemaList made) member with
    ⟨declared, _, componentOf⟩
  have lowered := componentOf.lowered
  rw [← keys_of_ofSchemaList made] at lowered
  exact TypeExpr.refersTo_of_lowered lowered

/-- The components of a document are its schemas, lowered one by one, and all their names
resolve. -/
theorem ofSchemas_eq_ok_iff {schemas : List (String × Schema)} {components : Components} :
    ofSchemas schemas = .ok components ↔
      ofSchemaList (Keyed.keys schemas) schemas = .ok components ∧
        components.checkAliases (Keyed.keys schemas) = .ok () := by
  rw [ofSchemas, Outcome.bind_eq_ok_iff]
  constructor
  · rintro ⟨types, made, rest⟩
    rcases Outcome.bind_eq_ok_iff.mp rest with ⟨_, checked, same⟩
    cases same
    exact ⟨made, checked⟩
  · rintro ⟨made, checked⟩
    exact ⟨components, made, Outcome.bind_eq_ok_iff.mpr ⟨(), checked, rfl⟩⟩

theorem forall₂_of_ofSchemas {schemas : List (String × Schema)} {components : Components}
    (made : ofSchemas schemas = .ok components) :
    List.Forall₂ (ComponentOf (Keyed.keys schemas)) schemas components :=
  forall₂_of_ofSchemaList (ofSchemas_eq_ok_iff.mp made).1

theorem keys_of_ofSchemas {schemas : List (String × Schema)} {components : Components}
    (made : ofSchemas schemas = .ok components) : Keyed.keys components = Keyed.keys schemas :=
  keys_of_ofSchemaList (ofSchemas_eq_ok_iff.mp made).1

theorem settled_of_ofSchemas {schemas : List (String × Schema)} {components : Components}
    (made : ofSchemas schemas = .ok components) : components.Settled := by
  rcases ofSchemas_eq_ok_iff.mp made with ⟨listed, checked⟩
  refine ⟨closed_of_ofSchemaList listed, ?_⟩
  rw [keys_of_ofSchemaList listed]
  exact (checkAliases_eq_ok_iff components _).mp checked

end Components
end RouteIR
