import RouteIR.Proofs.Keyed
import RouteIR.Proofs.Outcome
import RouteIR.TypeExpr.Resolution

namespace RouteIR

/-!
# What types lead to

A type leads to its parts, and a reference leads to the component that it names.  The
types that some roots lead to are the least set with these steps; component cycles are
allowed, so the set is not found by unfolding.

Components are closed when every reference in them names a component, and settled when
moreover every chain of aliases ends.  Over settled components a type that refers to
components only resolves, and what it resolves to is no reference.
-/

namespace TypeExpr

theorem mem_fieldNames_iff (name : String) (fields : List (Field TypeExpr)) :
    name ∈ fieldNames fields ↔
      Exists fun field => field ∈ fields ∧ name ∈ field.type.names := by
  induction fields with
  | nil => simp [fieldNames]
  | cons field rest ih => simp [fieldNames, ih]

/-- A type refers to components only. -/
def RefersTo (type : TypeExpr) (components : Components) : Prop :=
  forall name, name ∈ type.names -> name ∈ Keyed.keys components

theorem RefersTo.element {element : TypeExpr} {components : Components}
    (refers : (array element).RefersTo components) : element.RefersTo components := by
  intro name member
  exact refers name (by simpa only [names] using member)

theorem RefersTo.field {fields : List (Field TypeExpr)} {components : Components}
    (refers : (record fields).RefersTo components) {field : Field TypeExpr}
    (member : field ∈ fields) : field.type.RefersTo components := by
  intro name named
  apply refers name
  rw [names]
  exact (mem_fieldNames_iff name fields).mpr ⟨field, member, named⟩

theorem RefersTo.ref {name : String} {components : Components}
    (refers : (ref name).RefersTo components) : name ∈ Keyed.keys components :=
  refers name (by simp [names])

end TypeExpr

namespace Components

/-- Every reference inside a component names a component. -/
def Closed (components : Components) : Prop :=
  forall entry, entry ∈ components -> entry.2.RefersTo components

theorem Closed.target {components : Components} (closed : components.Closed) {name : String}
    {target : TypeExpr} (found : components.lookup name = some target) :
    target.RefersTo components :=
  closed (name, target) (Keyed.mem_of_lookup found)

/-- The least set of types that holds the roots and is closed under the elements of
arrays, the fields of records, and the look-up of references. -/
inductive Reaches (components : Components) (roots : List TypeExpr) : TypeExpr -> Prop
  | root {type : TypeExpr} (member : type ∈ roots) : Reaches components roots type
  | element {element : TypeExpr} (array : Reaches components roots (.array element)) :
      Reaches components roots element
  | field {fields : List (Field TypeExpr)} {field : Field TypeExpr}
      (record : Reaches components roots (.record fields)) (member : field ∈ fields) :
      Reaches components roots field.type
  | target {name : String} {target : TypeExpr} (reference : Reaches components roots (.ref name))
      (found : components.lookup name = some target) : Reaches components roots target

/-- A property that a type passes on to its parts, and a reference to its component. -/
structure Hereditary (components : Components) (property : TypeExpr -> Prop) : Prop where
  element : forall element, property (.array element) -> property element
  field : forall fields field, property (.record fields) -> field ∈ fields -> property field.type
  target : forall name target, property (.ref name) -> components.lookup name = some target ->
    property target

theorem hereditary_reaches (components : Components) (roots : List TypeExpr) :
    components.Hereditary (components.Reaches roots) :=
  ⟨fun _ => .element, fun _ _ => .field, fun _ _ => .target⟩

theorem Closed.hereditary {components : Components} (closed : components.Closed) :
    components.Hereditary (·.RefersTo components) :=
  ⟨fun _ refers => refers.element, fun _ _ refers member => refers.field member,
    fun _ _ _ found => closed.target found⟩

/-- What is reached is in every hereditary set that holds the roots. -/
theorem Reaches.of_hereditary {components : Components} {property : TypeExpr -> Prop}
    (hereditary : components.Hereditary property) {roots : List TypeExpr}
    (start : forall root, root ∈ roots -> property root) {type : TypeExpr}
    (reached : Reaches components roots type) : property type := by
  induction reached with
  | root member => exact start _ member
  | element _ ih => exact hereditary.element _ ih
  | field _ member ih => exact hereditary.field _ _ ih member
  | target _ found ih => exact hereditary.target _ _ ih found

/-- What is reached from types that are reached themselves is reached. -/
theorem Reaches.trans {components : Components} {roots others : List TypeExpr}
    (within : forall root, root ∈ roots -> components.Reaches others root) {type : TypeExpr}
    (reached : components.Reaches roots type) : components.Reaches others type :=
  reached.of_hereditary (components.hereditary_reaches others) within

theorem Reaches.mono {components : Components} {roots others : List TypeExpr}
    (within : forall root, root ∈ roots -> root ∈ others) {type : TypeExpr}
    (reached : components.Reaches roots type) : components.Reaches others type :=
  reached.trans fun root member => .root (within root member)

section Fronts

variable {components : Components} {rest : List TypeExpr} {type : TypeExpr}

/-! What the first type of a list leads to is what its parts lead to, or its component. -/

theorem Reaches.of_rest {first : TypeExpr} (reached : components.Reaches rest type) :
    components.Reaches (first :: rest) type :=
  reached.mono fun _ => List.mem_cons_of_mem first

theorem Reaches.of_element {element : TypeExpr} (reached : components.Reaches [element] type) :
    components.Reaches (.array element :: rest) type := by
  refine reached.trans fun root member => ?_
  rw [List.mem_singleton.mp member]
  exact .element (.root List.mem_cons_self)

theorem Reaches.of_fields {fields : List (Field TypeExpr)}
    (reached : components.Reaches (fields.map (·.type)) type) :
    components.Reaches (.record fields :: rest) type := by
  refine reached.trans fun root member => ?_
  rcases List.mem_map.mp member with ⟨field, fieldMember, rfl⟩
  exact .field (.root List.mem_cons_self) fieldMember

theorem Reaches.of_target {name : String} {target : TypeExpr}
    (found : components.lookup name = some target) (reached : components.Reaches [target] type) :
    components.Reaches (.ref name :: rest) type := by
  refine reached.trans fun root member => ?_
  rw [List.mem_singleton.mp member]
  exact .target (.root List.mem_cons_self) found

end Fronts

namespace Hereditary

variable {components : Components} {property : TypeExpr -> Prop}

/-! A hereditary property of a list of types stays when its first type is opened. -/

theorem opened_array (hereditary : components.Hereditary property) {element : TypeExpr}
    {rest : List TypeExpr}
    (holds : forall type, type ∈ TypeExpr.array element :: rest -> property type) :
    forall type, type ∈ element :: rest -> property type := by
  intro type member
  rcases List.mem_cons.mp member with rfl | later
  · exact hereditary.element _ (holds _ List.mem_cons_self)
  · exact holds type (List.mem_cons_of_mem _ later)

theorem opened_record (hereditary : components.Hereditary property)
    {fields : List (Field TypeExpr)} {rest : List TypeExpr}
    (holds : forall type, type ∈ TypeExpr.record fields :: rest -> property type) :
    forall type, type ∈ fields.map (·.type) ++ rest -> property type := by
  intro type member
  rcases List.mem_append.mp member with part | later
  · rcases List.mem_map.mp part with ⟨field, fieldMember, rfl⟩
    exact hereditary.field _ _ (holds _ List.mem_cons_self) fieldMember
  · exact holds type (List.mem_cons_of_mem _ later)

theorem opened_ref (hereditary : components.Hereditary property) {name : String}
    {target : TypeExpr} (found : components.lookup name = some target) {rest : List TypeExpr}
    (holds : forall type, type ∈ TypeExpr.ref name :: rest -> property type) :
    forall type, type ∈ target :: rest -> property type := by
  intro type member
  rcases List.mem_cons.mp member with rfl | later
  · exact hereditary.target _ _ (holds _ List.mem_cons_self) found
  · exact holds type (List.mem_cons_of_mem _ later)

end Hereditary

/-! ## Aliases -/

theorem Reaches.follow {components : Components} {roots : List TypeExpr} {links : Nat}
    {type target : TypeExpr} (reached : Reaches components roots type)
    (followed : components.follow links type = .ok target) :
    Reaches components roots target := by
  fun_induction Components.follow components links type with
  | case1 => cases followed
  | case2 => cases followed
  | case3 links name next found ih => exact ih (reached.target found) followed
  | case4 => cases followed; exact reached

/-- What a type resolves to is among what it leads to. -/
theorem Reaches.resolve {components : Components} {roots : List TypeExpr}
    {type target : TypeExpr} (reached : Reaches components roots type)
    (resolved : components.resolve type = .ok target) : Reaches components roots target :=
  reached.follow resolved

theorem follow_ne_ref {components : Components} {links : Nat} {type target : TypeExpr}
    (followed : components.follow links type = .ok target) (name : String) :
    target ≠ .ref name := by
  fun_induction Components.follow components links type with
  | case1 => cases followed
  | case2 => cases followed
  | case3 links next target found ih => exact ih followed
  | case4 links type notZero notSucc =>
      cases followed
      intro same
      cases links with
      | zero => exact notZero name rfl same
      | succ links => exact notSucc links name rfl same

/-- What a type resolves to is no reference. -/
theorem resolve_ne_ref {components : Components} {type target : TypeExpr}
    (resolved : components.resolve type = .ok target) (name : String) : target ≠ .ref name :=
  follow_ne_ref resolved name

theorem listElement?_eq_some_iff (components : Components) (type : TypeExpr) (scalar : Primitive) :
    components.listElement? type = .ok (some scalar) ↔
      Exists fun element => components.resolve type = .ok (.array element) ∧
        components.resolve element = .ok (.primitive scalar) := by
  rw [listElement?, Outcome.bind_eq_ok_iff]
  constructor
  · rintro ⟨target, resolved, found⟩
    cases target with
    | array element =>
        rcases Outcome.bind_eq_ok_iff.mp found with ⟨inner, innerResolved, innerFound⟩
        cases inner with
        | primitive inner =>
            cases innerFound
            exact ⟨element, resolved, innerResolved⟩
        | array _ | enum _ | ref _ | record _ => cases innerFound
    | primitive _ | enum _ | ref _ | record _ => cases found
  · rintro ⟨element, resolved, innerResolved⟩
    refine ⟨_, resolved, ?_⟩
    exact Outcome.bind_eq_ok_iff.mpr ⟨_, innerResolved, rfl⟩

/-- The element of a list of primitives is among what the type of the list leads to. -/
theorem Reaches.listElement {components : Components} {roots : List TypeExpr} {type : TypeExpr}
    {scalar : Primitive} (reached : Reaches components roots type)
    (found : components.listElement? type = .ok (some scalar)) :
    Reaches components roots (.primitive scalar) := by
  rcases (listElement?_eq_some_iff components type scalar).mp found with
    ⟨element, resolved, elementResolved⟩
  exact (reached.resolve resolved).element.resolve elementResolved

/-- Closed components all of whose aliases end. -/
structure Settled (components : Components) : Prop where
  closed : components.Closed
  resolves : forall name, name ∈ Keyed.keys components ->
    Exists fun target => components.resolve (.ref name) = .ok target

namespace Settled

variable {components : Components}

/-- Over settled components resolving succeeds for every type that refers to components
only. -/
theorem exists_resolve (settled : components.Settled) {type : TypeExpr}
    (refers : type.RefersTo components) :
    Exists fun target => components.resolve type = .ok target := by
  cases type with
  | ref name => exact settled.resolves name refers.ref
  | primitive _ | array _ | enum _ | record _ => exact ⟨_, rfl⟩

theorem refersTo_resolve (settled : components.Settled) {type target : TypeExpr}
    (refers : type.RefersTo components) (resolved : components.resolve type = .ok target) :
    target.RefersTo components := by
  have start : Reaches components [type] type := .root List.mem_cons_self
  refine (start.resolve resolved).of_hereditary settled.closed.hereditary ?_
  intro root member
  rw [List.mem_singleton.mp member]
  exact refers

/-- The test for an array of primitives has an answer. -/
theorem exists_listElement? (settled : components.Settled) {type : TypeExpr}
    (refers : type.RefersTo components) :
    Exists fun found => components.listElement? type = .ok found := by
  rcases settled.exists_resolve refers with ⟨target, resolved⟩
  have targetRefers := settled.refersTo_resolve refers resolved
  cases target with
  | array element =>
      rcases settled.exists_resolve targetRefers.element with ⟨inner, innerResolved⟩
      simp only [listElement?, resolved, innerResolved, bind, Except.bind]
      cases inner <;> exact ⟨_, rfl⟩
  | primitive _ | enum _ | ref _ | record _ =>
      simp only [listElement?, resolved, bind, Except.bind]
      exact ⟨_, rfl⟩

end Settled
end Components
end RouteIR
