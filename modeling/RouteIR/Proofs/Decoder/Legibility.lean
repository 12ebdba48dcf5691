import RouteIR.Proofs.Decoder.Agreement
import RouteIR.TypeExpr.Description

namespace RouteIR

/-!
# Plans whose decoders all have names

The name of a check shows its bounds, and that of an enumeration is a digest of its literals.
An integer of too many digits has no text, so a decoder that would show one has no name.
Values that count as one have a text alike: whether a plan has all its names follows from what
the routes lead to, and not from which of the values is met first.
-/

/-! ## Values that count as one -/

/-- Whether the numbers of an identity have a text. -/
def Number.Identity.isLegible : Number.Identity -> Bool
  | .value key => key.2.natAbs < Nat.pow 10 digitLimit * Binary64.unitsPerOne
  | .noNumber _ => true

@[simp] theorem Number.isLegible_identity (number : Number) :
    number.identity.isLegible = number.isLegible := by
  rw [Number.identity, Number.isLegible]
  cases number.orderKey <;> rfl

@[simp] theorem Number.isLegible_toTree (number : Number) :
    number.toTree.isLegible = number.isLegible := by
  cases number <;> simp only [Number.toTree, Tree.isLegible]

/-- Whether the refinements of an identity have a text. -/
def Refinement.Identity.isLegible : Refinement.Identity -> Bool
  | .bound _ value => value.isLegible
  | .pattern _ => true

@[simp] theorem Refinement.isLegible_identity (refinement : Refinement) :
    refinement.identity.isLegible = refinement.isLegible := by
  cases refinement <;>
    simp [Refinement.identity, Refinement.Identity.isLegible, Refinement.isLegible,
      Refinement.valueTree, Tree.isLegible]

/-- Whether the literals of an identity have a text. -/
def Literal.Identity.isLegible : Literal.Identity -> Bool
  | .int value => (Number.int value).isLegible
  | .float value => value.isLegible
  | .bool _ | .str _ => true

@[simp] theorem Literal.isLegible_identity (literal : Literal) :
    literal.identity.isLegible = literal.isLegible := by
  cases literal <;>
    simp [Literal.identity, Literal.Identity.isLegible, Literal.isLegible, Literal.toTree,
      Tree.isLegible]

/-! ## Plans -/

namespace DecoderPlan

/-- A check has a name when its key is legible. -/
theorem isNameable_check_iff (decoder : RefinementDecoder) :
    decoder.isNameable = true ↔
      forall identity, identity ∈ decoder.primitive.key.2 -> identity.isLegible = true := by
  simp [RefinementDecoder.isNameable, Primitive.key]

theorem isNameable_enum_iff (decoder : EnumDecoder) :
    decoder.isNameable = true ↔
      forall identity, identity ∈ Literal.identities decoder.values ->
        identity.isLegible = true := by
  simp [EnumDecoder.isNameable, Literal.identities]

theorem isNameable_iff (plan : DecoderPlan) :
    plan.isNameable = true ↔
      (forall key, key ∈ plan.refinedKeys -> forall identity, identity ∈ key.2 ->
        identity.isLegible = true) ∧
      forall pairs, pairs ∈ plan.literalSets -> forall identity, identity ∈ pairs ->
        identity.isLegible = true := by
  simp only [isNameable, Bool.and_eq_true, List.all_eq_true, isNameable_check_iff,
    isNameable_enum_iff, refinedKeys, literalSets, List.forall_mem_map]

/-- Plans of the same keys have all their names or miss one alike. -/
theorem SameKeys.isNameable_iff {left right : DecoderPlan} (same : SameKeys left right) :
    left.isNameable = true ↔ right.isNameable = true := by
  simp only [DecoderPlan.isNameable_iff, same.refined, same.enums]

end DecoderPlan

/-! ## Routes -/

namespace Components

variable {components : Components} {roots : List TypeExpr}

/-- All values in the types that some roots lead to have a text. -/
def Legible (components : Components) (roots : List TypeExpr) : Prop :=
  forall type, components.Reaches roots type -> type.isDescribable = true

/-- The values in types are the refinements of primitives and the literals of enumerations. -/
theorem legible_iff :
    components.Legible roots ↔
      (forall scalar, components.Reaches roots (.primitive scalar) ->
        forall refinement, refinement ∈ scalar.refinements -> refinement.isLegible = true) ∧
      forall values, components.Reaches roots (.enum values) ->
        forall literal, literal ∈ values -> literal.isLegible = true := by
  constructor
  · intro legible
    refine ⟨fun scalar reached => ?_, fun values reached => ?_⟩
    · exact List.all_eq_true.mp (legible _ reached)
    · exact List.all_eq_true.mp (legible _ reached)
  · rintro ⟨refinements, literals⟩ type reached
    induction type using TypeExpr.isDescribable.induct with
    | case1 scalar => exact List.all_eq_true.mpr (refinements scalar reached)
    | case2 element ih => exact ih reached.element
    | case3 values => exact List.all_eq_true.mpr (literals values reached)
    | case4 name => rfl
    | case5 fields => rfl

end Components

namespace DecoderPlan

variable {components : Components} {routes : Routes} {plan : DecoderPlan}

/-- An exact plan has all its names when what the routes lead to is legible. -/
theorem Exact.isNameable_iff (exact : plan.Exact components routes) :
    plan.isNameable = true ↔ components.Legible routes.types := by
  rw [DecoderPlan.isNameable_iff, Components.legible_iff]
  constructor
  · rintro ⟨checks, enums⟩
    refine ⟨fun scalar reached refinement member => ?_, fun values reached literal member => ?_⟩
    · have refined := List.ne_nil_of_mem member
      rw [← refinement.isLegible_identity]
      exact checks scalar.key ((exact.refined _).mpr ⟨scalar, reached, refined, rfl⟩) _
        (List.mem_map_of_mem member)
    · rw [← literal.isLegible_identity]
      exact enums _ ((exact.enums _).mpr ⟨values, reached, rfl⟩) _
        (List.mem_toFinset.mpr (List.mem_map_of_mem member))
  · rintro ⟨refinements, literals⟩
    constructor
    · intro key keyMember identity member
      rcases (exact.refined key).mp keyMember with ⟨scalar, reached, _, rfl⟩
      rcases List.mem_map.mp member with ⟨refinement, refinementMember, rfl⟩
      rw [refinement.isLegible_identity]
      exact refinements scalar reached refinement refinementMember
    · intro pairs pairsMember identity member
      rcases (exact.enums pairs).mp pairsMember with ⟨values, reached, rfl⟩
      rcases List.mem_map.mp (List.mem_toFinset.mp member) with ⟨literal, literalMember, rfl⟩
      rw [literal.isLegible_identity]
      exact literals values reached literal literalMember

/-- A survey of routes that were made over closed components finds exactly what they need, and
only a name can be missing. -/
theorem forRoutes_of_closed (closed : components.Closed)
    {paths : List (String × List Operation)} (made : Routes.ofPaths components paths = .ok routes) :
    Exists fun plan => ofRoutes routes components = .ok plan ∧ plan.Exact components routes ∧
      (components.Legible routes.types -> forRoutes routes components = .ok plan) ∧
      (¬ components.Legible routes.types -> forRoutes routes components = .error .illegible) := by
  rcases ofRoutes_exact closed made with ⟨plan, surveyed, exact⟩
  refine ⟨plan, surveyed, exact, ?_, ?_⟩
  · intro legible
    exact forRoutes_eq_ok_iff.mpr ⟨surveyed, exact.isNameable_iff.mpr legible⟩
  · intro illegible
    rw [forRoutes_eq_named surveyed, named, if_neg (mt exact.isNameable_iff.mp illegible)]

/-- A component that contains itself through an array, an alias of an array, and the
refined primitive that both need. -/
def cyclicComponents : Components :=
  [("Node", .record [⟨"children", .array (.ref "Node"), false⟩, ⟨"tags", .ref "Tags", true⟩]),
    ("Tags", .array (.ref "Tag")),
    ("Tag", .primitive ⟨.string, some "slug", [.maxLength 8]⟩)]

/-- A route that takes a list in its query and answers with the cyclic component. -/
def cyclicPaths : List (String × List Operation) :=
  [("/nodes", [⟨.get, none, [⟨"tag", .query, false, .ref "Tags"⟩], none,
    [("200", some (.ref "Node"))]⟩])]

theorem settled_cyclicComponents : cyclicComponents.Settled := by
  constructor
  · intro component member
    simp only [cyclicComponents, List.mem_cons, List.not_mem_nil, or_false] at member
    rcases member with rfl | rfl | rfl <;>
      simp [TypeExpr.RefersTo, TypeExpr.names, TypeExpr.fieldNames, cyclicComponents]
  · intro name member
    simp only [cyclicComponents, Keyed.keys_cons, Keyed.keys_nil, List.mem_cons,
      List.not_mem_nil, or_false] at member
    rcases member with rfl | rfl | rfl <;> exact ⟨_, rfl⟩

def cyclicRoutes : Routes :=
  [("/nodes", ⟨"/nodes", [⟨.get, "/nodes", [], none,
    [⟨"tag", .query, false, .ref "Tags", true⟩], none, [("200", some (.ref "Node"))]⟩]⟩)]

theorem legible_cyclicRoutes : cyclicComponents.Legible cyclicRoutes.types := by
  have made : Routes.ofPaths cyclicComponents cyclicPaths = .ok cyclicRoutes := rfl
  rcases ofRoutes_exact settled_cyclicComponents.closed made with ⟨plan, surveyed, exact⟩
  exact exact.isNameable_iff.mp
    (Outcome.part_eq_of_computed surveyed isNameable (by decide +kernel))

/-- The integer that four thousand hexadecimal digits F write.  It has no decimal text. -/
def longInteger : Int := Int.ofNat (Nat.pow 16 4000 - 1)

/-- A route that takes an integer with an upper bound in its query. -/
def boundedPaths (bound : Int) : List (String × List Operation) :=
  [("/a", [⟨.get, none,
    [⟨"q", .query, false, .primitive .integer none [("maximum", .int bound)]⟩], none, []⟩])]

def boundedRoutes (bound : Int) : Routes :=
  [("/a", ⟨"/a", [⟨.get, "/a", [], none,
    [⟨"q", .query, false, .primitive ⟨.integer, none, [.maximum (.int bound)]⟩, false⟩],
    none, []⟩]⟩)]

end DecoderPlan
end RouteIR
