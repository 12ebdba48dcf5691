import RouteIR.Proofs.Decoder.Exactness
import RouteIR.Proofs.Decoder.Naming

namespace RouteIR

/-!
# Plans for the same types

Two sets of routes that lead to the same types need the same decoders, whatever the order in
which the types are met.  A decoder keeps the spelling of the first value that it was made
for, and its name shows that spelling.  So the names are the same as well where values that
count as one are spelled alike.
-/

/-- Values that count as one are spelled alike in all that some types lead to: bounds in the
same number of the two spellings, and zeros with the same sign. -/
structure SpelledAlike (components : Components) (roots : List TypeExpr) : Prop where
  refinements : forall left right, components.Reaches roots (.primitive left) ->
    components.Reaches roots (.primitive right) -> left.key = right.key ->
    left.refinements = right.refinements
  literals : forall left right, components.Reaches roots (.enum left) ->
    components.Reaches roots (.enum right) -> forall first, first ∈ left -> forall second,
    second ∈ right -> first.identity = second.identity -> first = second

/-- The primitive that a type is. -/
def TypeExpr.primitive? : TypeExpr -> Option Primitive
  | primitive scalar => some scalar
  | _ => none

theorem TypeExpr.primitive?_eq_some {type : TypeExpr} {scalar : Primitive}
    (isPrimitive : type.primitive? = some scalar) : type = .primitive scalar := by
  cases type with
  | primitive other => rw [Option.some.inj isPrimitive]
  | array => cases isPrimitive
  | enum => cases isPrimitive
  | ref => cases isPrimitive
  | record => cases isPrimitive

/-- Primitives lead to nothing else, so only their own refinements have to be compared. -/
theorem SpelledAlike.of_primitives {components : Components} {roots : List TypeExpr}
    {scalars : List Primitive} (primitives : roots.map TypeExpr.primitive? = scalars.map some)
    (alike : forall left, left ∈ scalars -> forall right, right ∈ scalars ->
      left.key = right.key -> left.refinements = right.refinements) :
    SpelledAlike components roots := by
  have inherited : components.Hereditary fun type =>
      Exists fun scalar => scalar ∈ scalars ∧ type = .primitive scalar := by
    refine ⟨?_, ?_, ?_⟩
    · rintro element ⟨_, _, impossible⟩
      cases impossible
    · rintro fields field ⟨_, _, impossible⟩
      cases impossible
    · rintro name target ⟨_, _, impossible⟩
      cases impossible
  have only {type : TypeExpr} (reached : components.Reaches roots type) :
      Exists fun scalar => scalar ∈ scalars ∧ type = .primitive scalar := by
    refine reached.of_hereditary inherited ?_
    intro root member
    have listed : root.primitive? ∈ scalars.map some := by
      rw [← primitives]
      exact List.mem_map_of_mem member
    rcases List.mem_map.mp listed with ⟨scalar, scalarMember, same⟩
    exact ⟨scalar, scalarMember, TypeExpr.primitive?_eq_some same.symm⟩
  constructor
  · intro left right leftReached rightReached
    rcases only leftReached with ⟨_, leftMember, ⟨⟩⟩
    rcases only rightReached with ⟨_, rightMember, ⟨⟩⟩
    exact alike left leftMember right rightMember
  · intro left right leftReached
    rcases only leftReached with ⟨_, _, impossible⟩
    cases impossible

/-! ## Canonical texts -/

namespace EnumDecoder

theorem mem_distinct_of_alike {left right : List Literal}
    (alike : forall first, first ∈ left -> forall second, second ∈ right ->
      first.identity = second.identity -> first = second)
    (same : Literal.identities left = Literal.identities right) {literal : Literal}
    (member : literal ∈ Literal.distinct left) : literal ∈ Literal.distinct right := by
  have counted : literal.identity ∈ Literal.identities right := by
    rw [← same, Literal.identities, List.mem_toFinset]
    exact List.mem_map_of_mem (Literal.mem_of_mem_distinct member)
  rw [Literal.identities, List.mem_toFinset, ← Literal.mem_identity_distinct_iff] at counted
  rcases List.mem_map.mp counted with ⟨other, otherMember, sameIdentity⟩
  have equal := alike literal (Literal.mem_of_mem_distinct member) other
    (Literal.mem_of_mem_distinct otherMember) sameIdentity.symm
  rw [equal]
  exact otherMember

theorem nodup_distinct_literals (values : List Literal) : (Literal.distinct values).Nodup :=
  List.Nodup.of_map Literal.identity (Literal.nodup_distinct values)

theorem mergeSort_eq_of_perm {left right : List String} (reordered : left.Perm right) :
    (left.mergeSort fun first second => first ≤ second) =
      right.mergeSort fun first second => first ≤ second := by
  have sorted (texts : List String) :
      (texts.mergeSort fun first second => first ≤ second).Pairwise (· ≤ ·) := by
    refine (List.pairwise_mergeSort ?_ ?_ texts).imp ?_
    · intro first second third low high
      exact decide_eq_true (String.le_trans (of_decide_eq_true low) (of_decide_eq_true high))
    · intro first second
      rw [Bool.or_eq_true, decide_eq_true_iff, decide_eq_true_iff]
      exact String.le_total first second
    · exact fun ordered => of_decide_eq_true ordered
  have permuted := (List.mergeSort_perm left fun first second => decide (first ≤ second)).trans
    (reordered.trans (List.mergeSort_perm right fun first second => decide (first ≤ second)).symm)
  exact permuted.eq_of_pairwise (fun _ _ _ _ => String.le_antisymm) (sorted left) (sorted right)

/-- Literals that form one set have one canonical text, where they are spelled alike. -/
theorem canonicalText_eq {left right : List Literal}
    (alike : forall first, first ∈ left -> forall second, second ∈ right ->
      first.identity = second.identity -> first = second)
    (same : Literal.identities left = Literal.identities right) :
    canonicalText left = canonicalText right := by
  have reordered : (Literal.distinct left).Perm (Literal.distinct right) := by
    rw [List.perm_ext_iff_of_nodup (nodup_distinct_literals left) (nodup_distinct_literals right)]
    intro literal
    constructor
    · exact mem_distinct_of_alike alike same
    · refine mem_distinct_of_alike ?_ same.symm
      intro first firstMember second secondMember sameIdentity
      exact (alike second secondMember first firstMember sameIdentity.symm).symm
  rw [canonicalText, canonicalText, mergeSort_eq_of_perm (reordered.map canonical)]

end EnumDecoder

/-! ## Names -/

namespace DecoderPlan

/-- Two plans that serve the same needs. -/
structure SameKeys (left right : DecoderPlan) : Prop where
  refined : forall key, key ∈ left.refinedKeys ↔ key ∈ right.refinedKeys
  lists : forall key, key ∈ left.listKeys ↔ key ∈ right.listKeys
  enums : forall pairs, pairs ∈ left.literalSets ↔ pairs ∈ right.literalSets

/-- Two plans with the same names for each kind of decoder. -/
structure SameNames (left right : DecoderPlan) : Prop where
  refined : forall name, name ∈ left.refinementDecoders.map (·.name) ↔
    name ∈ right.refinementDecoders.map (·.name)
  lists : forall name, name ∈ left.listDecoders.map (·.name) ↔
    name ∈ right.listDecoders.map (·.name)
  enums : forall name, name ∈ left.enumDecoders.map (·.name) ↔
    name ∈ right.enumDecoders.map (·.name)

theorem SameKeys.symm {left right : DecoderPlan} (same : SameKeys left right) :
    SameKeys right left :=
  ⟨fun key => (same.refined key).symm, fun key => (same.lists key).symm,
    fun pairs => (same.enums pairs).symm⟩

/-- A plan whose names and values come from what some types lead to. -/
structure MadeFor (components : Components) (roots : List TypeExpr) (plan : DecoderPlan) :
    Prop where
  linked : plan.Linked
  refined : forall decoder, decoder ∈ plan.refinementDecoders -> Exists fun scalar =>
    components.Reaches roots (.primitive scalar) ∧ decoder.primitive = scalar.withoutFormat
  enums : forall decoder, decoder ∈ plan.enumDecoders ->
    components.Reaches roots (.enum decoder.values)

theorem MadeFor.mono {components : Components} {roots others : List TypeExpr} {plan : DecoderPlan}
    (within : forall root, root ∈ roots -> root ∈ others)
    (made : plan.MadeFor components roots) : plan.MadeFor components others := by
  refine ⟨made.linked, ?_, fun decoder member => (made.enums decoder member).mono within⟩
  intro decoder member
  rcases made.refined decoder member with ⟨scalar, reached, same⟩
  exact ⟨scalar, reached.mono within, same⟩

section Agreement

variable {components : Components} {roots : List TypeExpr} {left right : DecoderPlan}

/-- Checks of one key have one name. -/
theorem check_name_eq (alike : SpelledAlike components roots)
    (leftMade : left.MadeFor components roots) (rightMade : right.MadeFor components roots)
    {first second : RefinementDecoder} (firstMember : first ∈ left.refinementDecoders)
    (secondMember : second ∈ right.refinementDecoders)
    (same : first.primitive.key = second.primitive.key) : first.name = second.name := by
  rcases leftMade.refined first firstMember with ⟨scalar, reached, isScalar⟩
  rcases rightMade.refined second secondMember with ⟨other, otherReached, isOther⟩
  rw [(leftMade.linked.refined first firstMember).2,
    (rightMade.linked.refined second secondMember).2]
  rw [isScalar, isOther] at same ⊢
  have sameKey : scalar.key = other.key := same
  have sameRefinements := alike.refinements scalar other reached otherReached sameKey
  have sameKind : scalar.kind = other.kind := congrArg Prod.fst sameKey
  rw [RefinementDecoder.nameFor, RefinementDecoder.nameFor, Primitive.withoutFormat,
    Primitive.withoutFormat, sameKind, sameRefinements]

/-- Keys of refined primitives tell whether there is a refinement. -/
theorem refinements_eq_nil_iff {first second : Primitive} (same : first.key = second.key) :
    first.refinements = [] ↔ second.refinements = [] := by
  have identities : first.refinements.map Refinement.identity =
      second.refinements.map Refinement.identity := congrArg Prod.snd same
  rw [← List.map_eq_nil_iff, identities, List.map_eq_nil_iff]

theorem list_name_eq (alike : SpelledAlike components roots)
    (leftMade : left.MadeFor components roots) (rightMade : right.MadeFor components roots)
    {first second : ListDecoder} (firstMember : first ∈ left.listDecoders)
    (secondMember : second ∈ right.listDecoders)
    (same : first.element.key = second.element.key) : first.name = second.name := by
  rcases leftMade.linked.lists first firstMember with ⟨firstNamed, firstLink⟩
  rcases rightMade.linked.lists second secondMember with ⟨secondNamed, secondLink⟩
  rw [firstNamed, secondNamed, ListDecoder.nameFor, ListDecoder.nameFor]
  have sameKind : first.element.kind = second.element.kind := congrArg Prod.fst same
  cases firstLink with
  | plain firstPlain firstNone =>
      cases secondLink with
      | plain _ secondNone => rw [firstNone, secondNone, sameKind]
      | @checked check member checkSame _ =>
          have plain := (refinements_eq_nil_iff (same.trans checkSame.symm)).mp firstPlain
          exact absurd plain (rightMade.linked.refined check member).1
  | @checked firstCheck firstCheckMember firstSame firstCheckNamed =>
      cases secondLink with
      | plain secondPlain _ =>
          have plain := (refinements_eq_nil_iff (firstSame.trans same)).mpr secondPlain
          exact absurd plain (leftMade.linked.refined firstCheck firstCheckMember).1
      | checked secondCheckMember secondSame secondCheckNamed =>
          rw [firstCheckNamed, secondCheckNamed, Option.getD_some, Option.getD_some,
            check_name_eq alike leftMade rightMade firstCheckMember secondCheckMember
              (firstSame.trans (same.trans secondSame.symm))]

theorem enum_name_eq (alike : SpelledAlike components roots)
    (leftMade : left.MadeFor components roots) (rightMade : right.MadeFor components roots)
    {first second : EnumDecoder} (firstMember : first ∈ left.enumDecoders)
    (secondMember : second ∈ right.enumDecoders)
    (same : Literal.identities first.values = Literal.identities second.values) :
    first.name = second.name := by
  have literals := alike.literals first.values second.values (leftMade.enums first firstMember)
    (rightMade.enums second secondMember)
  rw [leftMade.linked.enums first firstMember, rightMade.linked.enums second secondMember,
    EnumDecoder.nameFor, EnumDecoder.nameFor, EnumDecoder.canonicalText_eq literals same]

/-- A name is carried over where a key is and tells the name. -/
theorem mem_names_of_keys {α κ : Type} {decoders others : List α} {key : α -> κ}
    {name : α -> String} (within : forall one, one ∈ decoders.map key -> one ∈ others.map key)
    (told : forall first second, first ∈ decoders -> second ∈ others -> key first = key second ->
      name first = name second) {text : String} (member : text ∈ decoders.map name) :
    text ∈ others.map name := by
  rcases List.mem_map.mp member with ⟨first, firstMember, rfl⟩
  rcases List.mem_map.mp (within (key first) (List.mem_map_of_mem firstMember)) with
    ⟨second, secondMember, same⟩
  rw [told first second firstMember secondMember same.symm]
  exact List.mem_map_of_mem secondMember

/-- Plans of the same keys have the same names, where values are spelled alike. -/
theorem SameKeys.names (same : SameKeys left right) (alike : SpelledAlike components roots)
    (leftMade : left.MadeFor components roots) (rightMade : right.MadeFor components roots) :
    SameNames left right := by
  have carried {left right : DecoderPlan} (same : SameKeys left right)
      (leftMade : left.MadeFor components roots) (rightMade : right.MadeFor components roots)
      (name : String) :
      (name ∈ left.refinementDecoders.map (·.name) ->
        name ∈ right.refinementDecoders.map (·.name)) ∧
      (name ∈ left.listDecoders.map (·.name) -> name ∈ right.listDecoders.map (·.name)) ∧
      (name ∈ left.enumDecoders.map (·.name) -> name ∈ right.enumDecoders.map (·.name)) := by
    refine ⟨?_, ?_, ?_⟩
    · exact mem_names_of_keys (fun key => (same.refined key).mp)
        fun _ _ => check_name_eq alike leftMade rightMade
    · exact mem_names_of_keys (fun key => (same.lists key).mp)
        fun _ _ => list_name_eq alike leftMade rightMade
    · exact mem_names_of_keys (fun pairs => (same.enums pairs).mp)
        fun _ _ => enum_name_eq alike leftMade rightMade
  have forward := carried same leftMade rightMade
  have backward := carried same.symm rightMade leftMade
  exact ⟨fun name => ⟨(forward name).1, (backward name).1⟩,
    fun name => ⟨(forward name).2.1, (backward name).2.1⟩,
    fun name => ⟨(forward name).2.2, (backward name).2.2⟩⟩

end Agreement

/-- The plan of routes that were made over closed components is exact. -/
theorem exact_of_routes {components : Components} (closed : components.Closed)
    {paths : List (String × List Operation)} {routes : Routes} {plan : DecoderPlan}
    (made : Routes.ofPaths components paths = .ok routes)
    (planned : ofRoutes routes components = .ok plan) : plan.Exact components routes := by
  rcases exists_survey_of_routes closed made with ⟨final, finalPlanned, met, distinct, serves⟩
  have same : plan = final.plan := Except.ok.inj (planned.symm.trans finalPlanned)
  rw [same]
  exact exact_of_survey met distinct serves

/-- A plan of routes is made for the types of the routes. -/
theorem madeFor_of_routes {components : Components} (closed : components.Closed)
    {paths : List (String × List Operation)} {routes : Routes} {plan : DecoderPlan}
    (made : Routes.ofPaths components paths = .ok routes)
    (planned : ofRoutes routes components = .ok plan) :
    plan.MadeFor components routes.types := by
  rcases exists_survey_of_routes closed made with ⟨final, finalPlanned, _, _, serves⟩
  have same : plan = final.plan := Except.ok.inj (planned.symm.trans finalPlanned)
  refine ⟨linked_of_ofRoutes planned, ?_, ?_⟩
  · intro decoder member
    rw [same] at member
    rcases serves.refined decoder member with ⟨scalar, reached, _, rfl⟩
    exact ⟨scalar, reached, rfl⟩
  · intro decoder member
    rw [same] at member
    rcases serves.enums decoder member with ⟨values, reached, rfl⟩
    exact reached

/-- Routes of the same items need the same decoders. -/
theorem sameKeys_of_exact {components : Components} {routes others : Routes}
    {left right : DecoderPlan} (sameItems : forall item, item ∈ routes.items ↔ item ∈ others.items)
    (leftExact : left.Exact components routes) (rightExact : right.Exact components others) :
    SameKeys left right := by
  have types (type : TypeExpr) : type ∈ routes.types ↔ type ∈ others.types := by
    simp only [Routes.types, List.mem_flatMap, sameItems]
  have reaches (type : TypeExpr) :
      components.Reaches routes.types type ↔ components.Reaches others.types type :=
    ⟨.mono fun root => (types root).mp, .mono fun root => (types root).mpr⟩
  refine ⟨?_, ?_, ?_⟩
  · intro key
    simp only [leftExact.refined, rightExact.refined, reaches]
  · intro key
    simp only [leftExact.lists, rightExact.lists, sameItems]
  · intro pairs
    simp only [leftExact.enums, rightExact.enums, reaches]

end DecoderPlan
end RouteIR
