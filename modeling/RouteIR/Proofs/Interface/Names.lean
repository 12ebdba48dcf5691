import RouteIR.Proofs.Decoder.Naming
import RouteIR.Proofs.Interface.ClosedWorld

namespace RouteIR

/-!
# No two decoders share a name

Decoders of one kind are told apart by what they are for, and their names tell that.
Decoders of different kinds have names that begin with different letters.  What this rests
on is stated for the values of one plan only: no two patterns and no two sets of literals in
it share a digest, and no two floating-point numbers in it share a text.  The last is not so
of what is not a number, and two literals of that kind do give one name to two decoders.
-/

def Refinement.pattern? : Refinement -> Option String
  | pattern text => some text
  | _ => none

def Number.float? : Number -> Option Binary64
  | float value => some value
  | int _ => none

def Literal.float? : Literal -> Option Binary64
  | float value => some value
  | _ => none

namespace DecoderPlan

/-- The refinements that the decoders of a plan check. -/
def refinements (plan : DecoderPlan) : List Refinement :=
  plan.refinementDecoders.flatMap (·.primitive.refinements)

def patterns (plan : DecoderPlan) : List String := plan.refinements.filterMap Refinement.pattern?

/-- The texts of the sets of literals in a plan. -/
def canonicalTexts (plan : DecoderPlan) : List String :=
  plan.enumDecoders.map fun decoder => EnumDecoder.canonicalText decoder.values

theorem canonicalTexts_eq (plan : DecoderPlan) : plan.canonicalTexts =
    (plan.enumDecoders.map (·.values)).map EnumDecoder.canonicalText := by
  rw [canonicalTexts, List.map_map]
  rfl

/-- The names of the decoders of literals are digests of their texts. -/
theorem Linked.enum_names {plan : DecoderPlan} (linked : plan.Linked) :
    plan.enumDecoders.map (·.name) =
      plan.canonicalTexts.map fun text => "enum_" ++ Digest.shortHash 10 text := by
  rw [canonicalTexts, List.map_map]
  exact List.map_congr_left linked.enums

/-- The floating-point numbers in a plan, as bounds and as literals. -/
def floats (plan : DecoderPlan) : List Binary64 :=
  plan.refinements.filterMap (fun refinement => refinement.number?.bind Number.float?) ++
    (plan.enumDecoders.flatMap (·.values)).filterMap Literal.float?

/-- What is trusted of the values in a plan.  Digests as short as those in names can collide,
and the text of a floating-point number is taken to be that of no other one.  Zero has two
texts, which does no harm; what is not a number has one text whatever its origin, so a plan
with two of that kind is not trusted. -/
structure TellsApart (plan : DecoderPlan) : Prop where
  patterns : forall left, left ∈ plan.patterns -> forall right, right ∈ plan.patterns ->
    Digest.shortHash 8 left = Digest.shortHash 8 right -> left = right
  literals : forall left, left ∈ plan.canonicalTexts -> forall right, right ∈ plan.canonicalTexts ->
    Digest.shortHash 10 left = Digest.shortHash 10 right -> left = right
  floats : forall left, left ∈ plan.floats -> forall right, right ∈ plan.floats ->
    left.text = right.text -> (Number.float left).identity = (Number.float right).identity

namespace TellsApart

variable {plan : DecoderPlan}

theorem refinements (apart : plan.TellsApart) {first second : Refinement}
    (firstMember : first ∈ plan.refinements) (secondMember : second ∈ plan.refinements) :
    Refinement.Trusted first second := by
  constructor
  · rintro left right rfl rfl
    exact apart.patterns left (List.mem_filterMap.mpr ⟨_, firstMember, rfl⟩) right
      (List.mem_filterMap.mpr ⟨_, secondMember, rfl⟩)
  · intro left right isLeft isRight
    have bound {refinement : Refinement} {value : Binary64}
        (member : refinement ∈ plan.refinements)
        (isValue : refinement.number? = some (.float value)) : value ∈ plan.floats := by
      refine List.mem_append_left _ (List.mem_filterMap.mpr ⟨refinement, member, ?_⟩)
      rw [isValue]
      rfl
    exact apart.floats left (bound firstMember isLeft) right (bound secondMember isRight)

theorem key_unique (apart : plan.TellsApart) (linked : plan.Linked)
    {left right : RefinementDecoder} (leftMember : left ∈ plan.refinementDecoders)
    (rightMember : right ∈ plan.refinementDecoders) (same : left.name = right.name) :
    left.primitive.key = right.primitive.key := by
  rcases linked.refined left leftMember with ⟨leftRefined, leftNamed⟩
  rcases linked.refined right rightMember with ⟨rightRefined, rightNamed⟩
  rw [leftNamed, rightNamed] at same
  refine RefinementDecoder.key_unique leftRefined rightRefined ?_ same
  intro first second firstMember secondMember
  exact apart.refinements (List.mem_flatMap.mpr ⟨left, leftMember, firstMember⟩)
    (List.mem_flatMap.mpr ⟨right, rightMember, secondMember⟩)

/-- A kind by itself is not the name of a check. -/
theorem kind_ne_check (linked : plan.Linked) {check : RefinementDecoder}
    (member : check ∈ plan.refinementDecoders) (kind : PrimitiveKind) : kind.text ≠ check.name := by
  rcases linked.refined check member with ⟨refined, named⟩
  intro same
  have chars := congrArg String.toList same
  rw [named, RefinementDecoder.toList_nameFor refined, ← List.append_nil kind.text.toList] at chars
  have nothing := (RefinementDecoder.kind_unique chars).2
  cases refinements : check.primitive.refinements with
  | nil => exact refined refinements
  | cons first rest =>
      rw [refinements] at nothing
      cases nothing

theorem listKey_unique (apart : plan.TellsApart) (linked : plan.Linked)
    {left right : ListDecoder} (leftMember : left ∈ plan.listDecoders)
    (rightMember : right ∈ plan.listDecoders) (same : left.name = right.name) :
    left.element.key = right.element.key := by
  rcases linked.lists left leftMember with ⟨leftNamed, leftLink⟩
  rcases linked.lists right rightMember with ⟨rightNamed, rightLink⟩
  rw [leftNamed, rightNamed, ListDecoder.nameFor, ListDecoder.nameFor,
    String.append_right_inj] at same
  cases leftLink with
  | plain leftPlain leftNone =>
      rw [leftNone, Option.getD_none] at same
      cases rightLink with
      | plain rightPlain rightNone =>
          rw [rightNone, Option.getD_none] at same
          have sameKind : left.element.kind = right.element.kind := by
            have chars := congrArg String.toList same
            rw [← List.append_nil left.element.kind.text.toList,
              ← List.append_nil right.element.kind.text.toList] at chars
            exact (RefinementDecoder.kind_unique chars).1
          rw [Primitive.key, Primitive.key, sameKind, leftPlain, rightPlain]
      | checked member _ named =>
          rw [named, Option.getD_some] at same
          exact absurd same (kind_ne_check linked member _)
  | checked leftCheck leftSame leftChecked =>
      rw [leftChecked, Option.getD_some] at same
      cases rightLink with
      | plain _ rightNone =>
          rw [rightNone, Option.getD_none] at same
          exact absurd same.symm (kind_ne_check linked leftCheck _)
      | checked rightCheck rightSame rightChecked =>
          rw [rightChecked, Option.getD_some] at same
          rw [← leftSame, ← rightSame]
          exact apart.key_unique linked leftCheck rightCheck same

theorem literals_unique (apart : plan.TellsApart) (linked : plan.Linked)
    {left right : EnumDecoder} (leftMember : left ∈ plan.enumDecoders)
    (rightMember : right ∈ plan.enumDecoders) (same : left.name = right.name) :
    Literal.identities left.values = Literal.identities right.values := by
  rw [linked.enums left leftMember, linked.enums right rightMember, EnumDecoder.nameFor,
    EnumDecoder.nameFor, String.append_right_inj] at same
  refine EnumDecoder.identities_unique ?_ ?_
  · intro first second firstMember secondMember sameText
    have literal {decoder : EnumDecoder} {value : Binary64} (member : decoder ∈ plan.enumDecoders)
        (isLiteral : .float value ∈ decoder.values) : value ∈ plan.floats := by
      refine List.mem_append_right _ (List.mem_filterMap.mpr ⟨.float value, ?_, rfl⟩)
      exact List.mem_flatMap.mpr ⟨decoder, member, isLiteral⟩
    have same := apart.floats first (literal leftMember firstMember) second
      (literal rightMember secondMember) sameText
    rw [Literal.identity, Literal.identity, same]
  · exact apart.literals _ (List.mem_map_of_mem leftMember) _ (List.mem_map_of_mem rightMember) same

end TellsApart

/-! ## Three spaces of names -/

section Initials

variable {plan : DecoderPlan}

/-- The letters that names of checks begin with. -/
def checkInitials : List Char := ['s', 'i', 'n', 'b']

theorem initial_of_check (linked : plan.Linked) {decoder : RefinementDecoder}
    (member : decoder ∈ plan.refinementDecoders) :
    Exists fun initial => decoder.name.toList.head? = some initial ∧ initial ∈ checkInitials := by
  rcases linked.refined decoder member with ⟨refined, named⟩
  rw [named, RefinementDecoder.toList_nameFor refined]
  cases decoder.primitive.kind <;> exact ⟨_, rfl, by decide⟩

theorem initial_of_list (linked : plan.Linked) {decoder : ListDecoder}
    (member : decoder ∈ plan.listDecoders) : decoder.name.toList.head? = some 'l' := by
  rw [(linked.lists decoder member).1, ListDecoder.nameFor, String.toList_append]
  rfl

theorem initial_of_enum (linked : plan.Linked) {decoder : EnumDecoder}
    (member : decoder ∈ plan.enumDecoders) : decoder.name.toList.head? = some 'e' := by
  rw [linked.enums decoder member, EnumDecoder.nameFor, String.toList_append]
  rfl

end Initials

/-- Names are distinct where the keys are that they tell. -/
theorem nodup_names_of_keys {α κ : Type} {decoders : List α} {key : α -> κ} {name : α -> String}
    (distinct : (decoders.map key).Nodup)
    (unique : forall left right, left ∈ decoders -> right ∈ decoders -> name left = name right ->
      key left = key right) : (decoders.map name).Nodup := by
  rw [List.Nodup, List.pairwise_map] at distinct ⊢
  refine distinct.imp_of_mem ?_
  intro left right leftMember rightMember differ same
  exact differ (unique left right leftMember rightMember same)

/-- A plan that is linked, holds no decoder twice and can be trusted has no name twice. -/
theorem nodup_names {plan : DecoderPlan} (linked : plan.Linked) (distinct : plan.Distinct)
    (apart : plan.TellsApart) : plan.names.Nodup := by
  have checks : (plan.refinementDecoders.map (·.name)).Nodup :=
    nodup_names_of_keys distinct.refined fun _ _ => apart.key_unique linked
  have lists : (plan.listDecoders.map (·.name)).Nodup :=
    nodup_names_of_keys distinct.lists fun _ _ => apart.listKey_unique linked
  have enums : (plan.enumDecoders.map (·.name)).Nodup :=
    nodup_names_of_keys distinct.enums fun _ _ => apart.literals_unique linked
  rw [names, List.nodup_append, List.nodup_append]
  refine ⟨⟨checks, lists, ?_⟩, enums, ?_⟩
  · intro left leftMember right rightMember same
    rcases List.mem_map.mp leftMember with ⟨check, checkMember, rfl⟩
    rcases List.mem_map.mp rightMember with ⟨list, listMember, rfl⟩
    rcases initial_of_check linked checkMember with ⟨initial, begins, known⟩
    rw [same, initial_of_list linked listMember] at begins
    rw [← Option.some.inj begins] at known
    exact absurd known (by decide)
  · intro left leftMember right rightMember same
    rcases List.mem_map.mp rightMember with ⟨enum, enumMember, rfl⟩
    have begins := initial_of_enum linked enumMember
    rw [← same] at begins
    rcases List.mem_append.mp leftMember with ofCheck | ofList
    · rcases List.mem_map.mp ofCheck with ⟨check, checkMember, rfl⟩
      rcases initial_of_check linked checkMember with ⟨initial, checkBegins, known⟩
      rw [begins] at checkBegins
      rw [← Option.some.inj checkBegins] at known
      exact absurd known (by decide)
    · rcases List.mem_map.mp ofList with ⟨list, listMember, rfl⟩
      rw [initial_of_list linked listMember] at begins
      exact absurd (Option.some.inj begins) (by decide)

end DecoderPlan

namespace Interface

/-- The decoders of an interface have pairwise distinct names, over all three kinds together,
where digests and texts of floating-point numbers can be trusted. -/
theorem nodup_names_of_ofTree {tree : Tree} {interface : Interface}
    (made : ofTree tree = .ok interface) (apart : interface.decoders.TellsApart) :
    interface.decoders.names.Nodup := by
  rcases (ofTree_eq_ok_iff tree interface).mp made with ⟨_, _, _, _, planned, _⟩
  have linked := DecoderPlan.linked_of_ofRoutes planned
  have distinct := DecoderPlan.kept_distinct.ofRoutes DecoderPlan.distinct_empty planned
  exact DecoderPlan.nodup_names linked distinct apart

/-- A document with one operation, which takes parameters of some schemas in its query. -/
def queryTree (parameters : List (String × Tree)) : Tree :=
  let parameter (entry : String × Tree) : Tree :=
    .object [("name", .str entry.1), ("in", .str "query"), ("schema", entry.2)]
  .object [("paths", .object [("/a", .object [("get",
    .object [("parameters", .list (parameters.map parameter) none)])])])]

def enumSchema (value : Tree) : Tree := .object [("enum", .list [value] none)]

/-- A document with two patterns, two sets of literals, and bounds in both spellings. -/
def namedTree : Tree :=
  let pattern (text : String) : Tree := .object [("type", .str "string"), ("pattern", .str text)]
  let number (entries : List (String × Tree)) : Tree := .object (("type", .str "number") :: entries)
  let list (items : Tree) : Tree := .object [("type", .str "array"), ("items", items)]
  queryTree [("code", pattern "a"), ("codes", list (pattern "b")),
    ("low", number [("minimum", .int (-1))]),
    ("high", number [("maximum", .float (Binary64.ofDecimal false 15 (-1)))]),
    ("plain", list (number [])), ("level", enumSchema (.int 1)), ("flag", enumSchema (.bool true))]

theorem unique_of_pair {hash : String -> String} {first second : String}
    (differ : hash first ≠ hash second) : forall left, left ∈ [first, second] ->
      forall right, right ∈ [first, second] -> hash left = hash right -> left = right := by
  intro left leftMember right rightMember same
  simp only [List.mem_cons, List.not_mem_nil, or_false] at leftMember rightMember
  rcases leftMember with rfl | rfl
  · rcases rightMember with rfl | rfl
    · rfl
    · exact absurd same differ
  · rcases rightMember with rfl | rfl
    · exact absurd same.symm differ
    · rfl

theorem nodup_names_of_namedTree : Exists fun interface => ofTree namedTree = .ok interface ∧
    interface.decoders.TellsApart ∧ interface.decoders.names.Nodup := by
  have accepted : Exists fun interface => ofTree namedTree = .ok interface :=
    Outcome.exists_of_isOk (by decide +kernel)
  rcases accepted with ⟨interface, made⟩
  have patterns : interface.decoders.patterns = ["a", "b"] :=
    Outcome.part_eq_of_computed made (·.decoders.patterns) (by decide +kernel)
  have floats : interface.decoders.floats = [Binary64.ofDecimal false 15 (-1)] :=
    Outcome.part_eq_of_computed made (·.decoders.floats) (by decide +kernel)
  have values : interface.decoders.enumDecoders.map (·.values) = [[.int 1], [.bool true]] :=
    Outcome.part_eq_of_computed made (·.decoders.enumDecoders.map (·.values)) (by decide +kernel)
  have literals : interface.decoders.canonicalTexts = ["int:1", "bool:True"] := by
    rw [interface.decoders.canonicalTexts_eq, values, List.map_cons, List.map_singleton,
      EnumDecoder.canonicalText_singleton, EnumDecoder.canonicalText_singleton]
    decide +kernel
  have apart : interface.decoders.TellsApart := by
    constructor
    · rw [patterns]
      exact unique_of_pair (by decide +kernel)
    · rw [literals]
      exact unique_of_pair (by decide +kernel)
    · rw [floats]
      decide +kernel
  exact ⟨interface, made, apart, nodup_names_of_ofTree made apart⟩

/-- Two parameters with one literal each, what is not a number in both, from two origins. -/
def originsTree : Tree :=
  queryTree [("p", enumSchema (.float (.nan 1))), ("q", enumSchema (.float (.nan 2)))]

/-- There is no bound and no pattern, and one canonical text only, and still two decoders
have one name. -/
theorem name_repeated_in_originsTree :
    Exists fun interface => ofTree originsTree = .ok interface ∧
      interface.decoders.refinements = [] ∧
      interface.decoders.canonicalTexts = ["float:nan", "float:nan"] ∧
      ¬ interface.decoders.names.Nodup := by
  have accepted : Exists fun interface => ofTree originsTree = .ok interface :=
    Outcome.exists_of_isOk (by decide +kernel)
  rcases accepted with ⟨interface, made⟩
  have refinements : interface.decoders.refinements = [] :=
    Outcome.part_eq_of_computed made (·.decoders.refinements) (by decide +kernel)
  have values : interface.decoders.enumDecoders.map (·.values) =
      [[.float (.nan 1)], [.float (.nan 2)]] :=
    Outcome.part_eq_of_computed made (·.decoders.enumDecoders.map (·.values)) (by decide +kernel)
  have texts : interface.decoders.canonicalTexts = ["float:nan", "float:nan"] := by
    rw [interface.decoders.canonicalTexts_eq, values, List.map_cons, List.map_singleton,
      EnumDecoder.canonicalText_singleton, EnumDecoder.canonicalText_singleton]
    decide +kernel
  refine ⟨interface, made, refinements, texts, ?_⟩
  rcases (ofTree_eq_ok_iff originsTree interface).mp made with ⟨_, _, _, _, planned, _⟩
  have linked := DecoderPlan.linked_of_ofRoutes planned
  intro distinct
  have enums := (List.nodup_append.mp distinct).2.1
  rw [linked.enum_names, texts] at enums
  exact absurd enums (by simp)

end Interface
end RouteIR
