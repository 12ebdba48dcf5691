import RouteIR.Proofs.Document.Escape

namespace RouteIR
namespace Document

/-!
# Documents that escape

An operation is read part by part, a path operation by operation, a document path by path.
Each of the relations here follows that order: what comes before can be read, and then a
part escapes.  Nothing escapes but a value that is no text or cannot serve as a key.
-/

open Outcome (Escapes Succeeds First)

/-! ## Operations -/

theorem not_escapes_listOf {location : String} {tree : Tree} {failure : Failure} :
    ¬ Escapes (listOf location tree) failure := by
  unfold listOf
  split
  · exact Outcome.not_escapes_ok
  · exact Outcome.not_escapes_ok
  · exact Outcome.not_escapes_rule

theorem not_escapes_responsesOf {location : String} {tree : Tree} {failure : Failure} :
    ¬ Escapes (responsesOf location tree) failure := by
  unfold responsesOf
  split
  · exact Outcome.not_escapes_ok
  · split
    · exact Outcome.not_escapes_ok
    · exact Outcome.not_escapes_rule

/-- What is checked of an operation before its parts are read. -/
structure OperationHead (location : String) (entries : List (Tree × Tree)) (declared : List Tree)
    (responses : List (Tree × Tree)) : Prop where
  declaredFound :
    listOf (location ++ ".parameters") (Tree.field "parameters" entries) = .ok declared
  identified : Identified [] declared
  responsesFound :
    responsesOf (location ++ ".responses") (Tree.field "responses" entries) = .ok responses

theorem OperationHead.unique {location : String} {entries responses : List (Tree × Tree)}
    {declared : List Tree} (head : OperationHead location entries declared responses) :
    checkUnique (location ++ ".parameters") [] declared = .ok () :=
  (checkUnique_eq_ok_iff _ _ _).mpr head.identified

/-- Where reading an operation escapes, in the order in which its parts are read. -/
inductive OperationEscapes (location : String) (pathParameters : List Tree)
    (entries : List (Tree × Tree)) : Failure -> Prop
  | key {declared : List Tree} {failure : Failure}
      (declaredFound :
        listOf (location ++ ".parameters") (Tree.field "parameters" entries) = .ok declared)
      (compound : CompoundKey [] declared failure) :
      OperationEscapes location pathParameters entries failure
  | parameter {declared : List Tree} {responses : List (Tree × Tree)} {failure : Failure}
      (head : OperationHead location entries declared responses)
      (first : First
        (fun parameter => Succeeds (readParameter (location ++ ".parameters") parameter))
        (fun parameter => ParameterEscapes parameter failure)
        (mergeParameters pathParameters declared)) :
      OperationEscapes location pathParameters entries failure
  | body {declared : List Tree} {responses : List (Tree × Tree)} {failure : Failure}
      (head : OperationHead location entries declared responses)
      (parameters : Succeeds (readParameters (location ++ ".parameters")
        (mergeParameters pathParameters declared)))
      (escape : BodyEscapes (Tree.field "requestBody" entries) failure) :
      OperationEscapes location pathParameters entries failure
  | response {declared : List Tree} {responses : List (Tree × Tree)} {failure : Failure}
      (head : OperationHead location entries declared responses)
      (parameters : Succeeds (readParameters (location ++ ".parameters")
        (mergeParameters pathParameters declared)))
      (body : Succeeds (readBody (location ++ ".requestBody") (Tree.field "requestBody" entries)))
      (first : First (fun entry => Succeeds (readResponse (location ++ ".responses") entry))
        (fun entry => entry.1.isLegible = true ∧ BodyEscapes entry.2 failure) responses) :
      OperationEscapes location pathParameters entries failure
  | operationId {declared : List Tree} {responses : List (Tree × Tree)} {fault : TextFault}
      (head : OperationHead location entries declared responses)
      (parameters : Succeeds (readParameters (location ++ ".parameters")
        (mergeParameters pathParameters declared)))
      (body : Succeeds (readBody (location ++ ".requestBody") (Tree.field "requestBody" entries)))
      (responses : Succeeds (readResponses (location ++ ".responses") responses))
      (unread : (Tree.field "operationId" entries).optionalText = .error fault) :
      OperationEscapes location pathParameters entries (.notText .operationId fault)

theorem escapes_readOperationId_iff (operationId : Tree) (failure : Failure) :
    Escapes (readOperationId operationId) failure ↔ Exists fun fault =>
      operationId.optionalText = .error fault ∧ failure = .notText .operationId fault := by
  rw [readOperationId]
  cases operationId.optionalText with
  | ok name => simp [Outcome.not_escapes_ok]
  | error fault =>
      constructor
      · rintro ⟨same, _⟩
        exact ⟨fault, rfl, (Except.error.inj same).symm⟩
      · rintro ⟨other, same, rfl⟩
        cases same
        exact ⟨rfl, Failure.unruled_notText _ _⟩

theorem escapes_readParameters_iff (location : String) (parameters : List Tree)
    (failure : Failure) :
    Escapes (readParameters location parameters) failure ↔
      First (fun parameter => Succeeds (readParameter location parameter))
        (fun parameter => ParameterEscapes parameter failure) parameters := by
  rw [readParameters_eq_mapM, Outcome.escapes_mapM_iff]
  simp only [escapes_readParameter_iff]

theorem escapes_readResponses_iff (location : String) (entries : List (Tree × Tree))
    (failure : Failure) :
    Escapes (readResponses location entries) failure ↔
      First (fun entry => Succeeds (readResponse location entry))
        (fun entry => entry.1.isLegible = true ∧ BodyEscapes entry.2 failure) entries := by
  rw [readResponses_eq_mapM, Outcome.escapes_mapM_iff]
  simp only [escapes_readResponse_iff]

theorem escapes_readOperation_iff (method : Method) (location : String) (pathParameters : List Tree)
    (entries : List (Tree × Tree)) (failure : Failure) :
    Escapes (readOperation method location pathParameters entries) failure ↔
      OperationEscapes location pathParameters entries failure := by
  rw [readOperation]
  simp only [Outcome.escapes_bind_iff, not_escapes_listOf, not_escapes_responsesOf, false_or,
    escapes_checkUnique_iff, escapes_readParameters_iff, escapes_readBody_iff,
    escapes_readResponses_iff, escapes_readOperationId_iff]
  constructor
  · rintro ⟨declared, declaredFound, compound | ⟨⟨⟩, unique, responses, responsesFound, escape⟩⟩
    · exact .key declaredFound compound
    · have head : OperationHead location entries declared responses :=
        ⟨declaredFound, (checkUnique_eq_ok_iff _ _ _).mp unique, responsesFound⟩
      rcases escape with parameter | ⟨parameters, parametersRead, escape⟩
      · exact .parameter head parameter
      · rcases escape with body | ⟨body, bodyRead, escape⟩
        · exact .body head ⟨parameters, parametersRead⟩ body
        · rcases escape with response | ⟨read, responsesRead, escape⟩
          · exact .response head ⟨parameters, parametersRead⟩ ⟨body, bodyRead⟩ response
          · rcases escape with ⟨fault, unread, rfl⟩ | ⟨name, _, escape⟩
            · exact .operationId head ⟨parameters, parametersRead⟩ ⟨body, bodyRead⟩
                ⟨read, responsesRead⟩ unread
            · exact absurd escape Outcome.not_escapes_ok
  · intro escape
    cases escape with
    | key declaredFound compound => exact ⟨_, declaredFound, Or.inl compound⟩
    | parameter head first =>
        refine ⟨_, head.declaredFound, Or.inr ⟨(), head.unique, _, head.responsesFound, ?_⟩⟩
        exact Or.inl first
    | body head parameters escape =>
        rcases parameters with ⟨parameters, parametersRead⟩
        refine ⟨_, head.declaredFound, Or.inr ⟨(), head.unique, _, head.responsesFound, ?_⟩⟩
        exact Or.inr ⟨parameters, parametersRead, Or.inl escape⟩
    | response head parameters body first =>
        rcases parameters with ⟨parameters, parametersRead⟩
        rcases body with ⟨body, bodyRead⟩
        refine ⟨_, head.declaredFound, Or.inr ⟨(), head.unique, _, head.responsesFound, ?_⟩⟩
        exact Or.inr ⟨parameters, parametersRead, Or.inr ⟨body, bodyRead, Or.inl first⟩⟩
    | operationId head parameters body responses unread =>
        rcases parameters with ⟨parameters, parametersRead⟩
        rcases body with ⟨body, bodyRead⟩
        rcases responses with ⟨read, responsesRead⟩
        refine ⟨_, head.declaredFound, Or.inr ⟨(), head.unique, _, head.responsesFound, ?_⟩⟩
        refine Or.inr ⟨parameters, parametersRead, Or.inr ⟨body, bodyRead, Or.inr ?_⟩⟩
        exact ⟨read, responsesRead, Or.inl ⟨_, unread, rfl⟩⟩

/-! ## Paths -/
/-- Among the entries of a path item one is an operation that escapes.  Its method is named
by no entry before it, and all operations before it can be read. -/
def AnOperationEscapes (location : String) (pathParameters : List Tree) (seen : List Method)
    (entries : List (Tree × Tree)) (failure : Failure) : Prop :=
  Exists fun before => Exists fun key => Exists fun inner => Exists fun label =>
    Exists fun after => Exists fun method =>
      entries = before ++ (key, .map inner label) :: after ∧ key.isLegible = true ∧
      Method.ofKey? key = some method ∧
      method ∉ seen ∧ (forall entry, entry ∈ before -> Method.ofKey? entry.1 ≠ some method) ∧
      Succeeds (readOperations location pathParameters seen before) ∧
      OperationEscapes (location ++ "." ++ key.display) pathParameters inner failure

section Operations

variable {location : String} {pathParameters : List Tree} {seen : List Method}

theorem anOperationEscapes_unnamed_iff {key value : Tree} (keyLegible : key.isLegible = true)
    (unnamed : Method.ofKey? key = none) (rest : List (Tree × Tree)) (failure : Failure) :
    AnOperationEscapes location pathParameters seen ((key, value) :: rest) failure ↔
      AnOperationEscapes location pathParameters seen rest failure := by
  constructor
  · rintro ⟨before, other, inner, label, after, method, split, legible, named, fresh, unused,
      earlier, escape⟩
    cases before with
    | nil =>
        cases split
        rw [unnamed] at named
        cases named
    | cons first others =>
        cases split
        rw [readOperations_unnamed _ _ _ keyLegible unnamed] at earlier
        refine ⟨others, other, inner, label, after, method, rfl, legible, named, fresh, ?_, earlier,
          escape⟩
        exact fun entry member => unused entry (List.mem_cons_of_mem _ member)
  · rintro ⟨before, other, inner, label, after, method, rfl, legible, named, fresh, unused, earlier,
      escape⟩
    refine ⟨(key, value) :: before, other, inner, label, after, method, rfl, legible, named, fresh,
      ?_, ?_, escape⟩
    · intro entry member
      rcases List.mem_cons.mp member with rfl | later
      · rw [unnamed]
        exact nofun
      · exact unused entry later
    · rw [readOperations_unnamed _ _ _ keyLegible unnamed]
      exact earlier

theorem anOperationEscapes_named_iff {key : Tree} {method : Method}
    (keyLegible : key.isLegible = true) (named : Method.ofKey? key = some method)
    (fresh : method ∉ seen) (inner rest : List (Tree × Tree)) (label : Option Label)
    (failure : Failure) :
    AnOperationEscapes location pathParameters seen ((key, .map inner label) :: rest) failure ↔
      OperationEscapes (location ++ "." ++ key.display) pathParameters inner failure ∨
      (Succeeds (readOperation method (location ++ "." ++ key.display) pathParameters inner) ∧
        AnOperationEscapes location pathParameters (method :: seen) rest failure) := by
  constructor
  · rintro ⟨before, other, otherInner, otherLabel, after, otherMethod, split, legible, otherNamed,
      otherFresh, unused, ⟨operations, earlier⟩, escape⟩
    cases before with
    | nil =>
        cases split
        exact Or.inl escape
    | cons first others =>
        cases split
        rw [readOperations_named _ _ _ keyLegible named fresh] at earlier
        simp only [Outcome.bind_eq_ok_iff] at earlier
        rcases earlier with ⟨operation, operationRead, operations, earlier, _⟩
        refine Or.inr ⟨⟨operation, operationRead⟩, others, other, otherInner, otherLabel, after,
          otherMethod, rfl, legible, otherNamed, ?_, ?_, ⟨operations, earlier⟩, escape⟩
        · rw [List.mem_cons, not_or]
          refine ⟨?_, otherFresh⟩
          rintro rfl
          exact unused _ List.mem_cons_self named
        · exact fun entry member => unused entry (List.mem_cons_of_mem _ member)
  · rintro (escape | ⟨⟨operation, operationRead⟩, before, other, otherInner, otherLabel, after,
      otherMethod, rfl, legible, otherNamed, otherFresh, unused, ⟨operations, earlier⟩, escape⟩)
    · exact ⟨[], key, inner, label, rest, method, rfl, keyLegible, named, fresh, by simp, ⟨[], rfl⟩,
        escape⟩
    · rw [List.mem_cons, not_or] at otherFresh
      refine ⟨(key, .map inner label) :: before, other, otherInner, otherLabel, after, otherMethod,
        rfl, legible, otherNamed, otherFresh.2, ?_, ⟨operation :: operations, ?_⟩, escape⟩
      · intro entry member
        rcases List.mem_cons.mp member with rfl | later
        · rw [named]
          exact fun same => otherFresh.1 (Option.some.inj same).symm
        · exact unused entry later
      · rw [readOperations_named _ _ _ keyLegible named fresh, operationRead]
        simp only [Outcome.bind_eq_ok_iff]
        exact ⟨operation, rfl, operations, earlier, rfl⟩

theorem not_anOperationEscapes_illegible {key value : Tree} (unknown : key.isLegible = false)
    (rest : List (Tree × Tree)) (failure : Failure) :
    ¬ AnOperationEscapes location pathParameters seen ((key, value) :: rest) failure := by
  rintro ⟨before, other, inner, label, after, method, split, legible, _, _, _, earlier, _⟩
  cases before with
  | nil =>
      cases split
      rw [unknown] at legible
      cases legible
  | cons first others =>
      cases split
      rcases earlier with ⟨operations, earlier⟩
      rw [readOperations_illegible _ _ _ unknown] at earlier
      cases earlier

theorem not_anOperationEscapes_refused {key value : Tree} {method : Method}
    (keyLegible : key.isLegible = true) (named : Method.ofKey? key = some method)
    (refused : method ∈ seen ∨ forall inner label, value ≠ .map inner label)
    (rest : List (Tree × Tree)) (failure : Failure) :
    ¬ AnOperationEscapes location pathParameters seen ((key, value) :: rest) failure := by
  rintro ⟨before, other, inner, label, after, otherMethod, split, _, otherNamed, fresh, _, earlier,
    _⟩
  cases before with
  | nil =>
      cases split
      rw [named] at otherNamed
      cases otherNamed
      exact refused.resolve_left fresh inner label rfl
  | cons first others =>
      cases split
      rcases readOperations_refused location pathParameters seen keyLegible named refused
        others with ⟨violation, failed⟩
      rcases earlier with ⟨operations, earlier⟩
      rw [earlier] at failed
      cases failed

end Operations

theorem escapes_readOperations_iff (location : String) (pathParameters : List Tree)
    (seen : List Method) (entries : List (Tree × Tree)) (failure : Failure) :
    Escapes (readOperations location pathParameters seen entries) failure ↔
      AnOperationEscapes location pathParameters seen entries failure := by
  induction entries generalizing seen with
  | nil =>
      constructor
      · exact fun escape => absurd escape Outcome.not_escapes_ok
      · rintro ⟨before, key, inner, label, after, method, split, _⟩
        simp at split
  | cons entry rest ih =>
      cases entryCases seen entry with
      | illegible unknown =>
          rw [readOperations_illegible _ _ _ unknown]
          constructor
          · exact fun escape => absurd escape Outcome.not_escapes_illegible
          · exact fun escape => absurd escape (not_anOperationEscapes_illegible unknown _ _)
      | unnamed legible unnamed =>
          rw [readOperations_unnamed _ _ _ legible unnamed,
            anOperationEscapes_unnamed_iff legible unnamed, ih]
      | operation legible named fresh =>
          rw [readOperations_named _ _ _ legible named fresh,
            anOperationEscapes_named_iff legible named fresh]
          simp only [Outcome.escapes_bind_iff, escapes_readOperation_iff, ih]
          constructor
          · rintro (escape | ⟨operation, operationRead, escape | ⟨others, _, escape⟩⟩)
            · exact Or.inl escape
            · exact Or.inr ⟨⟨operation, operationRead⟩, escape⟩
            · exact absurd escape Outcome.not_escapes_ok
          · rintro (escape | ⟨⟨operation, operationRead⟩, escape⟩)
            · exact Or.inl escape
            · exact Or.inr ⟨operation, operationRead, Or.inl escape⟩
      | refused legible named refused =>
          rcases readOperations_refused location pathParameters seen legible named refused rest with
            ⟨violation, failed⟩
          rw [failed]
          constructor
          · exact fun escape => absurd escape Outcome.not_escapes_rule
          · intro escape
            exact absurd escape (not_anOperationEscapes_refused legible named refused rest failure)

/-- Where reading a path item escapes: at its own parameters, or at an operation. -/
inductive PathItemEscapes (location : String) (entries : List (Tree × Tree)) : Failure -> Prop
  | key {pathParameters : List Tree} {failure : Failure}
      (found : listOf (location ++ ".parameters") (Tree.field "parameters" entries) =
        .ok pathParameters)
      (compound : CompoundKey [] pathParameters failure) : PathItemEscapes location entries failure
  | operation {pathParameters : List Tree} {failure : Failure}
      (found : listOf (location ++ ".parameters") (Tree.field "parameters" entries) =
        .ok pathParameters)
      (identified : Identified [] pathParameters)
      (escape : AnOperationEscapes location pathParameters [] entries failure) :
      PathItemEscapes location entries failure

theorem escapes_readPathItem_iff (location : String) (entries : List (Tree × Tree))
    (failure : Failure) :
    Escapes (readPathItem location entries) failure ↔ PathItemEscapes location entries failure := by
  rw [readPathItem]
  simp only [Outcome.escapes_bind_iff, not_escapes_listOf, false_or, escapes_checkUnique_iff,
    escapes_readOperations_iff]
  constructor
  · rintro ⟨pathParameters, found, compound | ⟨⟨⟩, unique, escape⟩⟩
    · exact .key found compound
    · exact .operation found ((checkUnique_eq_ok_iff _ _ _).mp unique) escape
  · intro escape
    cases escape with
    | key found compound => exact ⟨_, found, Or.inl compound⟩
    | operation found identified escape =>
        exact ⟨_, found, Or.inr ⟨(), (checkUnique_eq_ok_iff _ _ _).mpr identified, escape⟩⟩

/-- A path that is well-formed up to its item, and whose item escapes. -/
inductive PathEscapes : Tree × Tree -> Failure -> Prop
  | intro {key : Tree} {inner : List (Tree × Tree)} {label : Option Label} {path : String}
      {failure : Failure} (template : pathOf? key = some path)
      (plain : Tree.lookup? "$ref" inner = none)
      (escape : PathItemEscapes ("paths." ++ key.display) inner failure) :
      PathEscapes (key, .map inner label) failure

theorem escapes_readPath_iff (entry : Tree × Tree) (failure : Failure) :
    Escapes (readPath entry) failure ↔ PathEscapes entry failure := by
  constructor
  · intro escape
    rcases entry with ⟨key, item⟩
    unfold readPath at escape
    replace escape := (Outcome.escapes_withText_iff.mp escape).2
    dsimp only at escape
    split at escape
    · exact absurd escape Outcome.not_escapes_rule
    · next path template =>
        split at escape
        · next inner label =>
            split at escape
            · exact absurd escape Outcome.not_escapes_rule
            · next plain =>
                rw [Outcome.escapes_map_iff, escapes_readPathItem_iff] at escape
                exact .intro template plain escape
        · exact absurd escape Outcome.not_escapes_rule
  · rintro ⟨template, plain, escape⟩
    simp only [readPath, template, plain]
    rw [Outcome.escapes_withText_iff, Outcome.escapes_map_iff, escapes_readPathItem_iff]
    refine ⟨isLegible_of_pathOf? template, ?_⟩
    exact escape

/-! ## Documents -/

theorem not_escapes_checkVersion {entries : List (Tree × Tree)} {failure : Failure} :
    ¬ Escapes (checkVersion entries) failure := by
  unfold checkVersion
  split
  · exact Outcome.not_escapes_rule
  · split
    · exact Outcome.not_escapes_ok
    · split
      · exact Outcome.not_escapes_ok
      · exact Outcome.not_escapes_rule

/-- Where reading a document escapes: among its components, or, when they can all be read,
at the first path that cannot. -/
inductive DocumentEscapes : Tree -> Failure -> Prop
  | component {entries : List (Tree × Tree)} {label : Option Label} {failure : Failure}
      (version : checkVersion entries = .ok ())
      (escape : ComponentsEscape (Tree.field "components" entries) failure) :
      DocumentEscapes (.map entries label) failure
  | path {entries paths : List (Tree × Tree)} {label pathsLabel : Option Label} {failure : Failure}
      (version : checkVersion entries = .ok ())
      (components : Succeeds (readComponents (Tree.field "components" entries)))
      (found : Tree.lookup? "paths" entries = some (.map paths pathsLabel))
      (first : First (fun entry => Succeeds (readPath entry))
        (fun entry => PathEscapes entry failure) paths) :
      DocumentEscapes (.map entries label) failure

theorem escapes_readPaths_iff (entries : List (Tree × Tree)) (failure : Failure) :
    Escapes (readPaths entries) failure ↔ Exists fun paths => Exists fun label =>
      Tree.lookup? "paths" entries = some (.map paths label) ∧
        First (fun entry => Succeeds (readPath entry)) (fun entry => PathEscapes entry failure)
          paths := by
  constructor
  · intro escape
    unfold readPaths at escape
    split at escape
    · exact absurd escape Outcome.not_escapes_rule
    · next paths label found =>
        rw [Outcome.escapes_map_iff, readPathList_eq_mapM, Outcome.escapes_mapM_iff] at escape
        simp only [escapes_readPath_iff] at escape
        exact ⟨paths, label, found, escape⟩
    · exact absurd escape Outcome.not_escapes_rule
  · rintro ⟨paths, label, found, first⟩
    simp only [readPaths, found]
    rw [Outcome.escapes_map_iff, readPathList_eq_mapM, Outcome.escapes_mapM_iff]
    simpa only [escapes_readPath_iff] using first

/-- Reading fails without violating a rule exactly there. -/
theorem escapes_read_iff (tree : Tree) (failure : Failure) :
    Escapes (read tree) failure ↔ DocumentEscapes tree failure := by
  constructor
  · intro escape
    unfold read at escape
    split at escape
    · next entries label =>
        simp only [Outcome.escapes_bind_iff, not_escapes_checkVersion, false_or,
          escapes_readComponents_iff, escapes_readPaths_iff] at escape
        rcases escape with ⟨⟨⟩, version, escape | ⟨components, componentsRead, escape⟩⟩
        · exact .component version escape
        · rcases escape with ⟨paths, pathsLabel, found, first⟩ | ⟨paths, _, escape⟩
          · exact .path version ⟨components, componentsRead⟩ found first
          · exact absurd escape Outcome.not_escapes_ok
    · exact absurd escape Outcome.not_escapes_rule
  · intro escape
    cases escape with
    | component version escape =>
        rw [read, Outcome.escapes_bind_iff]
        refine Or.inr ⟨(), version, ?_⟩
        rw [Outcome.escapes_bind_iff, escapes_readComponents_iff]
        exact Or.inl escape
    | path version components found first =>
        rcases components with ⟨components, componentsRead⟩
        rw [read, Outcome.escapes_bind_iff]
        refine Or.inr ⟨(), version, ?_⟩
        rw [Outcome.escapes_bind_iff]
        refine Or.inr ⟨components, componentsRead, ?_⟩
        rw [Outcome.escapes_bind_iff, escapes_readPaths_iff]
        exact Or.inl ⟨_, _, found, first⟩

/-! ## What escapes -/

/-- A failure over a value that is no text, or that cannot serve as a key. -/
def OverValue (failure : Failure) : Prop :=
  (Exists fun field => Exists fun fault => failure = .notText field fault) ∨
    Exists fun kind => failure = .compoundKey kind

variable {failure : Failure}

theorem SchemaEscapes.overValue {node : Tree} (escape : SchemaEscapes node failure) :
    OverValue failure := by
  cases escape with
  | format unread => exact Or.inl ⟨_, _, rfl⟩

theorem CompoundKey.overValue {seen : List (Identity × Identity)} {parameters : List Tree}
    (compound : CompoundKey seen parameters failure) : OverValue failure := by
  rcases compound with ⟨_, _, _, _, kind, _, _, _, same⟩
  exact Or.inr ⟨kind, same⟩

theorem BodyEscapes.overValue {body : Tree} (escape : BodyEscapes body failure) :
    OverValue failure := by
  cases escape with
  | intro _ _ schema => exact schema.overValue

theorem ComponentsEscape.overValue {components : Tree}
    (escape : ComponentsEscape components failure) : OverValue failure := by
  rcases escape with ⟨_, first⟩
  rcases first.exists_hit with ⟨_, _, _, schema⟩
  exact schema.overValue

theorem OperationEscapes.overValue {location : String} {pathParameters : List Tree}
    {entries : List (Tree × Tree)}
    (escape : OperationEscapes location pathParameters entries failure) : OverValue failure := by
  cases escape with
  | key _ compound => exact compound.overValue
  | parameter _ first =>
      rcases first.exists_hit with ⟨_, _, _, schema⟩
      exact schema.overValue
  | body _ _ escape => exact escape.overValue
  | response _ _ _ first =>
      rcases first.exists_hit with ⟨_, _, _, escape⟩
      exact escape.overValue
  | operationId => exact Or.inl ⟨_, _, rfl⟩

theorem PathEscapes.overValue {entry : Tree × Tree} (escape : PathEscapes entry failure) :
    OverValue failure := by
  rcases escape with ⟨_, _, item⟩
  cases item with
  | key _ compound => exact compound.overValue
  | operation _ _ escape =>
      rcases escape with ⟨_, _, _, _, _, _, _, _, _, _, _, _, operation⟩
      exact operation.overValue

theorem DocumentEscapes.overValue {tree : Tree} (escape : DocumentEscapes tree failure) :
    OverValue failure := by
  cases escape with
  | component _ escape => exact escape.overValue
  | path _ _ _ first =>
      rcases first.exists_hit with ⟨_, _, escape⟩
      exact escape.overValue

end Document
end RouteIR