import RouteIR.Proofs.Document.Parameters
import RouteIR.Proofs.Schema.Blame

namespace RouteIR

/-!
# The section that is to blame

A document is read section by section, and each section is checked before its parts are read
in their order.  So a document that is refused is refused for one section, which reading
comes to with everything before it in order, and for a check on that section alone.  Both are
stated here over the sections themselves: what a section is refused for on its own, which
parts it has, and the law that joins the two.
-/

theorem Schema.Refusal.located_under (location : String) (step : Step) (refusal : Refusal) :
    (refusal.under step).located location = refusal.located (location ++ step.text) := by
  cases refusal with
  | fault fault =>
      simp only [under, located, Fault.under, Fault.located, List.map_cons, String.join_cons,
        String.append_assoc]
  | formatNotText reason => rfl
  | illegible => rfl

namespace Document

/-- A section of a document, with what reading it depends on beside its tree. -/
inductive Section where
  | document (tree : Tree)
  | components (tree : Tree)
  | paths (entries : List (Tree × Tree))
  | path (entry : Tree × Tree)
  /-- An entry of a path item that names a method, which may have been named before. -/
  | operation (location : String) (pathParameters : List Tree) (repeated : Bool)
      (named : Method × Tree × Tree)
  | parameter (location : String) (tree : Tree)
  | body (location : String) (tree : Tree)
  | operationId (tree : Tree)
  | schema (location : String) (node : Tree)
  /-- What stands under a key that is read as a text and has none. -/
  | illegible

/-! ## Where schemas stand -/

/-- The place and the node of the schema in a parameter that is well-formed up to it. -/
def parameterNode? (location : String) : Tree -> Option (String × Tree)
  | .map entries _ =>
      match Tree.lookup? "$ref" entries, Tree.field "name" entries,
          ParameterLocation.ofTree? (Tree.field "in" entries), Tree.lookup? "schema" entries,
          (Tree.lookup? "required" entries).getD (.bool false) with
      | none, .str name, some _, some node, .bool _ =>
          if name.isEmpty then none else some (location ++ "." ++ name ++ ".schema", node)
      | _, _, _, _, _ => none
  | _ => none

theorem readParameter_of_node {location place : String} {parameter node : Tree}
    (found : parameterNode? location parameter = some (place, node)) :
    Exists fun change => readParameter location parameter =
      (readSchema place node).map change := by
  cases parameter with
  | map entries label =>
      rw [parameterNode?] at found
      split at found
      · next name location _ required plain nameFound placeFound schemaFound requiredFound =>
          split at found
          · cases found
          · next filled =>
              cases found
              have nameFilled : name.isEmpty = false := by simpa using filled
              exact ⟨_, readParameter_of_parts ⟨plain, nameFound, nameFilled, placeFound,
                schemaFound, requiredFound⟩ _ label⟩
      · cases found
  | _ => cases found

/-- The place and the node of the schema that a body carries, unless it hides the schema. -/
def bodyNode? (location : String) : Tree -> Option (String × Tree)
  | .map entries _ =>
      match Tree.lookup? "$ref" entries, Tree.lookup? "schema" entries,
          Tree.field "content" entries with
      | none, some node, _ => some (location ++ ".schema", node)
      | none, none, .map media _ => (firstMedia? media).bind fun carrier =>
          if carrier.1.isLegible then
            some (location ++ ".content." ++ carrier.1.display ++ ".schema", carrier.2)
          else none
      | _, _, _ => none
  | _ => none

theorem readBody_of_node {location place : String} {body node : Tree}
    (found : bodyNode? location body = some (place, node)) :
    readBody location body = (readSchema place node).map some := by
  cases body with
  | map entries label =>
      rw [bodyNode?] at found
      split at found
      · next plain schemaFound =>
          cases found
          simp only [readBody, plain, schemaFound]
      · next plain absent content =>
          rcases Option.bind_eq_some_iff.mp found with ⟨⟨mediaType, inner⟩, first, same⟩
          split at same
          · next legible =>
              cases same
              simp only [readBody, plain, absent, content, first,
                Tree.withText_of_isLegible legible]
          · cases same
      · cases found
  | _ => cases found

/-! ## What a section is refused for -/

/-- The failure of a parameter list as such: it is no list, or its entries are not told apart. -/
def listFault? (location : String) (tree : Tree) : Option Failure :=
  (Outcome.failure? (listOf location (Tree.field "parameters" tree.entries))).or
    (Outcome.failure? (checkUnique location [] (parameterList tree)))

namespace Section

/-- The failure that reading a section ends with. -/
def failure? : Section -> Option Failure
  | document tree => Outcome.failure? (read tree)
  | components tree => Outcome.failure? (readComponents tree)
  | paths entries => Outcome.failure? (readPaths entries)
  | path entry => Outcome.failure? (readPath entry)
  | operation location pathParameters repeated named =>
      if repeated then
        some (.ofRule (location ++ "." ++ named.2.1.display) (.invalid .duplicateMethod))
      else Outcome.failure? (readNamed location pathParameters named)
  | parameter location tree => Outcome.failure? (readParameter location tree)
  | body location tree => Outcome.failure? (readBody location tree)
  | operationId tree => Outcome.failure? (readOperationId tree)
  | schema location node => Outcome.failure? (readSchema location node)
  | illegible => some .illegible

/-- The failure that a section gives rise to by itself, whatever its parts are. -/
def fault? : Section -> Option Failure
  | document (.map entries _) => Outcome.failure? (checkVersion entries)
  | document _ => some (.ofRule "" (.malformed .rootNotMapping))
  | components .null => none
  | components (.map sections _) =>
      match Tree.field "schemas" sections with
      | .null | .map _ _ => none
      | _ => some (.ofRule "components.schemas" (.malformed .schemasNotMapping))
  | components _ => some (.ofRule "components" (.malformed .componentsNotMapping))
  | paths entries =>
      match Tree.lookup? "paths" entries with
      | none => some (.ofRule "" (.malformed .pathsMissing))
      | some (.map _ _) => none
      | some _ => some (.ofRule "paths" (.malformed .pathsNotMapping))
  | path (key, item) =>
      if key.isLegible then
        let here := "paths." ++ key.display
        match pathOf? key, item with
        | none, _ => some (.ofRule here (.malformed .pathWithoutSlash))
        | some _, .map entries _ =>
            match Tree.lookup? "$ref" entries with
            | some target => some (.ofRule here (Reference.refuse target .pathItemReference))
            | none => listFault? (here ++ ".parameters") item
        | some _, _ => some (.ofRule here (.malformed .pathItemNotMapping))
      else some .illegible
  | operation location _ repeated (_, key, value) =>
      let here := location ++ "." ++ key.display
      if repeated then some (.ofRule here (.invalid .duplicateMethod))
      else match value with
        | .map entries _ => (listFault? (here ++ ".parameters") value).or
            (Outcome.failure? (responsesOf (here ++ ".responses") (Tree.field "responses" entries)))
        | _ => some (.ofRule here (.malformed .operationNotMapping))
  | parameter location tree =>
      if (parameterNode? location tree).isSome then none
      else Outcome.failure? (readParameter location tree)
  | body location tree =>
      if (bodyNode? location tree).isSome then none
      else Outcome.failure? (readBody location tree)
  | operationId tree => Outcome.failure? (readOperationId tree)
  | schema location node => (Schema.refusal? node).map fun refusal => refusal.located location
  | illegible => some .illegible

/-- A section under a key that is read as a text. -/
def underKey (key : Tree) (part : Section) : Section := if key.isLegible then part else illegible

/-- A schema inside another one. -/
def ofChild (location : String) : Option (Step × Tree) -> Section
  | none => illegible
  | some child => schema (location ++ child.1.text) child.2

/-- The entries of a path item that name a method, with the methods named before. -/
def operations (location : String) (pathParameters : List Tree) :
    List Method -> List (Tree × Tree) -> List Section
  | _, [] => []
  | seen, (key, value) :: rest =>
      if key.isLegible then
        match Method.ofKey? key with
        | none => operations location pathParameters seen rest
        | some method =>
            operation location pathParameters (seen.contains method) (method, key, value) ::
              operations location pathParameters (method :: seen) rest
      else illegible :: operations location pathParameters seen rest

/-- The parts of a section in the order in which they are read. -/
def parts : Section -> List Section
  | document tree =>
      [components (Tree.field "components" tree.entries), paths tree.entries]
  | components tree => (Tree.field "schemas" tree.entries).entries.map fun entry =>
      underKey entry.1 (schema ("components.schemas." ++ entry.1.display) entry.2)
  | paths entries => (Tree.field "paths" entries).entries.map path
  | path (key, item) =>
      operations ("paths." ++ key.display) (parameterList item) [] item.entries
  | operation location pathParameters _ (_, key, value) =>
      let here := location ++ "." ++ key.display
      (mergeParameters pathParameters (parameterList value)).map
          (parameter (here ++ ".parameters")) ++
        [body (here ++ ".requestBody") (Tree.field "requestBody" value.entries)] ++
        ((Tree.field "responses" value.entries).entries.map fun entry =>
          underKey entry.1 (body (here ++ ".responses" ++ "." ++ entry.1.display) entry.2)) ++
        [operationId (Tree.field "operationId" value.entries)]
  | parameter location tree => (parameterNode? location tree).toList.map fun found =>
      schema found.1 found.2
  | body location tree => (bodyNode? location tree).toList.map fun found =>
      schema found.1 found.2
  | operationId _ | illegible => []
  | schema location node => (Schema.children node).map (ofChild location)

/-! ## The law -/

@[simp] theorem failure?_parameter (location : String) (tree : Tree) :
    (parameter location tree).failure? = Outcome.failure? (readParameter location tree) := rfl

@[simp] theorem failure?_body (location : String) (tree : Tree) :
    (body location tree).failure? = Outcome.failure? (readBody location tree) := rfl

@[simp] theorem failure?_schema (location : String) (node : Tree) :
    (schema location node).failure? = Outcome.failure? (readSchema location node) := rfl

/-- A section is refused for itself, or else for its first part that is refused. -/
def Lawful (part : Section) : Prop :=
  part.failure? = part.fault?.or (part.parts.findSome? failure?)

@[simp] theorem failure?_underKey (key : Tree) (part : Section) {α : Type}
    {outcome : Except Failure α} (same : part.failure? = Outcome.failure? outcome) :
    (underKey key part).failure? = Outcome.failure? (key.withText .illegible outcome) := by
  rw [underKey, Tree.withText]
  split
  · exact same
  · rfl

theorem failure?_child (location : String) (child : Option (Step × Tree)) :
    failure? (ofChild location child) =
      (Schema.refusalUnder? child).map fun refusal => refusal.located location := by
  cases child with
  | none => rfl
  | some child =>
      rw [ofChild, failure?_schema, readSchema, Outcome.failure?_mapError, Schema.refusalUnder?,
        Option.map_map]
      congr 1
      funext refusal
      exact (Schema.Refusal.located_under location child.1 refusal).symm

theorem lawful_schema (location : String) (node : Tree) : Lawful (schema location node) := by
  have own : (schema location node).fault? =
      (Schema.refusal? node).map fun refusal => refusal.located location := rfl
  have inner : (schema location node).parts = (Schema.children node).map (ofChild location) := rfl
  rw [Lawful, own, inner, failure?_schema, readSchema, Outcome.failure?_mapError,
    Schema.failure?_read, List.findSome?_map, Option.map_or, List.map_findSome?]
  congr 2
  funext child
  exact (failure?_child location child).symm

theorem lawful_parameter (location : String) (tree : Tree) : Lawful (parameter location tree) := by
  have own : (parameter location tree).fault? =
      if (parameterNode? location tree).isSome then none
      else Outcome.failure? (readParameter location tree) := rfl
  have inner : (parameter location tree).parts =
      (parameterNode? location tree).toList.map fun found => schema found.1 found.2 := rfl
  rw [Lawful, own, inner, failure?_parameter]
  cases found : parameterNode? location tree with
  | none => simp
  | some placed =>
      rcases readParameter_of_node found with ⟨change, same⟩
      simp [same]

theorem lawful_body (location : String) (tree : Tree) : Lawful (body location tree) := by
  have own : (body location tree).fault? =
      if (bodyNode? location tree).isSome then none
      else Outcome.failure? (readBody location tree) := rfl
  have inner : (body location tree).parts =
      (bodyNode? location tree).toList.map fun found => schema found.1 found.2 := rfl
  rw [Lawful, own, inner, failure?_body]
  cases found : bodyNode? location tree with
  | none => simp
  | some placed => simp [readBody_of_node found]

theorem lawful_operationId (tree : Tree) : Lawful (operationId tree) := by
  have own : (operationId tree).fault? = (operationId tree).failure? := rfl
  have inner : (operationId tree).parts = [] := rfl
  rw [Lawful, own, inner]
  simp

theorem failure?_listed {α : Type} (location : String) (entries : List (Tree × Tree))
    (label : Option Label) (next : List Tree -> Except Failure α) :
    Outcome.failure? (do
      let declared ← listOf location (Tree.field "parameters" entries)
      checkUnique location [] declared
      next declared) = (listFault? location (.map entries label)).or
        (Outcome.failure? (next (parameterList (.map entries label)))) := by
  rw [listFault?, Option.or_assoc]
  apply Outcome.failure?_bind
  intro declared listed
  rw [parameterList, Tree.entries, ← listOf_eq_ok listed]
  exact Outcome.failure?_bind fun _ _ => rfl

theorem failure?_readResponse (location : String) (entry : Tree × Tree) :
    Outcome.failure? (readResponse location entry) =
      failure? (underKey entry.1 (body (location ++ "." ++ entry.1.display) entry.2)) := by
  rw [readResponse, Outcome.failure?_map, failure?_underKey _ _ (failure?_body _ _)]

theorem lawful_operation (location : String) (pathParameters : List Tree) (repeated : Bool)
    (named : Method × Tree × Tree) :
    Lawful (operation location pathParameters repeated named) := by
  rcases named with ⟨method, key, value⟩
  rw [Lawful, failure?]
  cases repeated with
  | true => rfl
  | false =>
      cases value with
      | map entries label =>
          simp only [Bool.false_eq_true, if_false, readNamed, readOperation, fault?]
          rw [failure?_listed _ _ label, Option.or_assoc]
          congr 1
          apply Outcome.failure?_bind
          intro responses responsesFound
          rw [responsesOf_eq_ok responsesFound, readParameters_eq_mapM, readResponses_eq_mapM,
            Outcome.failure?_bind fun parameters _ => Outcome.failure?_bind fun requestBody _ =>
              Outcome.failure?_bind fun responses _ => Outcome.failure?_bind_pure _ _,
            Outcome.failure?_mapM, Outcome.failure?_mapM]
          simp only [parts, List.findSome?_append, List.findSome?_map, List.findSome?_singleton,
            Option.or_assoc, failure?_readResponse]
          rfl
      | _ => rfl

/-- The entries of a path item that name a method are read in their order, each of them
under the methods that were named before. -/
theorem failure?_readOperations (location : String) (pathParameters : List Tree)
    (seen : List Method) (entries : List (Tree × Tree)) :
    Outcome.failure? (readOperations location pathParameters seen entries) =
      (operations location pathParameters seen entries).findSome? failure? := by
  induction entries generalizing seen with
  | nil => rfl
  | cons entry rest ih =>
      rcases entry with ⟨key, value⟩
      rw [readOperations, Tree.withText, operations]
      cases key.isLegible with
      | false => rfl
      | true =>
          simp only [if_true]
          cases Method.ofKey? key with
          | none => exact ih seen
          | some method =>
              dsimp only
              rw [List.findSome?_cons, failure?]
              cases seen.contains method with
              | true => rfl
              | false =>
                  cases value with
                  | map inner label =>
                      simp only [Bool.false_eq_true, if_false, readNamed]
                      rw [Outcome.failure?_bind fun operation _ => Outcome.failure?_bind_pure _ _,
                        ih]
                      cases Outcome.failure? (readOperation method
                        (location ++ "." ++ key.display) pathParameters inner) <;> rfl
                  | _ => rfl

theorem lawful_path (entry : Tree × Tree) : Lawful (path entry) := by
  rcases entry with ⟨key, item⟩
  rw [Lawful, failure?, parts, readPath, fault?, Tree.withText]
  cases key.isLegible with
  | false => rfl
  | true =>
      simp only [if_true]
      cases pathOf? key with
      | none => rfl
      | some template =>
          cases item with
          | map entries label =>
              dsimp only
              cases Tree.lookup? "$ref" entries with
              | some target => rfl
              | none =>
                  dsimp only
                  rw [Outcome.failure?_map, readPathItem, failure?_listed _ _ label,
                    failure?_readOperations]
                  rfl
          | _ => rfl

theorem failure?_readComponent (entry : Tree × Tree) :
    Outcome.failure? (readComponent entry) = failure?
      (underKey entry.1 (schema ("components.schemas." ++ entry.1.display) entry.2)) := by
  rw [readComponent, Outcome.failure?_map, failure?_underKey _ _ (failure?_schema _ _)]

theorem lawful_components (tree : Tree) : Lawful (components tree) := by
  rw [Lawful, failure?, parts, List.findSome?_map]
  cases tree with
  | map sections label =>
      simp only [readComponents, fault?, Tree.entries]
      cases declared : Tree.field "schemas" sections with
      | map schemas schemasLabel =>
          simp only [Outcome.failure?_map, readComponentList_eq_mapM, Outcome.failure?_mapM,
            failure?_readComponent]
          rfl
      | _ => rfl
  | _ => rfl

theorem lawful_paths (entries : List (Tree × Tree)) : Lawful (paths entries) := by
  rw [Lawful, failure?, parts, List.findSome?_map, readPaths, fault?, Tree.field]
  cases declared : Tree.lookup? "paths" entries with
  | none => rfl
  | some value =>
      cases value with
      | map inner label =>
          simp only [Outcome.failure?_map, readPathList_eq_mapM, Outcome.failure?_mapM]
          rfl
      | _ => rfl

theorem lawful_document (tree : Tree) : Lawful (document tree) := by
  rw [Lawful, failure?, parts]
  cases tree with
  | map entries label =>
      rw [read, Outcome.failure?_bind fun _ _ => Outcome.failure?_bind fun _ _ =>
        Outcome.failure?_bind_pure _ _]
      simp only [List.findSome?_cons, List.findSome?_nil, failure?, fault?, Tree.entries]
      cases Outcome.failure? (readComponents (Tree.field "components" entries)) with
      | some failure => rfl
      | none => cases Outcome.failure? (readPaths entries) <;> rfl
  | _ => rfl

/-- A section is refused for itself, or else for its first part that is refused. -/
theorem lawful (part : Section) : Lawful part := by
  cases part with
  | document tree => exact lawful_document tree
  | components tree => exact lawful_components tree
  | paths entries => exact lawful_paths entries
  | path entry => exact lawful_path entry
  | operation location pathParameters repeated named =>
      exact lawful_operation location pathParameters repeated named
  | parameter location tree => exact lawful_parameter location tree
  | body location tree => exact lawful_body location tree
  | operationId tree => exact lawful_operationId tree
  | schema location node => exact lawful_schema location node
  | illegible => rfl

/-! ## Blame -/

/-- Reading a section comes to another one inside it: what is checked and what is read before
is in order. -/
inductive Reaches : Section -> Section -> Prop
  | here {whole : Section} : Reaches whole whole
  | part {whole part inner : Section} {before after : List Section} (sound : whole.fault? = none)
      (split : whole.parts = before ++ part :: after)
      (earlier : forall other, other ∈ before -> other.failure? = none)
      (within : Reaches part inner) : Reaches whole inner

/-- Reading a section comes to another one that gives rise to a failure by itself. -/
def Blames (whole : Section) (failure : Failure) : Prop :=
  Exists fun inner => whole.Reaches inner ∧ inner.fault? = some failure

variable {whole : Section} {failure : Failure}

/-- A section fails with what a section that reading it comes to fails with. -/
theorem Reaches.failure?_eq {inner : Section} (reaches : whole.Reaches inner)
    (failed : inner.failure? = some failure) : whole.failure? = some failure := by
  induction reaches with
  | here => exact failed
  | part sound split earlier _ ih =>
      rw [lawful, sound, Option.none_or, split, Outcome.findSome?_eq_some_iff]
      exact ⟨_, _, _, rfl, earlier, ih failed⟩

theorem failure?_of_fault? (faulty : whole.fault? = some failure) :
    whole.failure? = some failure := by
  rw [lawful, faulty, Option.some_or]

/-- Blame passes from the parts of a section to the section. -/
theorem blames_of_parts
    (ofPart : whole.fault? = none -> forall part, part ∈ whole.parts ->
      part.failure? = some failure -> part.Blames failure)
    (failed : whole.failure? = some failure) : whole.Blames failure := by
  cases own : whole.fault? with
  | some other =>
      rw [lawful, own, Option.some_or] at failed
      exact ⟨whole, .here, own.trans failed⟩
  | none =>
      rw [lawful, own, Option.none_or, Outcome.findSome?_eq_some_iff] at failed
      rcases failed with ⟨before, part, after, split, earlier, partFailed⟩
      have member : part ∈ whole.parts := by simp [split]
      rcases ofPart own part member partFailed with ⟨inner, reaches, faulty⟩
      exact ⟨inner, .part own split earlier reaches, faulty⟩

theorem blames_illegible (failed : illegible.failure? = some failure) :
    illegible.Blames failure := ⟨illegible, .here, failed⟩

theorem blames_underKey {key : Tree} {part : Section}
    (ofPart : part.failure? = some failure -> part.Blames failure) :
    (underKey key part).failure? = some failure -> (underKey key part).Blames failure := by
  rw [underKey]
  split
  · exact ofPart
  · exact blames_illegible

theorem blames_schema (node : Tree) : forall location failure,
    (schema location node).failure? = some failure ->
      (schema location node).Blames failure := by
  apply Schema.holds_of_children (motive := fun node => forall location failure,
    (schema location node).failure? = some failure -> (schema location node).Blames failure)
  intro node ofChild location failure
  apply blames_of_parts
  intro _ part member
  rcases List.mem_map.mp member with ⟨child, childMember, rfl⟩
  cases child with
  | none => exact blames_illegible
  | some child => exact ofChild child childMember _ failure

/-- Blame passes from parts that are made alike to the section that they are made for. -/
theorem blames_of_map {α : Type} {items : List α} {make : α -> Section}
    (same : whole.parts = items.map make)
    (ofItem : forall item, (make item).failure? = some failure -> (make item).Blames failure)
    (failed : whole.failure? = some failure) : whole.Blames failure := by
  refine blames_of_parts ?_ failed
  intro _ part member
  rw [same] at member
  rcases List.mem_map.mp member with ⟨item, _, rfl⟩
  exact ofItem item

theorem blames_parameter (location : String) (tree : Tree) :
    (parameter location tree).failure? = some failure ->
      (parameter location tree).Blames failure :=
  blames_of_map rfl fun _ => blames_schema _ _ _

theorem blames_body (location : String) (tree : Tree) :
    (body location tree).failure? = some failure -> (body location tree).Blames failure :=
  blames_of_map rfl fun _ => blames_schema _ _ _

theorem blames_operation (location : String) (pathParameters : List Tree) (repeated : Bool)
    (named : Method × Tree × Tree)
    (failed : (operation location pathParameters repeated named).failure? = some failure) :
    (operation location pathParameters repeated named).Blames failure := by
  refine blames_of_parts ?_ failed
  intro _ part member
  simp only [parts, List.mem_append, List.mem_map, List.mem_singleton] at member
  rcases member with ((⟨entry, _, rfl⟩ | rfl) | ⟨entry, _, rfl⟩) | rfl
  · exact blames_parameter _ _
  · exact blames_body _ _
  · exact blames_underKey (blames_body _ _)
  · apply blames_of_parts
    intro _ part nowhere
    cases nowhere

theorem exists_of_mem_operations {location : String} {pathParameters : List Tree}
    {seen : List Method} {entries : List (Tree × Tree)} {part : Section}
    (member : part ∈ operations location pathParameters seen entries) :
    part = illegible ∨ Exists fun repeated => Exists fun named =>
      part = operation location pathParameters repeated named := by
  induction entries generalizing seen with
  | nil => cases member
  | cons entry rest ih =>
      rw [operations] at member
      split at member
      · split at member
        · exact ih member
        · rcases List.mem_cons.mp member with rfl | later
          · exact Or.inr ⟨_, _, rfl⟩
          · exact ih later
      · rcases List.mem_cons.mp member with rfl | later
        · exact Or.inl rfl
        · exact ih later

theorem blames_path (entry : Tree × Tree) (failed : (path entry).failure? = some failure) :
    (path entry).Blames failure := by
  refine blames_of_parts ?_ failed
  intro _ part member
  rcases exists_of_mem_operations member with rfl | ⟨repeated, named, rfl⟩
  · exact blames_illegible
  · exact blames_operation _ _ _ _

theorem blames_components (tree : Tree) :
    (components tree).failure? = some failure -> (components tree).Blames failure :=
  blames_of_map rfl fun _ => blames_underKey (blames_schema _ _ _)

theorem blames_paths (entries : List (Tree × Tree)) :
    (paths entries).failure? = some failure -> (paths entries).Blames failure :=
  blames_of_map rfl blames_path

theorem blames_document (tree : Tree) (failed : (document tree).failure? = some failure) :
    (document tree).Blames failure := by
  refine blames_of_parts ?_ failed
  intro _ part member
  simp only [parts, List.mem_cons, List.not_mem_nil, or_false] at member
  rcases member with rfl | rfl
  · exact blames_components _
  · exact blames_paths _

/-- A section that another one consists of, at any depth. -/
inductive Inside : Section -> Section -> Prop
  | here {whole : Section} : Inside whole whole
  | part {whole part inner : Section} (member : part ∈ whole.parts) (within : Inside part inner) :
      Inside whole inner

theorem Reaches.inside {inner : Section} (reaches : whole.Reaches inner) : whole.Inside inner := by
  induction reaches with
  | here => exact .here
  | part _ split _ _ ih =>
      refine .part ?_ ih
      rw [split]
      exact List.mem_append_right _ List.mem_cons_self

/-- Reading a section that can be read comes to all that it consists of. -/
theorem Inside.reaches {inner : Section} (inside : whole.Inside inner)
    (accepted : whole.failure? = none) : whole.Reaches inner := by
  induction inside with
  | here => exact .here
  | part member _ ih =>
      rw [lawful, Option.or_eq_none_iff, List.findSome?_eq_none_iff] at accepted
      rcases List.append_of_mem member with ⟨before, after, split⟩
      refine .part accepted.1 split ?_ (ih (accepted.2 _ member))
      intro other earlier
      apply accepted.2
      rw [split]
      exact List.mem_append_left _ earlier

end Section

/-- A document is refused for what some section that reading comes to gives rise to by
itself. -/
theorem read_eq_error_iff (tree : Tree) (failure : Failure) :
    read tree = .error failure ↔ (Section.document tree).Blames failure := by
  rw [← Outcome.failure?_eq_some_iff]
  constructor
  · exact Section.blames_document tree
  · intro blames
    rcases blames with ⟨inner, reaches, faulty⟩
    exact reaches.failure?_eq (Section.failure?_of_fault? faulty)

/-- A document is refused for whatever a section is refused for that reading comes to. -/
theorem read_eq_error_of_reached {tree : Tree} {inner : Section} {failure : Failure}
    (reached : (Section.document tree).Reaches inner) (failed : inner.failure? = some failure) :
    read tree = .error failure :=
  Outcome.failure?_eq_some_iff.mp (reached.failure?_eq failed)

/-- In a document that is read, no section gives rise to a failure. -/
theorem fault?_eq_none_of_read {tree : Tree} {document : Document}
    (readOk : read tree = .ok document) {inner : Section}
    (inside : (Section.document tree).Inside inner) : inner.fault? = none := by
  have accepted : (Section.document tree).failure? = none :=
    Outcome.failure?_eq_none_iff.mpr ⟨document, readOk⟩
  cases faulty : inner.fault? with
  | none => rfl
  | some failure =>
      have refused := (inside.reaches accepted).failure?_eq (Section.failure?_of_fault? faulty)
      rw [accepted] at refused
      cases refused

end Document
end RouteIR
