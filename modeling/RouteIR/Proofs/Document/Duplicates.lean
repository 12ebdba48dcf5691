import RouteIR.Proofs.Document.Sections

namespace RouteIR
namespace Document

/-!
# Duplicate parameters

A parameter list is checked for duplicates before any entry of it is read, so references
take part in the check with whatever stands under their name and place, which mostly is
nothing.  A list is refused for a duplicate exactly when a mapping of it is identified like
one before.  As long as no reference, and no mapping without a text for its name, is
identified like another mapping, that is a duplicate parameter in the proper sense, and
references are refused as what they are.
-/

open Outcome (Succeeds)

/-! ## The check of a list -/

/-- A mapping of a list is identified like one before it, and nothing before that one is
amiss.  The place is the one that is reported, where the name has a text. -/
inductive Repeats (location : String) : List Tree -> String -> Prop
  | intro {before after : List Tree} {entries : List (Tree × Tree)} {label : Option Label}
      {key : Identity × Identity} (identified : Identified [] before)
      (keyed : parameterKey entries = .ok key) (again : key ∈ parameterKeys before)
      (named : (Tree.field "name" entries).isLegible = true) :
      Repeats location (before ++ .map entries label :: after)
        (location ++ "." ++ (Tree.field "name" entries).display)

/-- What is reported of a mapping that is identified like another one. -/
def Reported (location : String) (entries : List (Tree × Tree)) (violation : Violation) : Prop :=
  (Tree.field "name" entries).isLegible = true ∧
    violation = ⟨location ++ "." ++ (Tree.field "name" entries).display,
      .invalid .duplicateParameter⟩

/-- A mapping of a list that is identified like one before it or one of those seen. -/
def RepeatsSeen (location : String) (seen : List (Identity × Identity)) (parameters : List Tree)
    (violation : Violation) : Prop :=
  Exists fun before => Exists fun entries => Exists fun label => Exists fun after =>
    Exists fun key => parameters = before ++ .map entries label :: after ∧
      Identified seen before ∧ parameterKey entries = .ok key ∧
      (key ∈ seen ∨ key ∈ parameterKeys before) ∧ Reported location entries violation

theorem repeatsSeen_cons_other_iff {location : String} {seen : List (Identity × Identity)}
    {parameter : Tree} (other : forall entries label, parameter ≠ .map entries label)
    (rest : List Tree) (violation : Violation) :
    RepeatsSeen location seen (parameter :: rest) violation ↔
      RepeatsSeen location seen rest violation := by
  constructor
  · rintro ⟨before, entries, label, after, key, split, identified, keyed, again, same⟩
    cases before with
    | nil =>
        rcases List.cons.inj split with ⟨rfl, _⟩
        exact absurd rfl (other entries label)
    | cons first before =>
        rcases List.cons.inj split with ⟨rfl, rfl⟩
        rw [identified_cons_other_iff seen other] at identified
        rw [parameterKeys_cons_other other] at again
        exact ⟨before, entries, label, after, key, rfl, identified, keyed, again, same⟩
  · rintro ⟨before, entries, label, after, key, rfl, identified, keyed, again, same⟩
    refine ⟨parameter :: before, entries, label, after, key, rfl, ?_, keyed, ?_, same⟩
    · exact (identified_cons_other_iff seen other before).mpr identified
    · rw [parameterKeys_cons_other other]
      exact again

theorem repeatsSeen_cons_map_iff {location : String} {seen : List (Identity × Identity)}
    (entries : List (Tree × Tree)) (label : Option Label) (rest : List Tree)
    (violation : Violation) :
    RepeatsSeen location seen (.map entries label :: rest) violation ↔ Exists fun key =>
      parameterKey entries = .ok key ∧
        ((key ∈ seen ∧ Reported location entries violation) ∨
          (key ∉ seen ∧ RepeatsSeen location (key :: seen) rest violation)) := by
  constructor
  · rintro ⟨before, inner, innerLabel, after, key, split, identified, keyed, again, same⟩
    cases before with
    | nil =>
        cases split
        exact ⟨key, keyed, Or.inl ⟨again.resolve_right List.not_mem_nil, same⟩⟩
    | cons first before =>
        cases split
        rcases (identified_cons_map_iff _ _ _ _).mp identified with ⟨firstKey, found, new, later⟩
        refine ⟨firstKey, found, Or.inr ⟨new, before, inner, innerLabel, after, key, rfl, later,
          keyed, ?_, same⟩⟩
        rw [parameterKeys_cons_map found, List.mem_cons] at again
        rw [List.mem_cons]
        tauto
  · rintro ⟨firstKey, found, ⟨old, same⟩ |
      ⟨new, before, inner, innerLabel, after, key, rfl, later, keyed, again, same⟩⟩
    · exact ⟨[], entries, label, rest, firstKey, rfl, identified_nil seen, found, Or.inl old, same⟩
    · refine ⟨.map entries label :: before, inner, innerLabel, after, key, rfl, ?_, keyed, ?_, same⟩
      · exact (identified_cons_map_iff _ _ _ _).mpr ⟨firstKey, found, new, later⟩
      · rw [parameterKeys_cons_map found, List.mem_cons]
        rw [List.mem_cons] at again
        tauto

theorem checkUnique_eq_rule_iff (location : String) (seen : List (Identity × Identity))
    (parameters : List Tree) (violation : Violation) :
    checkUnique location seen parameters = .error (.rule violation) ↔
      RepeatsSeen location seen parameters violation := by
  fun_induction checkUnique location seen parameters with
  | case1 seen => simp [RepeatsSeen]
  | case2 seen entries label rest kind compound =>
      rw [repeatsSeen_cons_map_iff, compound]
      simp
  | case3 seen entries label rest key keyFound taken name =>
      have old : key ∈ seen := by simpa using taken
      rw [repeatsSeen_cons_map_iff, keyFound, Tree.withText_eq_error_iff]
      constructor
      · rintro (⟨_, ⟨⟩⟩ | ⟨named, same⟩)
        refine ⟨key, rfl, Or.inl ⟨old, named, ?_⟩⟩
        cases same
        rfl
      · rintro ⟨_, found, ⟨_, named, rfl⟩ | ⟨new, _⟩⟩
        · exact Or.inr ⟨named, rfl⟩
        · cases found
          exact absurd old new
  | case4 seen entries label rest key keyFound fresh ih =>
      have new : key ∉ seen := by simpa using fresh
      rw [ih, repeatsSeen_cons_map_iff, keyFound]
      simp [new]
  | case5 seen parameter rest other ih =>
      rw [ih, repeatsSeen_cons_other_iff]
      exact other

theorem checkUnique_eq_duplicate_iff (location place : String) (parameters : List Tree) :
    checkUnique location [] parameters = .error (.rule ⟨place, .invalid .duplicateParameter⟩) ↔
      Repeats location parameters place := by
  rw [checkUnique_eq_rule_iff]
  constructor
  · rintro ⟨before, entries, label, after, key, rfl, identified, keyed, again, named, same⟩
    cases same
    exact .intro identified keyed (again.resolve_left List.not_mem_nil) named
  · rintro ⟨identified, keyed, again, named⟩
    exact ⟨_, _, _, _, _, rfl, identified, keyed, Or.inr again, named, rfl⟩

theorem listFault?_eq_duplicate_iff (location place : String) (entries : List (Tree × Tree))
    (label : Option Label) :
    listFault? location (.map entries label) =
        some (.rule ⟨place, .invalid .duplicateParameter⟩) ↔
      Exists fun parameters =>
        listOf location (Tree.field "parameters" entries) = .ok parameters ∧
          Repeats location parameters place := by
  rw [listFault?, Tree.entries]
  cases listed : listOf location (Tree.field "parameters" entries) with
  | ok parameters =>
      rw [parameterList, Tree.entries, ← listOf_eq_ok listed, Outcome.failure?_ok, Option.none_or,
        Outcome.failure?_eq_some_iff, checkUnique_eq_duplicate_iff]
      simp
  | error failure =>
      have malformed : failure = .ofRule location (.malformed .parametersNotList) := by
        cases declared : Tree.field "parameters" entries <;> rw [declared] at listed <;>
          cases listed <;> rfl
      simp [malformed, Failure.ofRule]

/-! ## Which sections are refused for a duplicate -/

/-- A parameter list that reading a document comes to check, and where it stands. -/
inductive Checks (tree : Tree) : String -> List Tree -> Prop
  | ofPath {key : Tree} {template : String} {entries : List (Tree × Tree)} {label : Option Label}
      {parameters : List Tree}
      (reached : (Section.document tree).Reaches (.path (key, .map entries label)))
      (named : pathOf? key = some template) (plain : Tree.lookup? "$ref" entries = none)
      (listed : listOf ("paths." ++ key.display ++ ".parameters")
        (Tree.field "parameters" entries) = .ok parameters) :
      Checks tree ("paths." ++ key.display ++ ".parameters") parameters
  | ofOperation {location : String} {pathParameters : List Tree} {method : Method} {key : Tree}
      {entries : List (Tree × Tree)} {label : Option Label} {parameters : List Tree}
      (reached : (Section.document tree).Reaches
        (.operation location pathParameters false (method, key, .map entries label)))
      (listed : listOf (location ++ "." ++ key.display ++ ".parameters")
        (Tree.field "parameters" entries) = .ok parameters) :
      Checks tree (location ++ "." ++ key.display ++ ".parameters") parameters

theorem rule_of_objectParts {entries : List (Tree × Tree)} {fault : Fault}
    (refused : Schema.objectParts entries = .error fault) :
    fault.rule ≠ .invalid .duplicateParameter := by
  intro duplicate
  unfold Schema.objectParts at refused
  split at refused
  · next rule found =>
      cases refused
      unfold Schema.propertiesOf at found
      split at found
      · cases found
      · split at found <;> cases found
        cases duplicate
  · next rule _ found =>
      cases refused
      unfold Schema.requiredOf at found
      dsimp only at found
      split at found
      · cases found
      · split at found
        · split at found <;> cases found
          cases duplicate
        · cases found
          cases duplicate
  · split at refused
    · cases refused
      cases duplicate
    · split at refused
      · cases refused
        cases duplicate
      · split at refused <;> cases refused
        cases duplicate

theorem rule_of_parse {target : Tree} {rule : Rule}
    (refused : Reference.parse target = .error rule) : rule ≠ .invalid .duplicateParameter := by
  intro duplicate
  unfold Reference.parse at refused
  split at refused
  · split at refused
    · cases refused
      cases duplicate
    · dsimp only at refused
      split at refused <;> cases refused
      cases duplicate
  · cases refused
    cases duplicate

theorem rule_of_readEnum {values : Tree} {rule : Rule}
    (refused : Schema.readEnum values = .error rule) : rule ≠ .invalid .duplicateParameter := by
  intro duplicate
  unfold Schema.readEnum at refused
  split at refused
  · next literals _ =>
      rw [Outcome.map_eq_error_iff] at refused
      induction literals with
      | nil => cases refused
      | cons value rest ih =>
          rw [Schema.readLiterals] at refused
          split at refused
          · cases refused
            cases duplicate
          · exact ih (Outcome.map_eq_error_iff.mp refused)
  · cases refused
    cases duplicate

/-- No check on a schema node speaks of parameters. -/
theorem rule_of_refusal? {node : Tree} {fault : Fault}
    (refused : Schema.refusal? node = some (.fault fault)) :
    fault.rule ≠ .invalid .duplicateParameter := by
  intro duplicate
  cases node with
  | map entries label =>
      rw [Schema.refusal?] at refused
      cases recognised : Schema.form entries with
      | reference target =>
          simp only [recognised, Option.map_eq_some_iff] at refused
          rcases refused with ⟨rule, failed, same⟩
          cases same
          exact rule_of_parse (Outcome.failure?_eq_some_iff.mp failed) duplicate
      | enumeration values =>
          simp only [recognised, Option.map_eq_some_iff] at refused
          rcases refused with ⟨rule, failed, same⟩
          cases same
          exact rule_of_readEnum (Outcome.failure?_eq_some_iff.mp failed) duplicate
      | object =>
          simp only [recognised, Option.map_eq_some_iff] at refused
          rcases refused with ⟨found, failed, same⟩
          cases same
          exact rule_of_objectParts (Outcome.failure?_eq_some_iff.mp failed) duplicate
      | array =>
          simp only [recognised] at refused
          split at refused <;> cases refused
          cases duplicate
      | primitive kind =>
          simp only [recognised, Outcome.failure?_eq_some_iff] at refused
          exact absurd refused (Schema.readPrimitive_ne_fault kind entries fault)
      | composition keyword =>
          simp only [recognised] at refused
          cases refused
          cases duplicate
      | untyped =>
          simp only [recognised] at refused
          cases refused
          cases duplicate
      | unknown type =>
          simp only [recognised] at refused
          cases refused
          cases duplicate
  | _ =>
      cases refused
      cases duplicate

/-- A parameter that contradicts itself is well-formed up to its schema. -/
theorem parameterNode?_isSome_of_invalid {location place : String} {parameter : Tree}
    {reason : Inconsistency}
    (refused : readParameter location parameter = .error (.rule ⟨place, .invalid reason⟩)) :
    (parameterNode? location parameter).isSome = true := by
  rcases formal_or_parts_of_parameter location parameter with
    ⟨_, rule, formal, formalRefused⟩ | ⟨entries, label, name, _, required, node, rfl, parts⟩
  · rw [refused] at formalRefused
    cases formalRefused
    cases formal
  · simp [parameterNode?, parts.plain, parts.nameFound, parts.nameFilled, parts.placeFound,
      parts.schemaFound, parts.requiredFound]

theorem bodyNode?_isSome_of_invalid {location place : String} {body : Tree}
    {reason : Inconsistency}
    (refused : readBody location body = .error (.rule ⟨place, .invalid reason⟩)) :
    (bodyNode? location body).isSome = true := by
  rcases formal_or_carries_of_body location body with
    empty | ⟨_, rule, formal, formalRefused⟩ | ⟨node, carries⟩
  · rw [refused] at empty
    cases empty
  · rw [refused] at formalRefused
    cases formalRefused
    cases formal
  · cases carries with
    | direct plain found => simp [bodyNode?, plain, found]
    | @media _ _ _ _ mediaType _ plain absent content first =>
        cases legible : mediaType.isLegible with
        | true => simp [bodyNode?, plain, absent, content, first, legible]
        | false =>
            rw [readBody_of_hides (.media plain absent content first legible)] at refused
            cases refused

theorem checkVersion_ne_invalid {entries : List (Tree × Tree)} {place : String}
    {reason : Inconsistency} :
    checkVersion entries ≠ .error (.rule ⟨place, .invalid reason⟩) := by
  intro refused
  rw [checkVersion] at refused
  split at refused
  · cases refused
  · split at refused
    · cases refused
    · split at refused <;> cases refused

theorem responsesOf_ne_invalid {location place : String} {tree : Tree} {reason : Inconsistency} :
    responsesOf location tree ≠ .error (.rule ⟨place, .invalid reason⟩) := by
  intro refused
  unfold responsesOf at refused
  split at refused
  · cases refused
  · split at refused <;> cases refused

/-- The fault of a path item for a duplicate is one of its parameter list. -/
theorem exists_list_of_path_fault {tree : Tree} {entry : Tree × Tree} {place : String}
    (reached : (Section.document tree).Reaches (.path entry))
    (faulty : (Section.path entry).fault? = some (.rule ⟨place, .invalid .duplicateParameter⟩)) :
    Exists fun location => Exists fun parameters =>
      Checks tree location parameters ∧ Repeats location parameters place := by
  rcases entry with ⟨key, item⟩
  rw [Section.fault?] at faulty
  split at faulty
  · cases named : pathOf? key with
    | none =>
        simp only [named] at faulty
        cases faulty
    | some template =>
        cases item with
        | map entries label =>
            simp only [named] at faulty
            split at faulty
            · cases faulty
            · next plain =>
                rcases (listFault?_eq_duplicate_iff _ _ _ _).mp faulty with
                  ⟨parameters, listed, repeats⟩
                exact ⟨_, parameters, .ofPath reached named plain listed, repeats⟩
        | _ =>
            simp only [named] at faulty
            cases faulty
  · cases faulty

/-- The fault of an operation for a duplicate parameter is one of its parameter list. -/
theorem exists_list_of_operation_fault {tree : Tree} {location place : String}
    {pathParameters : List Tree} {repeated : Bool} {named : Method × Tree × Tree}
    (reached : (Section.document tree).Reaches (.operation location pathParameters repeated named))
    (faulty : (Section.operation location pathParameters repeated named).fault? =
      some (.rule ⟨place, .invalid .duplicateParameter⟩)) :
    Exists fun location => Exists fun parameters =>
      Checks tree location parameters ∧ Repeats location parameters place := by
  rcases named with ⟨method, key, value⟩
  cases repeated with
  | true => cases faulty
  | false =>
      cases value with
      | map entries label =>
          simp only [Section.fault?, Bool.false_eq_true, if_false, Option.or_eq_some_iff] at faulty
          rcases faulty with ofList | ⟨_, ofResponses⟩
          · rcases (listFault?_eq_duplicate_iff _ _ _ _).mp ofList with
              ⟨parameters, listed, repeats⟩
            exact ⟨_, parameters, .ofOperation reached listed, repeats⟩
          · exact absurd (Outcome.failure?_eq_some_iff.mp ofResponses) responsesOf_ne_invalid
      | _ => cases faulty

/-- A section is refused for a duplicate parameter for the list that it declares. -/
theorem exists_list_of_fault? {tree : Tree} {inner : Section} {place : String}
    (reached : (Section.document tree).Reaches inner)
    (faulty : inner.fault? = some (.rule ⟨place, .invalid .duplicateParameter⟩)) :
    Exists fun location => Exists fun parameters =>
      Checks tree location parameters ∧ Repeats location parameters place := by
  cases inner with
  | document tree =>
      cases tree with
      | map entries label =>
          exact absurd (Outcome.failure?_eq_some_iff.mp faulty) checkVersion_ne_invalid
      | _ => cases faulty
  | components tree =>
      cases tree with
      | map sections label =>
          rw [Section.fault?] at faulty
          split at faulty <;> cases faulty
      | _ => cases faulty
  | paths entries =>
      rw [Section.fault?] at faulty
      split at faulty <;> cases faulty
  | path entry => exact exists_list_of_path_fault reached faulty
  | operation location pathParameters repeated named =>
      exact exists_list_of_operation_fault reached faulty
  | parameter location tree =>
      rw [Section.fault?] at faulty
      split at faulty
      · cases faulty
      · next without =>
          exact absurd (parameterNode?_isSome_of_invalid (Outcome.failure?_eq_some_iff.mp faulty))
            without
  | body location tree =>
      rw [Section.fault?] at faulty
      split at faulty
      · cases faulty
      · next without =>
          exact absurd (bodyNode?_isSome_of_invalid (Outcome.failure?_eq_some_iff.mp faulty))
            without
  | operationId tree =>
      rw [Section.fault?, Outcome.failure?_eq_some_iff, readOperationId] at faulty
      split at faulty <;> cases faulty
  | schema location node =>
      rcases Option.map_eq_some_iff.mp faulty with ⟨refusal, refused, same⟩
      cases refusal with
      | fault fault =>
          have rule := congrArg Violation.rule (Failure.rule.inj same)
          exact absurd rule (rule_of_refusal? refused)
      | formatNotText reason => cases same
      | illegible => cases same
  | illegible => cases faulty

/-- A list that is checked and repeats itself is what the document is refused for. -/
theorem Checks.refused {tree : Tree} {location place : String} {parameters : List Tree}
    (checks : Checks tree location parameters) (repeats : Repeats location parameters place) :
    read tree = .error (.rule ⟨place, .invalid .duplicateParameter⟩) := by
  apply (read_eq_error_iff _ _).mpr
  cases checks with
  | @ofPath key template entries label _ reached named plain listed =>
      refine ⟨_, reached, ?_⟩
      simp only [Section.fault?, named, plain, isLegible_of_pathOf? named, if_true]
      exact (listFault?_eq_duplicate_iff _ _ _ _).mpr ⟨parameters, listed, repeats⟩
  | @ofOperation location pathParameters method key entries label _ reached listed =>
      refine ⟨_, reached, ?_⟩
      simp only [Section.fault?, Bool.false_eq_true, if_false]
      rw [(listFault?_eq_duplicate_iff _ _ _ _).mpr ⟨parameters, listed, repeats⟩, Option.some_or]

/-! ## Duplicates in the proper sense -/

/-- An entry that is no reference and has a text for its name. -/
def PlainlyNamed (entries : List (Tree × Tree)) : Prop :=
  Tree.lookup? "$ref" entries = none ∧
    Exists fun name => Tree.field "name" entries = .str name

/-- No two mappings of a list are identified alike, unless they are no references and have
texts for names. -/
def Unambiguous (parameters : List Tree) : Prop :=
  forall entries label key, Tree.map entries label ∈ parameters ->
    parameterKey entries = .ok key -> 1 < (parameterKeys parameters).count key ->
    PlainlyNamed entries

/-- Two entries of a list that are no references declare one name in one place. -/
inductive DeclaredTwice (name : String) : List Tree -> Prop
  | intro {before between after : List Tree} {first second : List (Tree × Tree)}
      {firstLabel secondLabel : Option Label} {place : Identity}
      (firstPlain : Tree.lookup? "$ref" first = none)
      (secondPlain : Tree.lookup? "$ref" second = none)
      (firstNamed : Tree.field "name" first = .str name)
      (secondNamed : Tree.field "name" second = .str name)
      (firstPlace : (Tree.field "in" first).identity = .ok place)
      (secondPlace : (Tree.field "in" second).identity = .ok place) :
      DeclaredTwice name (before ++ .map first firstLabel :: between ++
        .map second secondLabel :: after)

/-- In a list that is unambiguous, what is identified like an entry before it declares the same
parameter. -/
theorem Repeats.declaredTwice {location place : String} {parameters : List Tree}
    (repeats : Repeats location parameters place) (unambiguous : Unambiguous parameters) :
    Exists fun name => place = location ++ "." ++ name ∧ DeclaredTwice name parameters := by
  rcases repeats with @⟨before, after, entries, label, key, _, keyed, again⟩
  have twice : 1 < (parameterKeys (before ++ .map entries label :: after)).count key := by
    rw [parameterKeys_append, parameterKeys_cons_map keyed, List.count_append, List.count_cons_self]
    have once := List.count_pos_iff.mpr again
    omega
  rcases (mem_parameterKeys_iff _ _).mp again with ⟨first, firstLabel, member, firstKeyed⟩
  rcases unambiguous entries label key (by simp) keyed twice with ⟨secondPlain, name, secondNamed⟩
  rcases unambiguous first firstLabel key (List.mem_append_left _ member) firstKeyed twice with
    ⟨firstPlain, firstName, firstNamed⟩
  rcases key with ⟨nameKey, placeKey⟩
  rcases (parameterKey_eq_ok_iff _ _ _).mp keyed with ⟨secondName, secondPlace⟩
  rcases (parameterKey_eq_ok_iff _ _ _).mp firstKeyed with ⟨firstNameKey, firstPlace⟩
  rw [secondNamed] at secondName
  cases secondName
  have sameName : firstName = name := by
    rw [firstNamed] at firstNameKey
    cases firstNameKey
    rfl
  rw [sameName] at firstNamed
  rcases List.append_of_mem member with ⟨front, between, rfl⟩
  refine ⟨name, ?_, ?_⟩
  · rw [secondNamed, Tree.display]
  · exact .intro firstPlain secondPlain firstNamed secondNamed firstPlace secondPlace

/-! ## References in a list -/

/-- An entry refers to a parameter elsewhere in the document. -/
inductive Refers : Tree -> Prop
  | intro {entries : List (Tree × Tree)} {label : Option Label} {target : Tree}
      (found : Tree.lookup? "$ref" entries = some target)
      (inDocument : Reference.isLocal target = true) : Refers (.map entries label)

theorem Refers.readParameter_eq {entry : Tree} (refers : Refers entry) (location : String) :
    readParameter location entry =
      .error (.rule ⟨location, .unsupported .nonSchemaReference⟩) := by
  rcases refers with ⟨found, inDocument⟩
  simp only [readParameter, found, Reference.refuse, inDocument, if_true]
  rfl

/-- A list in which nothing but references stands in the way of reading its entries. -/
structure OnlyRefers (location : String) (parameters : List Tree) : Prop where
  exists_refers : Exists fun entry => entry ∈ parameters ∧ Refers entry
  others : forall entry, entry ∈ parameters ->
    Refers entry ∨ Succeeds (readParameter location entry)

/-- The first reference of a list is what the list is refused for. -/
theorem OnlyRefers.findSome?_eq {location : String} {parameters : List Tree}
    (onlyRefers : OnlyRefers location parameters) :
    (parameters.map (Section.parameter location)).findSome? Section.failure? =
      some (.rule ⟨location, .unsupported .nonSchemaReference⟩) := by
  induction parameters with
  | nil =>
      rcases onlyRefers.exists_refers with ⟨entry, nowhere, _⟩
      cases nowhere
  | cons entry rest ih =>
      rw [List.map_cons, List.findSome?_cons, Section.failure?]
      rcases onlyRefers.others entry List.mem_cons_self with refers | reads
      · rw [refers.readParameter_eq]
        rfl
      · rw [Outcome.failure?_eq_none_iff.mpr reads]
        refine ih ⟨?_, fun other member => onlyRefers.others other (List.mem_cons_of_mem _ member)⟩
        rcases onlyRefers.exists_refers with ⟨one, member, refers⟩
        rcases List.mem_cons.mp member with rfl | later
        · rcases reads with ⟨parameter, readOk⟩
          rw [refers.readParameter_eq] at readOk
          cases readOk
        · exact ⟨one, later, refers⟩

/-- The parameters that reading a document comes to read for an operation, and where they
stand.  Those that the operation itself declares are told apart by then. -/
inductive Merges (tree : Tree) : String -> List Tree -> Prop
  | intro {location : String} {pathParameters : List Tree} {method : Method} {key : Tree}
      {entries : List (Tree × Tree)} {label : Option Label} {own : List Tree}
      (reached : (Section.document tree).Reaches
        (.operation location pathParameters false (method, key, .map entries label)))
      (listed : listOf (location ++ "." ++ key.display ++ ".parameters")
        (Tree.field "parameters" entries) = .ok own)
      (identified : Identified [] own)
      (responses : Succeeds (responsesOf (location ++ "." ++ key.display ++ ".responses")
        (Tree.field "responses" entries))) :
      Merges tree (location ++ "." ++ key.display ++ ".parameters")
        (mergeParameters pathParameters own)

/-- Where nothing but references stands in the way of the parameters of an operation, the
document is refused for a reference. -/
theorem Merges.refused {tree : Tree} {location : String} {parameters : List Tree}
    (merges : Merges tree location parameters) (onlyRefers : OnlyRefers location parameters) :
    read tree = .error (.rule ⟨location, .unsupported .nonSchemaReference⟩) := by
  rcases merges with @⟨location, pathParameters, method, key, entries, label, own, reached, listed,
    identified, responses⟩
  apply read_eq_error_of_reached reached
  have sameList : parameterList (.map entries label) = own := (listOf_eq_ok listed).symm
  have sound : (Section.operation location pathParameters false
      (method, key, .map entries label)).fault? = none := by
    simp only [Section.fault?, Bool.false_eq_true, if_false, listFault?, Tree.entries, listed,
      sameList, Outcome.failure?_ok, Option.none_or, Option.or_eq_none_iff]
    constructor
    · rw [(checkUnique_eq_ok_iff _ _ _).mpr identified]
      rfl
    · exact Outcome.failure?_eq_none_iff.mpr responses
  rw [Section.lawful, sound, Option.none_or]
  simp only [Section.parts, List.findSome?_append, sameList, onlyRefers.findSome?_eq,
    Option.some_or]

/-! ## The diagnosis -/

/-- A document is refused for a duplicate parameter exactly when a list that is checked
repeats itself, which in a list that is unambiguous is a parameter declared twice.  It is
refused for a reference where nothing else stands in the way of the parameters of an
operation that reading comes to. -/
theorem duplicateParameter_exact (tree : Tree) :
    (forall place, read tree = .error (.rule ⟨place, .invalid .duplicateParameter⟩) ↔
      Exists fun location => Exists fun parameters =>
        Checks tree location parameters ∧ Repeats location parameters place) ∧
    (forall location parameters place, Checks tree location parameters ->
      Unambiguous parameters -> Repeats location parameters place ->
        Exists fun name => place = location ++ "." ++ name ∧ DeclaredTwice name parameters) ∧
    forall location parameters, Merges tree location parameters ->
      OnlyRefers location parameters ->
        read tree = .error (.rule ⟨location, .unsupported .nonSchemaReference⟩) := by
  refine ⟨?_, ?_, ?_⟩
  · intro place
    constructor
    · intro refused
      rcases (read_eq_error_iff _ _).mp refused with ⟨inner, reached, faulty⟩
      exact exists_list_of_fault? reached faulty
    · intro found
      rcases found with ⟨location, parameters, checks, repeats⟩
      exact checks.refused repeats
  · intro location parameters place _ unambiguous repeats
    exact repeats.declaredTwice unambiguous
  · intro location parameters merges onlyRefers
    exact merges.refused onlyRefers

/-- A document with one operation. -/
def operationTree (operation : Tree) : Tree :=
  .object [("paths", .object [("/a", .object [("get", operation)])])]

/-- Reading comes to the operation, whatever it is. -/
theorem reaches_operationTree (operation : Tree) :
    (Section.document (operationTree operation)).Reaches
      (.operation "paths./a" [] false (.get, .str "get", operation)) := by
  have noComponents : forall other, other ∈ [Section.components .null] ->
      other.failure? = none := by
    intro other member
    rw [List.mem_singleton.mp member]
    rfl
  have named : Method.ofKey? (.str "get") = some .get := by decide +kernel
  have template : pathOf? (.str "/a") = some "/a" := by decide +kernel
  have here : "paths." ++ (Tree.str "/a").display = "paths./a" := by decide +kernel
  have sound : (Section.path (.str "/a", .object [("get", operation)])).fault? = none := by
    simp only [Section.fault?, template]
    rfl
  have split : (Section.path (.str "/a", .object [("get", operation)])).parts =
      [.operation "paths./a" [] false (.get, .str "get", operation)] := by
    simp only [Section.parts, Section.operations, Tree.object, Tree.entries, List.map_cons,
      List.map_nil, named]
    rw [here]
    rfl
  refine @Section.Reaches.part _ _ _ [_] _ rfl rfl noComponents ?_
  refine @Section.Reaches.part _ _ _ [] _ rfl rfl (List.forall_mem_nil _) ?_
  exact @Section.Reaches.part _ _ _ [] _ sound split (List.forall_mem_nil _) .here

/-- A document whose operation has nothing but parameters. -/
def parametersTree (parameters : List Tree) : Tree :=
  operationTree (.object [("parameters", .list parameters none)])

/-- A query parameter of the name. -/
def queryEntry (name : String) : Tree :=
  .object [("name", .str name), ("in", .str "query"),
    ("schema", .object [("type", .str "string")])]

/-- A reference to a parameter of the document. -/
def referenceEntry (name : String) : Tree :=
  .object [("$ref", .str ("#/components/parameters/" ++ name))]

/-- Of a reference and two parameters the parameters are duplicates, and of a parameter and a
reference the reference is refused. -/
theorem duplicateParameter_exact_of_parametersTree :
    (Exists fun name => "paths./a.get.parameters.q" = "paths./a.get.parameters" ++ "." ++ name ∧
      DeclaredTwice name [referenceEntry "Limit", queryEntry "q", queryEntry "q"]) ∧
    read (parametersTree [queryEntry "q", referenceEntry "Limit"]) =
      .error (.rule ⟨"paths./a.get.parameters", .unsupported .nonSchemaReference⟩) := by
  have here : "paths./a" ++ "." ++ (Tree.str "get").display ++ ".parameters" =
      "paths./a.get.parameters" := by decide +kernel
  constructor
  · apply (duplicateParameter_exact (parametersTree
      [referenceEntry "Limit", queryEntry "q", queryEntry "q"])).2.1
    · rw [← here]
      exact .ofOperation (reaches_operationTree _) rfl
    · intro entries label key member keyed twice
      simp only [List.mem_cons, List.not_mem_nil, or_false] at member
      rcases member with isReference | isQuery | isQuery
      · cases isReference
        cases keyed
        exact absurd twice (by decide +kernel)
      · cases isQuery
        exact ⟨rfl, "q", rfl⟩
      · cases isQuery
        exact ⟨rfl, "q", rfl⟩
    · apply (checkUnique_eq_duplicate_iff _ _ _).mp
      rfl
  · have identified : Identified [] [queryEntry "q", referenceEntry "Limit"] :=
      (checkUnique_eq_ok_iff "" _ _).mp rfl
    apply (duplicateParameter_exact _).2.2
    · rw [← here]
      exact .intro (reaches_operationTree _) rfl identified ⟨[], rfl⟩
    · constructor
      · exact ⟨referenceEntry "Limit", List.mem_cons_of_mem _ List.mem_cons_self, .intro rfl rfl⟩
      · intro entry member
        simp only [mergeParameters, List.filter_nil, List.nil_append, List.mem_cons,
          List.not_mem_nil, or_false] at member
        rcases member with rfl | rfl
        · exact Or.inr (Outcome.exists_of_isOk (by decide +kernel))
        · exact Or.inl (.intro rfl rfl)

/-- Two references to parameters. -/
def referenceEntries : List Tree := [referenceEntry "Limit", referenceEntry "Offset"]

/-- Neither of two references has a name, and the second is taken for the first again. -/
theorem duplicate_of_references :
    (forall entry, entry ∈ referenceEntries -> Refers entry) ∧
      read (parametersTree referenceEntries) = .error (.rule ⟨"paths./a.get.parameters.None",
        .invalid .duplicateParameter⟩) := by
  constructor
  · intro entry member
    simp only [referenceEntries, List.mem_cons, List.not_mem_nil, or_false] at member
    rcases member with rfl | rfl
    · exact .intro rfl rfl
    · exact .intro rfl rfl
  · rfl

end Document
end RouteIR
