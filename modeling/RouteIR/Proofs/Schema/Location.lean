import RouteIR.Document.Reading
import RouteIR.Proofs.Outcome.Agreement
import RouteIR.Proofs.Schema.Blame

namespace RouteIR
namespace Schema

/-!
# The location of a fault

A fault in a schema is reported under the location of the schema and the way from there to
one node.  The way goes through items and properties that reading comes to, and may end in one
step more, which names a member of that node.  The node is refused by itself: it is whatever
the nodes inside it are changed to.
-/

open Outcome (failure? Coincide)

/-! ## Ways to a node -/

/-- The text of a way, as it stands in locations. -/
def wayText (steps : List Step) : String := String.join (steps.map Step.text)

theorem wayText_append (first second : List Step) :
    wayText (first ++ second) = wayText first ++ wayText second := by
  simp [wayText]

/-- Reading a node comes to another one inside it, along the items of arrays and the
properties of objects.  An object that is gone through passes the checks on itself, and all
properties before the one on the way are read. -/
inductive Leads : Tree -> List Step -> Tree -> Prop
  | here {node : Tree} : Leads node [] node
  | items {entries : List (Tree × Tree)} {label : Option Label} {item target : Tree}
      {steps : List Step} (isArray : form entries = .array)
      (found : Tree.lookup? "items" entries = some item) (inner : Leads item steps target) :
      Leads (.map entries label) (.items :: steps) target
  | property {entries before after : List (Tree × Tree)} {label : Option Label}
      {required : List String} {name : String} {value target : Tree} {steps : List Step}
      (isObject : form entries = .object)
      (parts : objectParts entries = .ok (before ++ (.str name, value) :: after, required))
      (sound : forall earlier, earlier ∈ before -> Outcome.Succeeds (read earlier.2))
      (inner : Leads value steps target) :
      Leads (.map entries label) (.property name :: steps) target

theorem propertyChild?_of_isLegible {property : Tree × Tree}
    (legible : property.1.isLegible = true) :
    propertyChild? property = some (.property property.1.display, property.2) := if_pos legible

/-- A child that is not refused has a text for its key, and is read. -/
theorem refusalUnder?_propertyChild?_eq_none_iff (property : Tree × Tree) :
    refusalUnder? (propertyChild? property) = none ↔
      property.1.isLegible = true ∧ Outcome.Succeeds (read property.2) := by
  rw [propertyChild?]
  split
  · next legible =>
      rw [refusalUnder?, Option.map_eq_none_iff]
      simp [legible, Outcome.failure?_eq_none_iff, Outcome.Succeeds]
  · next unknown => simp [refusalUnder?, unknown]

/-- One step to a child of a node that passes the checks on itself, all of the children before
it being read. -/
theorem Leads.child {node target : Tree} {before after : List (Option (Step × Tree))}
    {child : Step × Tree} {steps : List Step} (textKeyed : node.isTextKeyed = true)
    (passed : refusal? node = none) (split : children node = before ++ some child :: after)
    (sound : forall earlier, earlier ∈ before -> refusalUnder? earlier = none)
    (inner : Leads child.2 steps target) : Leads node (child.1 :: steps) target := by
  cases node with
  | map entries label =>
      rw [children] at split
      split at split
      · next isObject =>
          simp only [refusal?, isObject, Option.map_eq_none_iff] at passed
          rcases Outcome.failure?_eq_none_iff.mp passed with ⟨⟨properties, required⟩, parts⟩
          rw [← objectParts_eq_ok parts] at split
          rcases List.map_eq_append_iff.mp split with ⟨first, rest, rfl, rfl, others⟩
          rcases List.map_eq_cons_iff.mp others with ⟨property, last, rfl, named, _⟩
          cases eq_of_propertyChild? named
          have member : property ∈ (Tree.field "properties" entries).entries := by
            simp [← objectParts_eq_ok parts]
          have inField := Tree.isTextKeyed_field textKeyed "properties"
          rcases (Tree.isTextKeyed_of_entry inField member).1 with ⟨name, isText⟩
          rcases property with ⟨_, value⟩
          cases isText
          refine .property isObject parts ?_ inner
          intro earlier earlierMember
          exact ((refusalUnder?_propertyChild?_eq_none_iff _).mp
            (sound _ (List.mem_map_of_mem earlierMember))).2
      · next isArray =>
          cases found : Tree.lookup? "items" entries with
          | none => simp [found] at split
          | some item =>
              have only : [some (Step.items, item)] = before ++ some child :: after := by
                rw [← split, found]
                rfl
              rcases List.append_eq_singleton_iff.mp only.symm with ⟨_, same⟩ | ⟨_, same⟩
              · cases same
                exact .items isArray found inner
              · cases same
      · simp at split
  | _ => simp [children] at split

theorem children_textKeyed {node : Tree} (textKeyed : node.isTextKeyed = true)
    {child : Step × Tree} (member : some child ∈ children node) :
    child.2.isTextKeyed = true := by
  cases node with
  | map entries label =>
      rw [children] at member
      split at member
      · rcases List.mem_map.mp member with ⟨property, propertyMember, named⟩
        rw [eq_of_propertyChild? named]
        exact (Tree.isTextKeyed_of_entry (Tree.isTextKeyed_field textKeyed _) propertyMember).2
      · rcases List.mem_map.mp member with ⟨item, found, same⟩
        cases same
        have found := Tree.mem_of_lookup? (Option.mem_toList.mp found)
        exact (Tree.isTextKeyed_of_entry textKeyed found).2
      · cases member
  | _ => cases member

/-- A fault is that of a node which reading comes to, refused by itself. -/
def FaultOf (node : Tree) (fault : Fault) : Prop :=
  Exists fun steps => Exists fun target => Exists fun last => Leads node steps target ∧
    refusal? target = some (.fault ⟨last, fault.rule⟩) ∧ fault.steps = steps ++ last

theorem faultOf_of_failure? (node : Tree) : forall fault, node.isTextKeyed = true ->
    failure? (read node) = some (.fault fault) -> FaultOf node fault := by
  apply holds_of_children (motive := fun node => forall fault, node.isTextKeyed = true ->
    failure? (read node) = some (.fault fault) -> FaultOf node fault)
  intro node ofChild fault textKeyed failed
  rw [failure?_read] at failed
  cases own : refusal? node with
  | some refusal =>
      rw [own, Option.some_or] at failed
      cases failed
      exact ⟨[], node, fault.steps, .here, own, rfl⟩
  | none =>
      rw [own, Option.none_or, Outcome.findSome?_eq_some_iff] at failed
      rcases failed with ⟨before, child, after, split, sound, childFailed⟩
      cases child with
      | none => cases childFailed
      | some child =>
        have member : some child ∈ children node := by simp [split]
        rcases Option.map_eq_some_iff.mp childFailed with ⟨refusal, refused, seen⟩
        cases refusal with
        | formatNotText reason => cases seen
        | illegible => cases seen
        | fault inner =>
          cases seen
          rcases ofChild child member inner (children_textKeyed textKeyed member) refused with
            ⟨steps, target, last, leads, ownFault, way⟩
          refine ⟨child.1 :: steps, target, last, leads.child textKeyed own split sound,
            ownFault, ?_⟩
          rw [Fault.under, way, List.cons_append]

/-- A node is refused for whichever node reading comes to that is refused by itself. -/
theorem Leads.failure?_read {node target : Tree} {steps last : List Step} {rule : Rule}
    (leads : Leads node steps target) (textKeyed : node.isTextKeyed = true)
    (refused : refusal? target = some (.fault ⟨last, rule⟩)) :
    failure? (read node) = some (.fault ⟨steps ++ last, rule⟩) := by
  induction leads with
  | here => rw [Schema.failure?_read, refused, Option.some_or, List.nil_append]
  | @items entries label item target steps isArray found inner ih =>
      have passed : refusal? (.map entries label) = none := by
        simp [refusal?, isArray, found]
      have under : refusalUnder? (some (.items, item)) =
          some (.fault ⟨.items :: steps ++ last, rule⟩) := by
        have inItem := (Tree.isTextKeyed_of_entry textKeyed (Tree.mem_of_lookup? found)).2
        rw [refusalUnder?, ih inItem refused]
        rfl
      simp [Schema.failure?_read, passed, children, isArray, found, under]
  | @property entries before after label required name value target steps isObject parts sound
      inner ih =>
      have passed : refusal? (.map entries label) = none := by
        simp [refusal?, isObject, parts]
      have inProperty (property : Tree × Tree)
          (member : property ∈ before ++ (.str name, value) :: after) :
          (Exists fun text => property.1 = .str text) ∧ property.2.isTextKeyed = true := by
        rw [objectParts_eq_ok parts] at member
        exact Tree.isTextKeyed_of_entry (Tree.isTextKeyed_field textKeyed "properties") member
      have under : refusalUnder? (propertyChild? (.str name, value)) =
          some (.fault ⟨.property name :: steps ++ last, rule⟩) := by
        have inValue := (inProperty (.str name, value) (by simp)).2
        rw [propertyChild?_of_isLegible rfl, refusalUnder?, ih inValue refused]
        rfl
      have inOrder : children (.map entries label) = before.map propertyChild? ++
          propertyChild? (.str name, value) :: after.map propertyChild? := by
        simp only [children, isObject, ← objectParts_eq_ok parts, List.map_append, List.map_cons]
      rw [Schema.failure?_read, passed, Option.none_or, Outcome.findSome?_eq_some_iff]
      refine ⟨_, _, _, inOrder, ?_, under⟩
      intro earlier member
      rcases List.mem_map.mp member with ⟨property, propertyMember, rfl⟩
      have legible : property.1.isLegible = true := by
        rcases (inProperty property (by simp [propertyMember])).1 with ⟨text, isText⟩
        rw [isText]
        rfl
      exact (refusalUnder?_propertyChild?_eq_none_iff _).mpr
        ⟨legible, sound property propertyMember⟩

/-! ## The node itself -/

/-- The steps that may follow the way to a node that is refused by itself: they name the member
that is not supported. -/
def lastSteps : List (List Step) := [[], [.additionalProperties], [.patternProperties]]

theorem steps_of_objectParts {entries : List (Tree × Tree)} {fault : Fault}
    (failed : objectParts entries = .error fault) : fault.steps ∈ lastSteps := by
  rw [objectParts] at failed
  split at failed
  · cases failed
    exact List.mem_cons_self
  · cases failed
    exact List.mem_cons_self
  · split at failed
    · cases failed
      exact List.mem_cons_self
    · split at failed
      · cases failed
        decide
      · split at failed
        · cases failed
          decide
        · cases failed

theorem steps_of_refusal? {node : Tree} {fault : Fault}
    (refused : refusal? node = some (.fault fault)) : fault.steps ∈ lastSteps := by
  have here (rule : Option Rule) (same : rule.map (Refusal.fault ∘ .here) = some (.fault fault)) :
      fault.steps ∈ lastSteps := by
    rcases Option.map_eq_some_iff.mp same with ⟨_, _, isHere⟩
    cases isHere
    exact List.mem_cons_self
  cases node with
  | map entries label =>
      rw [refusal?] at refused
      split at refused
      · exact here _ refused
      · exact here (some _) refused
      · exact here _ refused
      · rcases Option.map_eq_some_iff.mp refused with ⟨_, failed, same⟩
        cases same
        exact steps_of_objectParts (Outcome.failure?_eq_some_iff.mp failed)
      · split at refused
        · exact here (some _) refused
        · cases refused
      · exact absurd (Outcome.failure?_eq_some_iff.mp refused) (readPrimitive_ne_fault _ _ _)
      · exact here (some _) refused
      · exact here (some _) refused
  | _ => exact here (some _) refused

/-- Two entries of nodes that differ at most in the nodes inside: in the items, or in what
stands under the names of the properties. -/
inductive SameMember : Tree × Tree -> Tree × Tree -> Prop
  | same (entry : Tree × Tree) : SameMember entry entry
  | items (one other : Tree) : SameMember (.str "items", one) (.str "items", other)
  | properties {one other : List (Tree × Tree)} {label otherLabel : Option Label}
      (names : one.map Prod.fst = other.map Prod.fst) :
      SameMember (.str "properties", .map one label) (.str "properties", .map other otherLabel)

/-- Two nodes that differ at most in the nodes inside them. -/
inductive SameSurface : Tree -> Tree -> Prop
  | same (node : Tree) : SameSurface node node
  | map {entries others : List (Tree × Tree)} (label otherLabel : Option Label)
      (members : List.Forall₂ SameMember entries others) :
      SameSurface (.map entries label) (.map others otherLabel)

theorem SameMember.key {entry other : Tree × Tree} (member : SameMember entry other) :
    entry.1 = other.1 := by
  cases member <;> rfl

section Surface

variable {entries others : List (Tree × Tree)}

theorem hasKey_of_sameNames (names : entries.map Prod.fst = others.map Prod.fst)
    (name : String) : Tree.hasKey name entries = Tree.hasKey name others := by
  induction entries generalizing others with
  | nil => rw [List.map_eq_nil_iff.mp names.symm]
  | cons entry rest ih =>
      rcases List.map_eq_cons_iff.mp names.symm with ⟨other, remaining, rfl, key, sameRest⟩
      rcases entry with ⟨entryKey, value⟩
      rcases other with ⟨otherKey, otherValue⟩
      cases key
      have later := ih sameRest.symm
      rw [Tree.hasKey, Tree.hasKey] at later
      rw [Tree.hasKey, Tree.hasKey, Tree.lookup?, Tree.lookup?]
      split
      · rfl
      · exact later

/-- Under another key than those of the nodes inside stands the same value. -/
theorem lookup?_of_sameMembers (members : List.Forall₂ SameMember entries others) (key : String)
    (notItems : key ≠ "items") (notProperties : key ≠ "properties") :
    Tree.lookup? key entries = Tree.lookup? key others := by
  rcases Tree.lookup?_related members key fun _ _ member => by rw [member.key] with
    ⟨absent, missing⟩ | ⟨entry, other, found, otherFound, isKey, member⟩
  · rw [absent, missing]
  · cases member with
    | same => rw [found, otherFound]
    | items => exact absurd (Tree.str.inj isKey).symm notItems
    | properties => exact absurd (Tree.str.inj isKey).symm notProperties

theorem hasKey_of_sameMembers (members : List.Forall₂ SameMember entries others) (key : String) :
    Tree.hasKey key entries = Tree.hasKey key others := by
  rw [Tree.hasKey, Tree.hasKey]
  rcases Tree.lookup?_related members key fun _ _ member => by rw [member.key] with
    ⟨absent, missing⟩ | ⟨_, _, found, otherFound, _⟩
  · rw [absent, missing]
  · rw [found, otherFound]
    rfl

theorem keysAreLegible_of_sameMembers (members : List.Forall₂ SameMember entries others) :
    Tree.keysAreLegible entries = Tree.keysAreLegible others := by
  induction members with
  | nil => rfl
  | cons member _ ih => simp only [Tree.keysAreLegible_cons, member.key, ih]

theorem form_of_sameMembers (members : List.Forall₂ SameMember entries others) :
    form entries = form others := by
  have reference := lookup?_of_sameMembers members "$ref" (by decide) (by decide)
  have values := lookup?_of_sameMembers members "enum" (by decide) (by decide)
  have type := lookup?_of_sameMembers members "type" (by decide) (by decide)
  simp only [form, reference, values, Tree.field, type, hasKey_of_sameMembers members]

/-- The names of the properties are the same, or the same fault is found. -/
theorem propertiesOf_of_sameMembers (members : List.Forall₂ SameMember entries others) :
    Coincide (fun one other => one.map Prod.fst = other.map Prod.fst) (propertiesOf entries)
      (propertiesOf others) := by
  have refl (outcome : Except Rule (List (Tree × Tree))) :
      Coincide (fun one other => one.map Prod.fst = other.map Prod.fst) outcome outcome := by
    cases outcome with
    | ok properties => exact .ok rfl
    | error rule => exact .error rule
  rw [propertiesOf, propertiesOf, Tree.field, Tree.field]
  rcases Tree.lookup?_related members "properties" fun _ _ member => by rw [member.key] with
    ⟨absent, missing⟩ | ⟨_, _, found, otherFound, isKey, member⟩
  · rw [absent, missing]
    exact refl _
  · rw [found, otherFound, Option.getD_some, Option.getD_some]
    cases member with
    | same => exact refl _
    | items => exact absurd (Tree.str.inj isKey) (by decide)
    | @properties one other _ _ names =>
        cases one with
        | nil =>
            rw [List.map_eq_nil_iff.mp names.symm]
            exact .ok rfl
        | cons property rest =>
            rcases List.map_eq_cons_iff.mp names.symm with ⟨changed, remaining, rfl, _, _⟩
            exact .ok names

theorem objectParts_of_sameMembers (members : List.Forall₂ SameMember entries others) :
    failure? (objectParts entries) = failure? (objectParts others) := by
  have same (key : String) (notItems : key ≠ "items") (notProperties : key ≠ "properties") :
      Tree.field key entries = Tree.field key others := by
    rw [Tree.field, Tree.field, lookup?_of_sameMembers members key notItems notProperties]
  have required : requiredOf entries = requiredOf others := by
    rw [requiredOf, requiredOf, same "required" (by decide) (by decide)]
  have additional := same "additionalProperties" (by decide) (by decide)
  have patterns := same "patternProperties" (by decide) (by decide)
  have properties := propertiesOf_of_sameMembers members
  rw [objectParts, objectParts, required, additional, patterns]
  generalize propertiesOf entries = one at properties ⊢
  generalize propertiesOf others = other at properties ⊢
  cases properties with
  | error rule => rfl
  | @ok left right names =>
      cases requiredOf others with
      | error rule => rfl
      | ok wanted =>
          simp only [hasKey_of_sameNames names]
          split
          · rfl
          · split
            · rfl
            · split <;> rfl

end Surface

/-- What a node itself is refused for does not depend on the nodes inside it. -/
theorem refusal?_of_sameSurface {node other : Tree} (surface : SameSurface node other) :
    refusal? node = refusal? other := by
  cases surface with
  | same => rfl
  | @map entries others label otherLabel members =>
      have sameForm := form_of_sameMembers members
      have field : Tree.lookup? "format" entries = Tree.lookup? "format" others :=
        lookup?_of_sameMembers members "format" (by decide) (by decide)
      rw [refusal?, refusal?, ← sameForm]
      cases form entries with
      | object => simp only [objectParts_of_sameMembers members]
      | array =>
          have items := hasKey_of_sameMembers members "items"
          rw [Tree.hasKey, Tree.hasKey] at items
          simp only [← Option.not_isSome, items]
      | primitive kind =>
          simp only [readPrimitive, Tree.field, field, keysAreLegible_of_sameMembers members]
          split
          · split <;> rfl
          · rfl
      | _ => rfl

end Schema

namespace Document

open Outcome (failure?)
open Schema (Leads SameSurface wayText)

theorem readSchema_of_leads {node target : Tree} {steps last : List Step} {rule : Rule}
    (leads : Leads node steps target) (textKeyed : node.isTextKeyed = true)
    (refused : Schema.refusal? target = some (.fault ⟨last, rule⟩)) (location : String) :
    readSchema location node = .error (.rule ⟨location ++ wayText (steps ++ last), rule⟩) := by
  rw [readSchema, Outcome.failure?_eq_some_iff.mp (leads.failure?_read textKeyed refused)]
  rfl

theorem readSchema_of_refusal? {node : Tree} {fault : Fault}
    (refused : Schema.refusal? node = some (.fault fault)) (location : String) :
    readSchema location node = .error (.rule (fault.located location)) := by
  have failed : failure? (Schema.read node) = some (.fault fault) := by
    rw [Schema.failure?_read, refused, Option.some_or]
  rw [readSchema, Outcome.failure?_eq_some_iff.mp failed]
  rfl

/-- A violation in a node is that of one node inside it, which the location names. -/
structure Blamed (node : Tree) (location : String) (violation : Violation) (steps : List Step)
    (target : Tree) (last : List Step) : Prop where
  leads : Leads node steps target
  final : last = [] ∨ last = [.additionalProperties] ∨ last = [.patternProperties]
  place : violation.location = location ++ wayText (steps ++ last)
  alone : readSchema (location ++ wayText steps) target = .error (.rule violation)
  /-- The node is refused before the nodes inside it are looked at. -/
  itself : forall changed, SameSurface target changed ->
    readSchema (location ++ wayText steps) changed = .error (.rule violation)
  /-- The rule and the way are the same from any location. -/
  anywhere : forall other, readSchema other node =
    .error (.rule ⟨other ++ wayText (steps ++ last), violation.rule⟩)

/-- A rule that a schema violates is reported where the first node lies that violates it by
itself. -/
theorem readSchema_blames {node : Tree} {location : String} {violation : Violation}
    (textKeyed : node.isTextKeyed = true)
    (failed : readSchema location node = .error (.rule violation)) :
    Exists fun steps => Exists fun target => Exists fun last =>
      Blamed node location violation steps target last := by
  rcases Outcome.mapError_eq_error_iff.mp failed with ⟨refusal, refused, located⟩
  cases refusal with
  | formatNotText reason => cases located
  | illegible => cases located
  | fault fault =>
      cases located
      rcases Schema.faultOf_of_failure? node fault textKeyed
        (Outcome.failure?_eq_some_iff.mpr refused) with ⟨steps, target, last, leads, own, way⟩
      have alone {changed : Tree} (surface : SameSurface target changed) :
          readSchema (location ++ wayText steps) changed =
            .error (.rule (fault.located location)) := by
        rw [Schema.refusal?_of_sameSurface surface] at own
        rw [readSchema_of_refusal? own, Fault.located, Fault.located, way, ← wayText, ← wayText,
          Schema.wayText_append, String.append_assoc]
      refine ⟨steps, target, last, leads, ?_, ?_, alone (.same target), fun _ => alone, ?_⟩
      · simpa [Schema.lastSteps] using Schema.steps_of_refusal? own
      · rw [Fault.located, way, wayText]
      · exact readSchema_of_leads leads textKeyed own

/-- The items of the second property declare a map, and a property of theirs is no schema. -/
def nestedNode : Tree :=
  let items := Tree.object [("properties", .object [("inner", .null)]),
    ("patternProperties", .object [("^x", .object [("type", .str "string")])])]
  .object [("type", .str "object"), ("properties", .object [
    ("first", .object [("type", .str "string")]),
    ("second", .object [("type", .str "array"), ("items", items)]),
    ("third", .object [])])]

/-- The unsupported member is reported, and neither the property beside it nor the third one of
the outer object, which has no type. -/
theorem readSchema_blames_nestedNode :
    nestedNode.isTextKeyed = true ∧
      readSchema "A" nestedNode = .error (.rule
        ⟨"A.properties.second.items.patternProperties", .unsupported .additionalProperties⟩) ∧
      Exists fun steps => Exists fun target => Exists fun last =>
        Blamed nestedNode "A"
          ⟨"A.properties.second.items.patternProperties", .unsupported .additionalProperties⟩
          steps target last := by
  have textKeyed : nestedNode.isTextKeyed = true := by decide
  have sound : forall earlier, earlier ∈ [(Tree.str "first", Tree.object [("type", .str "string")])] ->
      Outcome.Succeeds (Schema.read earlier.2) := by
    intro earlier member
    rw [List.mem_singleton.mp member]
    exact Outcome.exists_of_isOk (by decide +kernel)
  have leads : Leads nestedNode [.property "second", .items] _ :=
    .property rfl rfl sound (.items rfl rfl .here)
  have failed := @readSchema_of_leads _ _ _ [.patternProperties] _ leads textKeyed rfl "A"
  exact ⟨textKeyed, failed, readSchema_blames textKeyed failed⟩

end Document
end RouteIR
