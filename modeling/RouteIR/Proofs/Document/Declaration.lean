import RouteIR.Proofs.Document.Reading
import RouteIR.Proofs.Tree.Keys

namespace RouteIR
namespace Document

/-!
# The operations that a document declares

The source declares an operation by an entry of a path item whose key names a method, in
whatever case of its letters.  Reading keeps the order of these entries, passes over all
others, and accepts no method twice.  What an operation has of its entry is said here
without locations, so that it can be compared with what becomes of it later.
-/

/-! ## Bodies and responses -/

/-- What a body is read as: none where it carries no schema, else the schema that it
carries. -/
inductive BodyReads (body : Tree) : Option Schema -> Prop
  | none (empty : forall node, ¬ CarriesSchema body node) : BodyReads body none
  | some {node : Tree} {schema : Schema} (carries : CarriesSchema body node)
      (schemaRead : Schema.read node = .ok schema) : BodyReads body (some schema)

theorem bodyReads_of_eq_ok {location : String} {body : Tree} {schema : Option Schema}
    (readOk : readBody location body = .ok schema) : BodyReads body schema := by
  by_cases carried : Exists fun node => CarriesSchema body node
  · rcases carried with ⟨node, carries⟩
    rcases readBody_of_carries carries (not_hides_of_eq_ok readOk) location with ⟨place, same⟩
    rw [readOk] at same
    rcases Outcome.map_eq_ok_iff.mp same.symm with ⟨found, schemaRead, rfl⟩
    exact .some carries ((readSchema_eq_ok_iff _ _ _).mp schemaRead)
  · rcases exists_carries_of_body location body with empty | ⟨violation, refused⟩ | carries
    · rw [readOk] at empty
      cases empty
      exact .none (not_exists.mp carried)
    · rw [readOk] at refused
      cases refused
    · exact absurd carries carried

theorem BodyReads.eq_none_iff {body : Tree} {schema : Option Schema}
    (reads : BodyReads body schema) :
    schema = Option.none ↔ ¬ Exists fun node => CarriesSchema body node := by
  cases reads with
  | none empty => simp [empty]
  | @some node schema carries _ => simp [Exists.intro node carries]

/-- What an operation has of the mapping that declares it.  A table of responses is built
from what each of them is read as. -/
structure OperationOf (method : Method) (entries : List (Tree × Tree)) (operation : Operation) :
    Prop where
  method : operation.method = method
  operationId : (Tree.field "operationId" entries).optionalText = .ok operation.operationId
  responses : Exists fun pairs => operation.responses = Keyed.ofList pairs ∧
    List.Forall₂ (fun entry response => response.1 = entry.1.display ∧ BodyReads entry.2 response.2)
      (Tree.field "responses" entries).entries pairs

theorem operationOf_of_eq_ok {method : Method} {location : String} {pathParameters : List Tree}
    {entries : List (Tree × Tree)} {operation : Operation}
    (readOk : readOperation method location pathParameters entries = .ok operation) :
    OperationOf method entries operation := by
  rw [readOperation] at readOk
  simp only [Outcome.bind_eq_ok_iff, Outcome.pure_eq_ok_iff] at readOk
  rcases readOk with ⟨_, _, _, _, responseEntries, responsesFound, _, _, _, _, pairs, pairsRead,
    operationId, operationIdRead, rfl⟩
  refine ⟨rfl, ?_, pairs, rfl, ?_⟩
  · rw [readOperationId] at operationIdRead
    split at operationIdRead
    · next name nameRead =>
        cases operationIdRead
        exact nameRead
    · cases operationIdRead
  · rw [readResponses_eq_mapM, Outcome.mapM_eq_ok_iff] at pairsRead
    rw [← responsesOf_eq_ok responsesFound]
    refine pairsRead.imp ?_
    intro entry response responseRead
    rcases Outcome.map_eq_ok_iff.mp responseRead with ⟨schema, bodyRead, rfl⟩
    exact ⟨rfl, bodyReads_of_eq_ok (Tree.withText_eq_ok_iff.mp bodyRead).2⟩

/-! ## Declarations -/

theorem operationOf_of_readNamed {location : String} {pathParameters : List Tree}
    {named : Method × Tree × Tree} {operation : Operation}
    (readOk : readNamed location pathParameters named = .ok operation) :
    OperationOf named.1 named.2.2.entries operation := by
  rcases named with ⟨method, key, value⟩
  cases value with
  | map entries label => exact operationOf_of_eq_ok readOk
  | _ => cases readOk

/-- An operation as the source declares it. -/
structure Declaration where
  path : String
  method : Method
  entries : List (Tree × Tree)

/-- The operations that an entry of the paths declares, in the order of its entries. -/
def declarationsOf (entry : Tree × Tree) : List Declaration :=
  (methodEntries entry.2.entries).map fun named => ⟨entry.1.display, named.1, named.2.2.entries⟩

/-- The entries under the paths of a document tree. -/
def pathEntries (tree : Tree) : List (Tree × Tree) := (Tree.field "paths" tree.entries).entries

/-- The operations that a document tree declares: path by path, and in each path entry by
entry. -/
def declarations (tree : Tree) : List Declaration := (pathEntries tree).flatMap declarationsOf

/-- An operation of a path, as a declaration has it. -/
structure Declares (declaration : Declaration) (path : String) (operation : Operation) :
    Prop where
  path : declaration.path = path
  operation : OperationOf declaration.method declaration.entries operation

/-- Each operation of a path is that of a declaration, in the same order, and no method is
declared twice. -/
theorem declares_of_readPath {entry : Tree × Tree} {path : String × List Operation}
    (readOk : readPath entry = .ok path) :
    ((declarationsOf entry).map (·.method)).Nodup ∧
      List.Forall₂ (Declares · path.1) (declarationsOf entry) path.2 := by
  rcases (readPath_eq_ok_iff entry path).mp readOk with
    ⟨named, entries, label, isMap, _, itemRead⟩
  rcases (readPathItem_eq_ok_iff _ _ _).mp itemRead with ⟨pathParameters, _, _, operationsRead⟩
  rcases (readOperations_eq_ok_iff _ _ _ _ _).mp operationsRead with ⟨_, distinct, _, allRead⟩
  have template : entry.1.display = path.1 := by rw [pathOf?_eq_some named, Tree.display]
  rw [declarationsOf, isMap, template]
  constructor
  · rw [List.map_map]
    exact distinct
  · rw [List.forall₂_map_left_iff]
    refine ((Outcome.mapM_eq_ok_iff _ _ _).mp allRead).imp ?_
    exact fun _ _ one => ⟨rfl, operationOf_of_readNamed one⟩

/-- The paths of a document are a table of what the entries under its paths are read as. -/
theorem exists_pairs_of_paths {tree : Tree} {document : Document}
    (readOk : read tree = .ok document) :
    Exists fun pairs => document.paths = Keyed.ofList pairs ∧
      List.Forall₂ (fun entry path => readPath entry = .ok path) (pathEntries tree) pairs := by
  rcases (read_eq_ok_iff tree document).mp readOk with ⟨entries, label, rfl, _, _, pathsRead⟩
  rcases (readPaths_eq_ok_iff _ _).mp pathsRead with
    ⟨inner, innerLabel, found, pairs, pairsRead, same⟩
  refine ⟨pairs, same, ?_⟩
  rw [pathEntries, Tree.entries, Tree.field, found]
  exact pairsRead

end Document
end RouteIR
