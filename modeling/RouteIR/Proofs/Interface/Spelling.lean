import RouteIR.Proofs.Document.Spelling
import RouteIR.Proofs.Interface.KeyOrder

namespace RouteIR
namespace Interface

/-!
# Interfaces of documents with their keys respelled

A document may come with keys of any scalar kind, as statuses often do, or with the texts that
these read as.  Nothing in an interface tells the two spellings apart.  They differ in one thing:
the document may be refused where the respelled one is not, for a name that an object requires
and that only the field of another key bears.
-/

theorem documentOf_respelled (tree : Tree) :
    Outcome.AgreeUnless (Document.HiddenFailure tree) Document.Alike (documentOf tree)
      (documentOf tree.respelled) := by
  apply (Document.read_respelled tree).mapError
  rintro _ ⟨node, name, location, within, hides, rfl⟩
  exact ⟨node, name, location, within, hides, rfl⟩

theorem ofTree_respelled (tree : Tree) :
    Outcome.AgreeUnless (Document.HiddenFailure tree) Eq (ofTree tree) (ofTree tree.respelled) := by
  rw [ofTree, ofTree]
  apply (documentOf_respelled tree).bind
  intro document changed _ alike
  apply (Components.ofSchemas_alike alike.components).mapError.unless.bind
  rintro components _ _ rfl
  apply (Routes.ofPaths_alike components alike.paths).mapError.unless.bind
  rintro routes _ _ rfl
  exact (Outcome.Agree.of_eq rfl).unless

/-- A document and its respelling have the same interface or have none, unless the document is
refused for a name that an object in it hides. -/
theorem ofTree_respelled_iff (tree : Tree) :
    (forall interface, ofTree tree = .ok interface ↔ ofTree tree.respelled = .ok interface) ∨
      Exists fun failure => ofTree tree = .error failure ∧
        Document.HiddenFailure tree failure := by
  by_cases refused : Exists fun failure => ofTree tree = .error failure ∧
      Document.HiddenFailure tree failure
  · exact Or.inr refused
  · refine Or.inl fun interface => ⟨fun made => ?_, fun made => ?_⟩
    · rcases (ofTree_respelled tree).exists_ok made with ⟨_, respelledMade, rfl⟩
      exact respelledMade
    · rcases (ofTree_respelled tree).of_ok made with ⟨_, treeMade, rfl⟩ | excused
      · exact treeMade
      · exact absurd excused refused

/-- A document with a component, a field, a status and a media type under keys that are no
texts. -/
def spelledTree : Tree :=
  .object [
    ("components", .object [("schemas", .map [(.bool true, .object [("type", .str "object"),
      ("properties", .map [(.null, .object [("type", .str "integer"), ("minimum", .int 1)])]
        none)])] none)]),
    ("paths", .object [("/a", .object [("get", .object [("responses", .map [(.int 200, .object [
      ("content", .map [(.int 0, .object [("schema",
        .object [("$ref", .str "#/components/schemas/True")])])] none)])] none)])])])]

theorem ofTree_respelled_iff_of_spelledTree :
    Exists fun interface => ofTree spelledTree = .ok interface ∧
      ofTree spelledTree.respelled = .ok interface ∧
      interface.components.map (·.1) = ["True"] ∧
      interface.routes.items.map (·.responses.map (·.1)) = [["200"]] := by
  have accepted : Outcome.Succeeds (ofTree spelledTree) :=
    Outcome.exists_of_isOk (by decide +kernel)
  rcases accepted with ⟨interface, made⟩
  have components : interface.components.map (·.1) = ["True"] :=
    Outcome.part_eq_of_computed made (·.components.map (·.1)) (by decide +kernel)
  have statuses : interface.routes.items.map (·.responses.map (·.1)) = [["200"]] :=
    Outcome.part_eq_of_computed made (·.routes.items.map (·.responses.map (·.1)))
      (by decide +kernel)
  rcases ofTree_respelled_iff spelledTree with same | ⟨failure, refused, _⟩
  · exact ⟨interface, made, (same interface).mp made, components, statuses⟩
  · rw [made] at refused
    cases refused

/-- A document with an object that requires the name of its only field and has the property
under a number. -/
def hidingTree : Tree :=
  .object [
    ("components", .object [("schemas", .object [("A", .object [("type", .str "object"),
      ("properties", .map [(.int 200, .object [("type", .str "string")])] none),
      ("required", .list [.str "200"] none)])])]),
    ("paths", .object [])]

/-- The document is refused for its spelling alone. -/
theorem refused_hidingTree :
    hidingTree.isSpelledApart = true ∧ Outcome.Succeeds (ofTree hidingTree.respelled) ∧
      ¬ Outcome.Succeeds (ofTree hidingTree) := by
  refine ⟨by decide +kernel, Outcome.exists_of_isOk (by decide +kernel), ?_⟩
  rintro ⟨interface, made⟩
  have refused : (ofTree hidingTree).isOk = false := by decide +kernel
  rw [made] at refused
  cases refused

end Interface
end RouteIR
