import RouteIR.Interface
import RouteIR.Proofs.Decoder.Demands

namespace RouteIR
namespace Interface

/-!
# The stages of an interface

A document has an interface when each of the four stages succeeds on what the stage before
it made, and otherwise fails with the failure of the first stage that does not.
-/

theorem documentOf_eq_ok_iff {tree : Tree} {document : Document} :
    documentOf tree = .ok document ↔ Document.read tree = .ok document :=
  Outcome.mapError_eq_ok_iff

theorem ofTree_eq_ok_iff (tree : Tree) (interface : Interface) :
    ofTree tree = .ok interface ↔ Exists fun document =>
      Document.read tree = .ok document ∧
      componentsOf document = .ok interface.components ∧
      routesOf interface.components document = .ok interface.routes ∧
      DecoderPlan.ofRoutes interface.routes interface.components = .ok interface.decoders ∧
      interface.decoders.isNameable = true := by
  rw [ofTree]
  simp only [Outcome.bind_eq_ok_iff, Outcome.pure_eq_ok_iff, documentOf_eq_ok_iff,
    DecoderPlan.forRoutes_eq_ok_iff]
  constructor
  · rintro ⟨document, read, components, typed, routes, aggregated, decoders, planned, rfl⟩
    exact ⟨document, read, typed, aggregated, planned⟩
  · rintro ⟨document, read, typed, aggregated, planned⟩
    exact ⟨document, read, interface.components, typed, interface.routes, aggregated,
      interface.decoders, planned, rfl⟩

theorem ofTree_eq_error_iff (tree : Tree) (failure : Failure) :
    ofTree tree = .error failure ↔
      documentOf tree = .error failure ∨
      Exists fun document => Document.read tree = .ok document ∧
        (componentsOf document = .error failure ∨
          Exists fun components => componentsOf document = .ok components ∧
            (routesOf components document = .error failure ∨
              Exists fun routes => routesOf components document = .ok routes ∧
                DecoderPlan.forRoutes routes components = .error failure)) := by
  rw [ofTree]
  simp only [Outcome.bind_eq_error_iff, Outcome.pure_ne_error, and_false, exists_false, or_false,
    documentOf_eq_ok_iff]

end Interface
end RouteIR
