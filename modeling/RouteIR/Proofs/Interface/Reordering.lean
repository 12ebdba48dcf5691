import RouteIR.Proofs.Decoder.Agreement
import RouteIR.Proofs.Document.Reordering
import RouteIR.Proofs.Interface.ClosedWorld

namespace RouteIR

/-!
# Interfaces of documents in another order

A document whose paths and path items are written in another order has an interface too,
with the same components, the same routes in another order, and decoders for the same
things.  Their names can differ all the same: of two values that count as one and are
spelled differently, the name shows the one that is met first.
-/

namespace Routes

open Document (PathReordered)

theorem itemsOf_perm {components : Components} {template : String} {left right : List Operation}
    {items : List RouteItem} (reordered : left.Perm right)
    (made : itemsOf components template left = .ok items) :
    Exists fun changed => itemsOf components template right = .ok changed ∧
      items.Perm changed := by
  rw [itemsOf_eq_mapM, Outcome.mapM_eq_ok_iff] at made
  rcases Outcome.forall₂_perm made reordered with ⟨changed, changedMade, sameItems⟩
  refine ⟨changed, ?_, sameItems⟩
  rw [itemsOf_eq_mapM, Outcome.mapM_eq_ok_iff]
  exact changedMade

theorem pathOf_reordered {components : Components} {path other : String × List Operation}
    {entry : String × PathRoutes} (reordered : PathReordered path other)
    (made : pathOf components path = .ok entry) :
    Exists fun changed => pathOf components other = .ok changed ∧
      entry.2.items.Perm changed.2.items := by
  rcases Outcome.map_eq_ok_iff.mp made with ⟨items, itemsMade, rfl⟩
  rcases itemsOf_perm reordered.operations itemsMade with ⟨changed, changedMade, sameItems⟩
  refine ⟨(other.1, ⟨other.1, changed⟩), Outcome.map_eq_ok_iff.mpr ⟨changed, ?_, rfl⟩, sameItems⟩
  rw [reordered.template]
  exact changedMade

/-- Reordered operations make the same route items, path by path. -/
theorem ofPaths_reordered {components : Components} {paths others : List (String × List Operation)}
    {routes : Routes} (reordered : List.Forall₂ PathReordered paths others)
    (made : List.Forall₂ (fun path entry => pathOf components path = .ok entry) paths routes) :
    Exists fun changed : Routes =>
      List.Forall₂ (fun path entry => pathOf components path = .ok entry) others changed ∧
      routes.items.Perm changed.items := by
  induction reordered generalizing routes with
  | nil =>
      cases made
      exact ⟨[], .nil, .nil⟩
  | cons first _ ih =>
      cases made with
      | cons firstMade othersMade =>
          rcases pathOf_reordered first firstMade with ⟨entry, entryMade, sameItems⟩
          rcases ih othersMade with ⟨changed, changedMade, sameOthers⟩
          refine ⟨entry :: changed, .cons entryMade changedMade, ?_⟩
          rw [items, items, List.flatMap_cons, List.flatMap_cons]
          exact sameItems.append sameOthers

/-- Reordered paths have the same route items in another order. -/
theorem ofPaths_perm {components : Components}
    {paths middle others : List (String × List Operation)}
    {routes : Routes} (operations : List.Forall₂ PathReordered paths middle)
    (reordered : middle.Perm others) (made : ofPaths components paths = .ok routes) :
    Exists fun changed => ofPaths components others = .ok changed ∧
      routes.items.Perm changed.items := by
  rw [ofPaths_eq_mapM, Outcome.mapM_eq_ok_iff] at made
  rcases ofPaths_reordered operations made with ⟨middleRoutes, middleMade, sameItems⟩
  rcases Outcome.forall₂_perm middleMade reordered with ⟨changed, changedMade, sameEntries⟩
  refine ⟨changed, ?_, sameItems.trans (sameEntries.flatMap_right _)⟩
  rw [ofPaths_eq_mapM, Outcome.mapM_eq_ok_iff]
  exact changedMade

end Routes

namespace Interface

/-- What a document keeps when its paths and path items are reordered. -/
structure Reordered (left right : Interface) : Prop where
  components : right.components = left.components
  items : left.routes.items.Perm right.routes.items
  keys : DecoderPlan.SameKeys left.decoders right.decoders
  names : SpelledAlike left.components left.routes.types ->
    DecoderPlan.SameNames left.decoders right.decoders

/-- Every reordered document has an interface, with decoders for the same things.  They have
the same names where values that count as one are spelled alike. -/
theorem reordered_of_ofTree {tree other : Tree} {interface : Interface}
    (wellKeyed : tree.isWellKeyed = true) (reordered : Document.Reordered tree other)
    (made : ofTree tree = .ok interface) :
    Exists fun changed => ofTree other = .ok changed ∧ interface.Reordered changed := by
  rcases (ofTree_eq_ok_iff tree interface).mp made with
    ⟨document, readOk, typed, aggregated, planned, nameable⟩
  rcases Document.read_reordered wellKeyed reordered readOk with
    ⟨changedDocument, changedRead, sameComponents, middle, operations, samePaths⟩
  have changedTyped : componentsOf changedDocument = .ok interface.components := by
    rw [componentsOf, sameComponents]
    exact typed
  have routesMade := ofPaths_of_routesOf aggregated
  rcases Routes.ofPaths_perm operations samePaths routesMade with
    ⟨routes, changedMade, sameItems⟩
  have changedAggregated : routesOf interface.components changedDocument = .ok routes :=
    Outcome.mapError_eq_ok_iff.mpr changedMade
  rcases exists_plan_of_routesOf changedTyped changedAggregated with ⟨plan, changedPlanned⟩
  have closed := (settled_of_componentsOf typed).closed
  have types (type : TypeExpr) : type ∈ routes.types ↔ type ∈ interface.routes.types := by
    simp only [Routes.types, List.mem_flatMap, sameItems.mem_iff]
  have sameKeys : DecoderPlan.SameKeys interface.decoders plan :=
    DecoderPlan.sameKeys_of_exact (fun item => sameItems.mem_iff)
      (DecoderPlan.exact_of_routes closed routesMade planned)
      (DecoderPlan.exact_of_routes closed changedMade changedPlanned)
  have leftMade := DecoderPlan.madeFor_of_routes closed routesMade planned
  have rightMade := (DecoderPlan.madeFor_of_routes closed changedMade changedPlanned).mono
    fun type => (types type).mp
  refine ⟨⟨interface.components, routes, plan⟩, ?_, rfl, sameItems, sameKeys, ?_⟩
  · exact (ofTree_eq_ok_iff _ _).mpr
      ⟨changedDocument, changedRead, changedTyped, changedAggregated, changedPlanned,
        sameKeys.isNameable_iff.mp nameable⟩
  · exact fun alike => sameKeys.names alike leftMade rightMade

/-! ## Two orders of one document -/

/-- A path with one operation, which has one parameter with a lower bound. -/
def boundEntry (path : String × Tree) : Tree × Tree :=
  let schema : Tree := .object [("type", .str "number"), ("minimum", path.2)]
  let parameter : Tree := .object [("name", .str "p"), ("in", .str "query"), ("schema", schema)]
  (.str path.1, .map [(.str "get", .object [("parameters", .list [parameter] none)])] none)

def boundsTree (paths : List (String × Tree)) : Tree :=
  .map [(.str "paths", .map (paths.map boundEntry) none)] none

theorem reordered_boundsTree {paths others : List (String × Tree)} (reordered : paths.Perm others) :
    Document.Reordered (boundsTree paths) (boundsTree others) := by
  refine ⟨⟨_, _, rfl⟩, ?_, ?_⟩
  · intro key differs
    have other : (Tree.str "paths").isText key = false := by
      simpa [Tree.isText] using Ne.symm differs
    simp [boundsTree, Tree.entries, Tree.lookup?, other]
  · rintro entries label ⟨⟩
    refine ⟨paths.map boundEntry, others.map boundEntry, none, ?_, reordered.map boundEntry, rfl⟩
    rw [List.forall₂_same]
    intro entry member
    rcases List.mem_map.mp member with ⟨path, _, rfl⟩
    exact ⟨rfl, .map (List.Perm.refl _)⟩

/-- Two paths with bounds of different values. -/
def unequalBounds : List (String × Tree) := [("/a", .int 0), ("/b", .int 1)]

/-- The type of a parameter with a lower bound. -/
def boundedBelow (value : Int) : Primitive := ⟨.number, none, [.minimum (.int value)]⟩

theorem reordered_unequalBounds :
    (boundsTree unequalBounds).isWellKeyed = true ∧
      Document.Reordered (boundsTree unequalBounds) (boundsTree unequalBounds.reverse) ∧
      Exists fun left => Exists fun right =>
        ofTree (boundsTree unequalBounds) = .ok left ∧
        ofTree (boundsTree unequalBounds.reverse) = .ok right ∧
        SpelledAlike left.components left.routes.types ∧ left.Reordered right ∧
        DecoderPlan.SameNames left.decoders right.decoders := by
  have wellKeyed : (boundsTree unequalBounds).isWellKeyed = true := by decide +kernel
  have reordered := reordered_boundsTree (List.reverse_perm unequalBounds).symm
  have accepted : Exists fun interface => ofTree (boundsTree unequalBounds) = .ok interface :=
    Outcome.exists_of_isOk (by decide +kernel)
  rcases accepted with ⟨left, leftMade⟩
  rcases reordered_of_ofTree wellKeyed reordered leftMade with ⟨right, rightMade, kept⟩
  have primitives : left.routes.types.map TypeExpr.primitive? =
      ([0, 1].map boundedBelow).map some :=
    Outcome.part_eq_of_computed leftMade (·.routes.types.map TypeExpr.primitive?)
      (by decide +kernel)
  have alike : SpelledAlike left.components left.routes.types :=
    .of_primitives primitives (by decide +kernel)
  exact ⟨wellKeyed, reordered, left, right, leftMade, rightMade, alike, kept, kept.names alike⟩

/-- Two paths with bounds of one value, an integer and a floating-point number. -/
def spelledBounds : List (String × Tree) := [("/a", .int 0), ("/b", .float (Binary64.zero false))]

/-- The document has an interface in either order, with one check in each, and the name of
the check is not the same. -/
theorem names_differ_in_order :
    (boundsTree spelledBounds).isWellKeyed = true ∧
      Document.Reordered (boundsTree spelledBounds) (boundsTree spelledBounds.reverse) ∧
      Exists fun left => Exists fun right =>
        ofTree (boundsTree spelledBounds) = .ok left ∧
        ofTree (boundsTree spelledBounds.reverse) = .ok right ∧
        left.decoders.refinementDecoders.map (·.name) = ["number_minimum_0"] ∧
        right.decoders.refinementDecoders.map (·.name) = ["number_minimum_0_0"] := by
  have leftMade : Exists fun interface => ofTree (boundsTree spelledBounds) = .ok interface :=
    Outcome.exists_of_isOk (by decide +kernel)
  have rightMade : Exists fun interface =>
      ofTree (boundsTree spelledBounds.reverse) = .ok interface :=
    Outcome.exists_of_isOk (by decide +kernel)
  rcases leftMade with ⟨left, leftMade⟩
  rcases rightMade with ⟨right, rightMade⟩
  have leftName : left.decoders.refinementDecoders.map (·.name) = ["number_minimum_0"] :=
    Outcome.part_eq_of_computed leftMade (·.decoders.refinementDecoders.map (·.name))
      (by decide +kernel)
  have rightName : right.decoders.refinementDecoders.map (·.name) = ["number_minimum_0_0"] :=
    Outcome.part_eq_of_computed rightMade (·.decoders.refinementDecoders.map (·.name))
      (by decide +kernel)
  exact ⟨by decide +kernel, reordered_boundsTree (List.reverse_perm _).symm, left, right,
    leftMade, rightMade, leftName, rightName⟩

end Interface
end RouteIR
