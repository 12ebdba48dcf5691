import RouteIR.Proofs.Document.Reading

namespace RouteIR
namespace Document

/-!
# Documents in another order

The paths of a document can be written in another order, and so can the entries of a path
item.  Whatever is looked up is found where it stands, and every location names keys and no
positions, so the reordered document is read as the same components and the same operations,
in another order.
-/

/-- A path item whose entries are those of another one in some order. -/
inductive ItemReordered : Tree -> Tree -> Prop
  | map {left right : List (Tree × Tree)} {label other : Option Label}
      (reordered : left.Perm right) : ItemReordered (.map left label) (.map right other)

/-- Entries of two mappings under one key, their path items reordered. -/
structure EntryReordered (left right : Tree × Tree) : Prop where
  key : right.1 = left.1
  item : ItemReordered left.2 right.2

/-- Two documents that differ in the order of their paths, and of the entries in each path
item. -/
structure Reordered (tree other : Tree) : Prop where
  isMap : Exists fun entries => Exists fun label => other = .map entries label
  outside : forall key, key ≠ "paths" ->
    Tree.lookup? key other.entries = Tree.lookup? key tree.entries
  paths : forall paths label, Tree.lookup? "paths" tree.entries = some (.map paths label) ->
    Exists fun middle => Exists fun others => Exists fun otherLabel =>
      List.Forall₂ EntryReordered paths middle ∧ middle.Perm others ∧
      Tree.lookup? "paths" other.entries = some (.map others otherLabel)

/-- Paths with the same operations, each in some order. -/
structure PathReordered (left right : String × List Operation) : Prop where
  template : right.1 = left.1
  operations : left.2.Perm right.2

/-- A path item is read as the same operations when its entries are reordered. -/
theorem readPathItem_perm {location : String} {left right : List (Tree × Tree)}
    {operations : List Operation} (reordered : left.Perm right)
    (distinct : (left.map Tree.keyIdentity).Nodup)
    (readOk : readPathItem location left = .ok operations) :
    Exists fun changed => readPathItem location right = .ok changed ∧ operations.Perm changed := by
  rcases (readPathItem_eq_ok_iff _ _ _).mp readOk with
    ⟨pathParameters, parametersFound, unique, operationsRead⟩
  rcases (readOperations_eq_ok_iff _ _ _ _ _).mp operationsRead with
    ⟨legible, methods, fresh, allRead⟩
  have named : (methodEntries left).Perm (methodEntries right) := reordered.filterMap _
  rcases Outcome.forall₂_perm ((Outcome.mapM_eq_ok_iff _ _ _).mp allRead) named with
    ⟨changed, changedRead, sameOperations⟩
  refine ⟨changed, (readPathItem_eq_ok_iff _ _ _).mpr ⟨pathParameters, ?_, unique, ?_⟩,
    sameOperations⟩
  · rw [← Tree.field_perm reordered distinct]
    exact parametersFound
  · refine (readOperations_eq_ok_iff _ _ _ _ _).mpr ⟨?_, ?_, ?_, ?_⟩
    · exact (Tree.keysAreLegible_of_perm reordered).symm.trans legible
    · exact (named.map (·.1)).nodup_iff.mp methods
    · intro method member
      exact fresh method ((named.map (·.1)).mem_iff.mpr member)
    · exact (Outcome.mapM_eq_ok_iff _ _ _).mpr changedRead

theorem readPath_reordered {entry other : Tree × Tree} {path : String × List Operation}
    (reordered : EntryReordered entry other) (wellKeyed : entry.2.isWellKeyed = true)
    (readOk : readPath entry = .ok path) :
    Exists fun changed => readPath other = .ok changed ∧ PathReordered path changed := by
  rcases (readPath_eq_ok_iff entry path).mp readOk with
    ⟨named, entries, label, isMap, plain, itemRead⟩
  rcases entry with ⟨key, item⟩
  rcases other with ⟨otherKey, otherItem⟩
  rcases reordered with ⟨rfl, item⟩
  cases item with
  | @map left right _ otherLabel sameEntries =>
      cases isMap
      have distinct := ((Tree.isWellKeyed_map_iff _ _).mp wellKeyed).1
      rcases readPathItem_perm sameEntries distinct itemRead with
        ⟨operations, changedRead, sameOperations⟩
      refine ⟨(path.1, operations), (readPath_eq_ok_iff _ _).mpr ⟨named, right, otherLabel, rfl, ?_,
        changedRead⟩, rfl, sameOperations⟩
      rw [← Tree.lookup?_perm sameEntries distinct]
      exact plain

theorem readPaths_reordered {paths middle : List (Tree × Tree)}
    {pairs : List (String × List Operation)} (reordered : List.Forall₂ EntryReordered paths middle)
    (wellKeyed : forall entry, entry ∈ paths -> entry.2.isWellKeyed = true)
    (pairsRead : List.Forall₂ (fun entry path => readPath entry = .ok path) paths pairs) :
    Exists fun changed =>
      List.Forall₂ (fun entry path => readPath entry = .ok path) middle changed ∧
      List.Forall₂ PathReordered pairs changed := by
  induction reordered generalizing pairs with
  | nil =>
      cases pairsRead
      exact ⟨[], .nil, .nil⟩
  | cons first _ ih =>
      cases pairsRead with
      | cons firstRead othersRead =>
          rcases readPath_reordered first (wellKeyed _ List.mem_cons_self) firstRead with
            ⟨path, pathRead, samePath⟩
          rcases ih (List.forall_mem_of_forall_mem_cons wellKeyed) othersRead with
            ⟨changed, changedRead, sameOthers⟩
          exact ⟨path :: changed, .cons pathRead changedRead, .cons samePath sameOthers⟩

theorem checkVersion_congr {left right : List (Tree × Tree)}
    (swagger : Tree.lookup? "swagger" right = Tree.lookup? "swagger" left)
    (openapi : Tree.lookup? "openapi" right = Tree.lookup? "openapi" left) :
    checkVersion right = checkVersion left := by
  simp only [checkVersion, Tree.field, swagger, openapi]

/-- A reordered document is read as the same components, and as the same paths and
operations in another order. -/
theorem read_reordered {tree other : Tree} {document : Document}
    (wellKeyed : tree.isWellKeyed = true) (reordered : Reordered tree other)
    (readOk : read tree = .ok document) :
    Exists fun changed => read other = .ok changed ∧
      changed.components = document.components ∧
      Exists fun middle => List.Forall₂ PathReordered document.paths middle ∧
        middle.Perm changed.paths := by
  rcases (read_eq_ok_iff tree document).mp readOk with
    ⟨entries, label, rfl, versionChecked, componentsRead, pathsRead⟩
  rcases (readPaths_eq_ok_iff _ _).mp pathsRead with
    ⟨paths, pathsLabel, found, pairs, pairsRead, table⟩
  rcases reordered with ⟨⟨otherEntries, otherLabel, rfl⟩, outside, samePaths⟩
  rw [Tree.entries, Tree.entries] at outside
  rcases samePaths paths pathsLabel found with
    ⟨middle, others, othersLabel, items, sameEntries, otherFound⟩
  have pathsKeyed : (Tree.map paths pathsLabel).isWellKeyed = true := by
    have field := Tree.isWellKeyed_field wellKeyed "paths"
    rwa [Tree.entries, Tree.field, found] at field
  rcases (Tree.isWellKeyed_map_iff _ _).mp pathsKeyed with ⟨distinct, itemsKeyed⟩
  rcases readPaths_reordered items (fun entry member => (itemsKeyed entry member).2) pairsRead with
    ⟨middlePairs, middleRead, sameItems⟩
  rcases Outcome.forall₂_perm middleRead sameEntries with ⟨changed, changedRead, samePairs⟩
  have keys : (Keyed.keys pairs).Nodup := by
    rw [← keys_of_paths pairsRead]
    exact nodup_paths distinct pairsRead
  have middleKeys : Keyed.keys pairs = Keyed.keys middlePairs :=
    Outcome.map_eq_map_of_forall₂ sameItems fun _ _ one => one.template.symm
  have changedKeys : (Keyed.keys changed).Nodup := by
    rw [middleKeys] at keys
    exact (samePairs.map Prod.fst).nodup_iff.mp keys
  refine ⟨⟨document.components, Keyed.ofList changed⟩, ?_, rfl, middlePairs, ?_, ?_⟩
  · refine (read_eq_ok_iff _ _).mpr ⟨otherEntries, otherLabel, rfl, ?_, ?_, ?_⟩
    · rw [checkVersion_congr (outside "swagger" (by decide)) (outside "openapi" (by decide))]
      exact versionChecked
    · rw [Tree.field, outside "components" (by decide)]
      exact componentsRead
    · exact (readPaths_eq_ok_iff _ _).mpr
        ⟨others, othersLabel, otherFound, changed, changedRead, rfl⟩
  · rw [table, Keyed.ofList_of_nodup keys]
    exact sameItems
  · rw [Keyed.ofList_of_nodup changedKeys]
    exact samePairs

end Document
end RouteIR
