import RouteIR.Proofs.Document.Reordering
import RouteIR.Proofs.Document.Tables
import RouteIR.Proofs.Outcome.Agreement

namespace RouteIR

/-!
# Documents with their components in another order

Component schemas are read one by one, under the texts of their keys.  A document with the
same schemas in another order is read just when the first one is, and as the same paths; when
the texts of the keys differ, no schema replaces another, and the components are the same in
another order.
-/

namespace Tree

/-- Two mappings that differ only in what stands under one key. -/
inductive ChangedAt (key : String) (change : Tree -> Tree -> Prop) : Tree -> Tree -> Prop
  | map {before after : List (Tree × Tree)} {value other : Tree} {label otherLabel : Option Label}
      (first : lookup? key before = none) (changed : change value other) :
      ChangedAt key change (.map (before ++ (.str key, value) :: after) label)
        (.map (before ++ (.str key, other) :: after) otherLabel)

theorem lookup?_append (key : String) (before after : List (Tree × Tree)) :
    lookup? key (before ++ after) = (lookup? key before).or (lookup? key after) := by
  induction before with
  | nil => rfl
  | cons entry rest ih =>
      rcases entry with ⟨entryKey, value⟩
      rw [List.cons_append, lookup?, lookup?, ih]
      split <;> rfl

section Changed

variable {key : String} {before after : List (Tree × Tree)}

theorem lookup?_changed (first : lookup? key before = none) (value : Tree) :
    lookup? key (before ++ (.str key, value) :: after) = some value := by
  have own : (Tree.str key).isText key = true := (isText_iff _ _).mpr rfl
  rw [lookup?_append, first, Option.none_or, lookup?, if_pos own]

theorem lookup?_outside {outside : String} (differs : outside ≠ key) (value other : Tree) :
    lookup? outside (before ++ (.str key, value) :: after) =
      lookup? outside (before ++ (.str key, other) :: after) := by
  have foreign : ¬ (Tree.str key).isText outside = true := by
    rw [isText_iff]
    intro same
    exact differs (Tree.str.inj same).symm
  rw [lookup?_append, lookup?_append, lookup?, lookup?, if_neg foreign, if_neg foreign]

end Changed

end Tree

namespace Document

/-- Two documents that differ in the order of their component schemas alone. -/
def ComponentsReordered : Tree -> Tree -> Prop :=
  Tree.ChangedAt "components" (Tree.ChangedAt "schemas" ItemReordered)

/-- The same schemas under distinct names in whatever order, and the same paths. -/
structure SameButOrder (left right : Document) : Prop where
  components : left.components.Perm right.components
  distinct : (Keyed.keys left.components).Nodup
  paths : left.paths = right.paths

theorem readComponents_reordered {left right : Tree}
    (reordered : Tree.ChangedAt "schemas" ItemReordered left right)
    (distinct : ((Tree.field "schemas" left.entries).entries.map (·.1.display)).Nodup) :
    Outcome.Agree (fun one other => one.Perm other ∧ (Keyed.keys one).Nodup)
      (readComponents left) (readComponents right) := by
  cases reordered with
  | @map before after _ _ _ _ first changed =>
      cases changed with
      | @map schemas others _ _ order =>
          have fieldOf (value : Tree) :
              Tree.field "schemas" (before ++ (.str "schemas", value) :: after) = value := by
            rw [Tree.field, Tree.lookup?_changed first, Option.getD_some]
          rw [Tree.entries, fieldOf, Tree.entries] at distinct
          simp only [readComponents, fieldOf, readComponentList_eq_mapM]
          apply (Outcome.agree_mapM_perm order).attach.map
          rintro pairs changed ⟨same, pairsRead, _⟩
          rw [Outcome.mapM_eq_ok_iff] at pairsRead
          have read : ReadPairs Reads schemas pairs :=
            pairsRead.imp fun entry component one =>
              ((readComponent_eq_ok_iff entry component).mp one).2
          have names : (Keyed.keys pairs).Nodup := by
            rwa [← read.keys]
          have changedNames : (Keyed.keys changed).Nodup :=
            (same.map Prod.fst).nodup_iff.mp names
          rw [Keyed.ofList_of_nodup names, Keyed.ofList_of_nodup changedNames]
          exact ⟨same, names⟩

theorem readPaths_congr {left right : List (Tree × Tree)}
    (paths : Tree.lookup? "paths" left = Tree.lookup? "paths" right) :
    readPaths left = readPaths right := by
  rw [readPaths, readPaths, paths]

/-- A document with its components in another order is read just when the first one is. -/
theorem read_componentsReordered {tree other : Tree} (reordered : ComponentsReordered tree other)
    (distinct : ((schemaEntries tree).map (·.1.display)).Nodup) :
    Outcome.Agree SameButOrder (read tree) (read other) := by
  cases reordered with
  | @map before after left right _ _ first changed =>
      have fieldOf (value : Tree) :
          Tree.field "components" (before ++ (.str "components", value) :: after) = value := by
        rw [Tree.field, Tree.lookup?_changed first, Option.getD_some]
      have outside (key : String) (differs : key ≠ "components") :
          Tree.lookup? key (before ++ (.str "components", left) :: after) =
            Tree.lookup? key (before ++ (.str "components", right) :: after) :=
        Tree.lookup?_outside differs left right
      rw [schemaEntries, Tree.entries, fieldOf] at distinct
      simp only [read, fieldOf, readPaths_congr (outside "paths" (by decide)),
        checkVersion_congr (outside "swagger" (by decide)) (outside "openapi" (by decide))]
      apply (Outcome.Agree.of_eq rfl).bind
      intro _ _ _
      apply (readComponents_reordered changed distinct).bind
      rintro components others ⟨order, names⟩
      apply (Outcome.Agree.of_eq rfl).bind
      rintro paths _ rfl
      exact .ok ⟨order, names, rfl⟩

end Document
end RouteIR
