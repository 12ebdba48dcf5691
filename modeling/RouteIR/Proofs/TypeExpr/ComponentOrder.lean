import RouteIR.Proofs.Outcome.Agreement
import RouteIR.Proofs.TypeExpr.Components

namespace RouteIR

/-!
# Components in another order

A type asks of the components only whether a name is among them, what stands under a name,
and how many there are.  None of the three depends on the order of components with distinct
names, so neither does any type that is lowered or resolved.  The components themselves are
lowered each by itself, and every one of them has to resolve, so those in another order are
lowered just when the others are.
-/

namespace TypeExpr

mutual

/-- Lowering asks of the names of components only which ones there are. -/
theorem ofSchema_congr {names others : List String}
    (same : forall name, name ∈ names ↔ name ∈ others) (position : Position) (schema : Schema) :
    ofSchema names position schema = ofSchema others position schema := by
  match schema with
  | .object fields required =>
      cases position with
      | component => rw [ofSchema, ofSchema, ofFields_congr same required fields]
      | nested => rfl
      | route => rfl
  | .array element => rw [ofSchema, ofSchema, ofSchema_congr same position.ofItems element]
  | .primitive kind format constraints => rfl
  | .enum values => rfl
  | .ref name =>
      have contained : names.contains name = others.contains name := by
        rw [Bool.eq_iff_iff, List.contains_iff_mem, List.contains_iff_mem]
        exact same name
      rw [ofSchema, ofSchema, contained]

theorem ofFields_congr {names others : List String}
    (same : forall name, name ∈ names ↔ name ∈ others) (required : List String)
    (fields : List (String × Schema)) :
    ofFields names required fields = ofFields others required fields := by
  match fields with
  | [] => rfl
  | (name, schema) :: rest =>
      rw [ofFields, ofFields, ofSchema_congr same .nested schema, ofFields_congr same required rest]

end

end TypeExpr

namespace Components

/-- The same components under distinct names, in whatever order. -/
structure Reordered (left right : Components) : Prop where
  order : left.Perm right
  distinct : (Keyed.keys left).Nodup

namespace Reordered

variable {left right : Components}

theorem lookup (reordered : left.Reordered right) (name : String) :
    left.lookup name = right.lookup name :=
  Keyed.lookup_perm reordered.order reordered.distinct name

theorem mem_keys_iff (reordered : left.Reordered right) (name : String) :
    name ∈ Keyed.keys left ↔ name ∈ Keyed.keys right :=
  (reordered.order.map Prod.fst).mem_iff

theorem ofSchema (reordered : left.Reordered right) (position : Position) (schema : Schema) :
    TypeExpr.ofSchema (Keyed.keys left) position schema =
      TypeExpr.ofSchema (Keyed.keys right) position schema :=
  TypeExpr.ofSchema_congr reordered.mem_keys_iff position schema

theorem follow (reordered : left.Reordered right) (links : Nat) (type : TypeExpr) :
    left.follow links type = right.follow links type := by
  fun_induction Components.follow left links type with
  | case1 name => rfl
  | case2 links name absent =>
      rw [Components.follow, ← reordered.lookup name, absent]
  | case3 links name target found ih =>
      rw [Components.follow, ← reordered.lookup name, found]
      exact ih
  | case4 links type notZero notSucc =>
      cases type with
      | ref name =>
          cases links with
          | zero => exact absurd rfl (notZero name rfl)
          | succ links => exact absurd rfl (notSucc links name rfl)
      | primitive _ | array _ | enum _ | record _ => simp only [Components.follow]

theorem resolve (reordered : left.Reordered right) (type : TypeExpr) :
    left.resolve type = right.resolve type := by
  rw [Components.resolve, Components.resolve, reordered.follow, reordered.order.length_eq]

theorem listElement? (reordered : left.Reordered right) (type : TypeExpr) :
    left.listElement? type = right.listElement? type := by
  simp only [Components.listElement?, reordered.resolve]

end Reordered

/-! ## Lowering components -/

theorem checkAliases_reordered {left right : Components} (reordered : left.Reordered right)
    {names others : List String} (same : names.Perm others) :
    Outcome.Agree Eq (left.checkAliases names) (right.checkAliases others) := by
  have checked : left.checkAliases names = .ok () ↔ right.checkAliases others = .ok () := by
    simp only [checkAliases_eq_ok_iff, reordered.resolve, same.mem_iff]
  apply Outcome.Agree.of_succeeds_iff
  · exact ⟨fun ⟨_, ok⟩ => ⟨(), checked.mp ok⟩, fun ⟨_, ok⟩ => ⟨(), checked.mpr ok⟩⟩
  · exact fun _ _ _ _ => rfl

/-- Schemas in another order are lowered to the same components in another order. -/
theorem ofSchemas_reordered {left right : List (String × Schema)} (order : left.Perm right)
    (distinct : (Keyed.keys left).Nodup) :
    Outcome.Agree Reordered (ofSchemas left) (ofSchemas right) := by
  have sameNames : (Keyed.keys left).Perm (Keyed.keys right) := order.map Prod.fst
  have eachAlike : componentOf (Keyed.keys right) = componentOf (Keyed.keys left) := by
    funext declared
    rw [componentOf, componentOf, TypeExpr.ofSchema_congr fun name => sameNames.symm.mem_iff]
  have lowered : Outcome.Agree List.Perm (ofSchemaList (Keyed.keys left) left)
      (ofSchemaList (Keyed.keys right) right) := by
    rw [ofSchemaList_eq_mapM, ofSchemaList_eq_mapM, eachAlike]
    exact Outcome.agree_mapM_perm order
  rw [ofSchemas, ofSchemas]
  apply lowered.attach.bind
  rintro one other ⟨same, leftMade, rightMade⟩
  have reordered : Reordered one other := by
    refine ⟨same, ?_⟩
    rw [keys_of_ofSchemaList leftMade]
    exact distinct
  apply (checkAliases_reordered reordered sameNames).bind
  intro _ _ _
  exact .ok reordered

end Components
end RouteIR
