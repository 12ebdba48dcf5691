import RouteIR.Proofs.TypeExpr.Lowering

namespace RouteIR

/-!
# What types need of the components

The components that some types need are those that they refer to, those that these refer to,
and so on.  Components that share them with others, whatever else stands there, serve the
types as well: a type is lowered to the same, and it resolves to the same.  The number of
links after which a chain of aliases is given up depends on how many components there are;
but a chain that ends meets no component twice, so there are always as many links as it has.
-/

namespace TypeExpr

theorem mem_referenced_iff {type : TypeExpr} {name : String} :
    name ∈ type.referenced ↔ name ∈ type.names :=
  List.mem_eraseDups

end TypeExpr

namespace Components

/-- The least set of names that holds those which the roots refer to and, with a name, those
which its component refers to. -/
inductive Needs (components : Components) (roots : List TypeExpr) : String -> Prop
  | root {type : TypeExpr} {name : String} (member : type ∈ roots)
      (named : name ∈ type.referenced) : Needs components roots name
  | step {outer name : String} {target : TypeExpr} (needed : Needs components roots outer)
      (found : components.lookup outer = some target) (named : name ∈ target.referenced) :
      Needs components roots name

/-- A type all of whose references are needed. -/
def Serves (components : Components) (roots : List TypeExpr) (type : TypeExpr) : Prop :=
  forall name, name ∈ type.names -> components.Needs roots name

/-- Other components that have the same under every name that some types need. -/
def Shares (components : Components) (roots : List TypeExpr) (other : Components) : Prop :=
  forall name, components.Needs roots name -> other.lookup name = components.lookup name

/-- What is needed lies in every set of names that has those which the roots refer to and is
closed under the references of components. -/
theorem Needs.mem {components : Components} {roots : List TypeExpr} {names : List String}
    (rooted : forall type, type ∈ roots -> type.referenced ⊆ names)
    (closed : forall entry, entry ∈ components -> entry.1 ∈ names -> entry.2.referenced ⊆ names)
    {name : String} (needed : components.Needs roots name) : name ∈ names := by
  induction needed with
  | root member named => exact rooted _ member named
  | step _ found named ih => exact closed _ (Keyed.mem_of_lookup found) ih named

/-- What is left of the components when only those with certain names are kept shares what is
needed, if these are among the names. -/
theorem shares_filter {components : Components} {roots : List TypeExpr} {keep : String -> Bool}
    (kept : forall name, components.Needs roots name -> keep name = true) :
    components.Shares roots (components.filter (keep ·.1)) :=
  fun name needed => by rw [Keyed.lookup_filter, if_pos (kept name needed)]

theorem serves_of_root {components : Components} {roots : List TypeExpr} {type : TypeExpr}
    (member : type ∈ roots) : components.Serves roots type :=
  fun _ named => .root member (TypeExpr.mem_referenced_iff.mpr named)

/-- What is needed of a type is needed of its parts and of its component. -/
theorem hereditary_serves (components : Components) (roots : List TypeExpr) :
    components.Hereditary (components.Serves roots) where
  element _ serves name named := serves name named
  field fields field serves member name named :=
    serves name ((TypeExpr.mem_fieldNames_iff name fields).mpr ⟨field, member, named⟩)
  target name target serves found inner named :=
    .step (serves name (by simp [TypeExpr.names])) found (TypeExpr.mem_referenced_iff.mpr named)

/-! ## Chains of aliases -/

/-- A chain of aliases from a type over names to a type that is no reference. -/
inductive Chain (components : Components) : TypeExpr -> List String -> TypeExpr -> Prop
  | done {type : TypeExpr} (ends : forall name, type ≠ .ref name) : Chain components type [] type
  | link {name : String} {target final : TypeExpr} {names : List String}
      (found : components.lookup name = some target)
      (rest : Chain components target names final) :
      Chain components (.ref name) (name :: names) final

variable {components : Components} {type final : TypeExpr} {names : List String}

/-- A type is followed to the end of its chain, if the links suffice. -/
theorem follow_eq_ok_iff {links : Nat} :
    components.follow links type = .ok final ↔
      Exists fun names => components.Chain type names final ∧ names.length ≤ links := by
  constructor
  · intro followed
    fun_induction Components.follow components links type with
    | case1 => cases followed
    | case2 => cases followed
    | case3 links name target found ih =>
        rcases ih followed with ⟨names, chain, short⟩
        exact ⟨name :: names, .link found chain, Nat.succ_le_succ short⟩
    | case4 links type notZero notSucc =>
        cases followed
        refine ⟨[], .done fun name same => ?_, Nat.zero_le links⟩
        cases links with
        | zero => exact notZero name rfl same
        | succ links => exact notSucc links name rfl same
  · rintro ⟨names, chain, short⟩
    induction chain generalizing links with
    | @done type ends =>
        cases type with
        | ref name => exact absurd rfl (ends name)
        | primitive _ | array _ | enum _ | record _ => simp only [Components.follow]
    | link found _ ih =>
        cases links with
        | zero => exact absurd short (by simp)
        | succ links =>
            rw [Components.follow, found]
            exact ih (Nat.le_of_succ_le_succ short)

/-- From one type there is one chain. -/
theorem Chain.unique (chain : components.Chain type names final) {others : List String}
    {other : TypeExpr} (again : components.Chain type others other) : names = others := by
  induction chain generalizing others with
  | done ends =>
      cases again with
      | done => rfl
      | link => exact absurd rfl (ends _)
  | link found _ ih =>
      cases again with
      | done ends => exact absurd rfl (ends _)
      | link otherFound rest =>
          rw [found] at otherFound
          cases otherFound
          rw [ih rest]

/-- The rest of a chain starts at each of its names. -/
theorem Chain.exists_rest (chain : components.Chain type names final) {name : String}
    (member : name ∈ names) :
    Exists fun rest => components.Chain (.ref name) rest final ∧ rest.length ≤ names.length := by
  induction chain with
  | done => cases member
  | @link first target final names found rest ih =>
      rcases List.mem_cons.mp member with rfl | later
      · exact ⟨_, .link found rest, Nat.le_refl _⟩
      · rcases ih later with ⟨remaining, chain, short⟩
        exact ⟨remaining, chain, Nat.le_succ_of_le short⟩

/-- A chain that ends meets no name twice, since it would go round for ever. -/
theorem Chain.nodup (chain : components.Chain type names final) : names.Nodup := by
  induction chain with
  | done => exact List.nodup_nil
  | @link name target final names found rest ih =>
      refine List.nodup_cons.mpr ⟨fun member => ?_, ih⟩
      rcases rest.exists_rest member with ⟨remaining, again, short⟩
      rw [← (Chain.link found rest).unique again, List.length_cons] at short
      exact Nat.not_succ_le_self _ short

/-- All names of a chain are names of components. -/
theorem Chain.subset_keys (chain : components.Chain type names final) :
    names ⊆ Keyed.keys components := by
  induction chain with
  | done => exact List.nil_subset _
  | link found _ ih =>
      exact List.cons_subset.mpr ⟨(Keyed.exists_lookup_iff _ components).mp ⟨_, found⟩, ih⟩

/-- There are as many links as any chain has that ends. -/
theorem resolve_eq_ok_iff :
    components.resolve type = .ok final ↔ Exists fun names => components.Chain type names final := by
  rw [Components.resolve, follow_eq_ok_iff]
  refine exists_congr fun names => and_iff_left_of_imp fun chain => ?_
  have few := (List.subperm_of_subset chain.nodup chain.subset_keys).length_le
  rw [Keyed.keys, List.length_map] at few
  exact Nat.le_succ_of_le few

section Sharing

variable {other : Components} {roots : List TypeExpr}

theorem Chain.shared (shares : components.Shares roots other) (serves : components.Serves roots type)
    (chain : components.Chain type names final) : other.Chain type names final := by
  induction chain with
  | done ends => exact .done ends
  | @link name target final names found _ ih =>
      have needed : components.Needs roots name := serves name (by simp [TypeExpr.names])
      refine .link ((shares name needed).trans found) (ih ?_)
      exact (components.hereditary_serves roots).target name target serves found

/-- A type resolves to the same over components that share what it needs. -/
theorem resolve_shared (shares : components.Shares roots other)
    (serves : components.Serves roots type) (resolved : components.resolve type = .ok final) :
    other.resolve type = .ok final := by
  rcases resolve_eq_ok_iff.mp resolved with ⟨names, chain⟩
  exact resolve_eq_ok_iff.mpr ⟨names, chain.shared shares serves⟩

theorem serves_of_resolve (serves : components.Serves roots type)
    (resolved : components.resolve type = .ok final) : components.Serves roots final := by
  have start : components.Reaches [type] type := .root (List.mem_singleton_self type)
  refine (start.resolve resolved).of_hereditary (components.hereditary_serves roots) ?_
  intro root member
  rw [List.mem_singleton.mp member]
  exact serves

theorem listElement?_shared (shares : components.Shares roots other)
    (serves : components.Serves roots type) {found : Option Primitive}
    (listed : components.listElement? type = .ok found) : other.listElement? type = .ok found := by
  rw [Components.listElement?] at listed
  rcases Outcome.bind_eq_ok_iff.mp listed with ⟨target, resolved, inside⟩
  have targetServes := serves_of_resolve serves resolved
  rw [Components.listElement?]
  refine Outcome.bind_eq_ok_iff.mpr ⟨target, resolve_shared shares serves resolved, ?_⟩
  cases target with
  | array element =>
      rcases Outcome.bind_eq_ok_iff.mp inside with ⟨inner, innerResolved, innerFound⟩
      have elementServes := (components.hereditary_serves roots).element element targetServes
      have innerShared := resolve_shared shares elementServes innerResolved
      exact Outcome.bind_eq_ok_iff.mpr ⟨inner, innerShared, innerFound⟩
  | primitive _ | enum _ | ref _ | record _ => exact inside

end Sharing
end Components

/-! ## Lowering -/

namespace TypeExpr

/-- A schema is lowered to the same wherever the references in its type have names. -/
theorem transferCases (names others : List String) :
    LoweringCases names fun position schema type =>
      (forall name, name ∈ type.names -> name ∈ others) ->
        ofSchema others position schema = .ok type where
  record properties required fields lowered named := by
    rw [ofSchema]
    refine Outcome.map_eq_ok_iff.mpr ⟨fields, ?_, rfl⟩
    rw [TypeExpr.names] at named
    induction lowered with
    | nil => rfl
    | @cons property field properties fields first _ ih =>
        rw [fieldNames] at named
        have made := first.holds fun name member => named name (List.mem_append_left _ member)
        have rest := ih fun name member => named name (List.mem_append_right _ member)
        have marked := first.required
        rw [← first.name] at marked
        rw [ofFields, made, rest, ← first.name, ← marked]
        rfl
  array position element type transfers named := by
    rw [ofSchema, transfers named]
    rfl
  primitive position kind format constraints scalar made _ := by
    rw [ofSchema, made]
    rfl
  enum position values filled _ := by
    rw [ofSchema, if_neg (by simpa using filled)]
  ref position name _ named := by
    have contained := List.contains_iff_mem.mpr (named name (by simp [TypeExpr.names]))
    rw [ofSchema, if_pos contained]

theorem ofSchema_transfer {names others : List String} {position : Position} {schema : Schema}
    {type : TypeExpr} (lowered : ofSchema names position schema = .ok type)
    (named : forall name, name ∈ type.names -> name ∈ others) :
    ofSchema others position schema = .ok type :=
  (transferCases names others).of_lowered position schema type lowered named

end TypeExpr
end RouteIR
