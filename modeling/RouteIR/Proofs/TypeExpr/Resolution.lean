import Mathlib.Data.Finset.Card
import Mathlib.Logic.Relation
import RouteIR.Proofs.TypeExpr.Components
import RouteIR.Proofs.TypeExpr.Locality

namespace RouteIR

/-!
# How chains of aliases end

A chain of aliases goes from a type to the component that it names, and on from there.  Followed
with a record of the names it has met, it ends in one of three ways: at a type that is no
reference, at a name that no component has, or at a name that it has met before.  Each link adds
a component to the record, so it ends; and since the three ways exclude one another, which of
them it is says exactly what resolving gives.  The links that resolving counts out are always as
many as are needed for that.

Components that were lowered refer to components only, so their chains either end at a type or
run into a cycle of aliases.
-/

open Relation (ReflTransGen TransGen)
open Outcome (Succeeds)

namespace Components

/-! ## Chains that may go on -/

/-- A chain of aliases that leads from a type over the components of some names to another type,
which may be a reference again. -/
inductive Leads (components : Components) : TypeExpr -> List String -> TypeExpr -> Prop
  | here {type : TypeExpr} : Leads components type [] type
  | link {name : String} {target final : TypeExpr} {names : List String}
      (found : components.lookup name = some target)
      (rest : Leads components target names final) :
      Leads components (.ref name) (name :: names) final

variable {components : Components} {type final : TypeExpr} {names : List String} {name : String}

theorem chain_iff_leads :
    components.Chain type names final ↔
      components.Leads type names final ∧ forall name, final ≠ .ref name := by
  constructor
  · intro chain
    induction chain with
    | done ends => exact ⟨.here, ends⟩
    | link found _ ih => exact ⟨.link found ih.1, ih.2⟩
  · rintro ⟨leads, ends⟩
    induction leads with
    | here => exact .done ends
    | link found _ ih => exact .link found (ih ends)

namespace Leads

theorem append {middle : TypeExpr} {others : List String}
    (first : components.Leads type names middle) (second : components.Leads middle others final) :
    components.Leads type (names ++ others) final := by
  induction first with
  | here => exact second
  | link found _ ih => exact .link found (ih second)

/-- At each of its names a chain is at a reference to it. -/
theorem split {before after : List String}
    (leads : components.Leads type (before ++ name :: after) final) :
    components.Leads type before (.ref name) ∧
      components.Leads (.ref name) (name :: after) final := by
  induction before generalizing type with
  | nil =>
      cases leads with
      | link found rest => exact ⟨.here, .link found rest⟩
  | cons first before ih =>
      cases leads with
      | link found rest => exact ⟨.link found (ih rest).1, (ih rest).2⟩

/-- Only from a reference is there a way to a reference. -/
theorem exists_ref (leads : components.Leads type names (.ref name)) :
    Exists fun first => type = .ref first := by
  cases leads with
  | here => exact ⟨name, rfl⟩
  | link => exact ⟨_, rfl⟩

theorem subset_keys (leads : components.Leads type names final) :
    names ⊆ Keyed.keys components := by
  induction leads with
  | here => exact List.nil_subset _
  | link found _ ih =>
      exact List.cons_subset.mpr ⟨(Keyed.exists_lookup_iff _ components).mp ⟨_, found⟩, ih⟩

/-- A chain without repetition has at most as many links as there are components. -/
theorem length_le (leads : components.Leads type names final) (once : names.Nodup) :
    names.length ≤ components.length := by
  have few := (List.subperm_of_subset once leads.subset_keys).length_le
  rwa [Keyed.keys, List.length_map] at few

/-- Closed components lead from what refers to components to nothing else. -/
theorem refersTo (leads : components.Leads type names final) (closed : components.Closed)
    (refers : type.RefersTo components) : final.RefersTo components := by
  induction leads with
  | here => exact refers
  | link found _ ih => exact ih (closed.target found)

/-- A way round can be gone as often as one likes. -/
theorem exists_long (round : components.Leads (.ref name) names (.ref name)) (moves : names ≠ [])
    (count : Nat) : Exists fun others =>
      components.Leads (.ref name) others (.ref name) ∧ count ≤ others.length := by
  induction count with
  | zero => exact ⟨[], .here, Nat.le_refl 0⟩
  | succ count ih =>
      rcases ih with ⟨others, leads, long⟩
      refine ⟨names ++ others, round.append leads, ?_⟩
      have moved := List.length_pos_of_ne_nil moves
      rw [List.length_append]
      omega

end Leads

/-! ## Following with a record of the names met -/

/-- How many components have not been met. -/
def unmet (components : Components) (seen : List String) : Nat :=
  ((Keyed.keys components).toFinset \ seen.toFinset).card

theorem unmet_lt {target : TypeExpr} {seen : List String}
    (found : components.lookup name = some target) (fresh : name ∉ seen) :
    components.unmet (name :: seen) < components.unmet seen := by
  have known : name ∈ Keyed.keys components :=
    (Keyed.exists_lookup_iff name components).mp ⟨target, found⟩
  rw [unmet, unmet, List.toFinset_cons, Finset.sdiff_insert]
  apply Finset.card_erase_lt_of_mem
  simp [known, fresh]

/-- Follows a chain of aliases and keeps the names that it has met.  Each name that is met for the
first time leaves one component fewer that has not been met. -/
def chase (components : Components) (seen : List String) (type : TypeExpr) :
    Except Rule TypeExpr :=
  match type with
  | .ref name =>
      if name ∈ seen then .error (.invalid .circularAlias)
      else
        match _ : components.lookup name with
        | none => .error (.unresolved name)
        | some target => chase components (name :: seen) target
  | type => .ok type
termination_by components.unmet seen
decreasing_by exact unmet_lt ‹_› ‹_›

/-- The three ways in which a chain ends that is followed with a record of names, and what comes
of each. -/
inductive Ends (components : Components) (seen : List String) (type : TypeExpr) :
    Except Rule TypeExpr -> Prop
  | settled {names : List String} {final : TypeExpr} (chain : components.Chain type names final) :
      Ends components seen type (.ok final)
  | missing {names : List String} {name : String}
      (leads : components.Leads type names (.ref name)) (absent : components.lookup name = none)
      (once : names.Nodup) (apart : forall other, other ∈ names -> other ∉ seen) :
      Ends components seen type (.error (.unresolved name))
  | again {names : List String} {name : String}
      (leads : components.Leads type names (.ref name)) (met : name ∈ names ∨ name ∈ seen) :
      Ends components seen type (.error (.invalid .circularAlias))

/-- A chain over one more name ends as the rest of it does with that name on record. -/
theorem Ends.link {seen : List String} {target : TypeExpr} {outcome : Except Rule TypeExpr}
    (found : components.lookup name = some target) (fresh : name ∉ seen)
    (rest : components.Ends (name :: seen) target outcome) :
    components.Ends seen (.ref name) outcome := by
  cases rest with
  | settled chain => exact .settled (.link found chain)
  | missing leads absent once apart =>
      refine .missing (.link found leads) absent (List.nodup_cons.mpr ⟨fun member => ?_, once⟩) ?_
      · exact apart name member List.mem_cons_self
      · intro other member
        rcases List.mem_cons.mp member with rfl | later
        · exact fresh
        · exact fun old => apart other later (List.mem_cons_of_mem _ old)
  | @again names other leads met =>
      refine .again (.link found leads) ?_
      rcases met with later | now
      · exact .inl (List.mem_cons_of_mem _ later)
      · rcases List.mem_cons.mp now with rfl | old
        · exact .inl List.mem_cons_self
        · exact .inr old

theorem ends_chase (components : Components) (seen : List String) (type : TypeExpr) :
    components.Ends seen type (components.chase seen type) := by
  fun_induction chase components seen type with
  | case1 seen name met => exact .again .here (.inr met)
  | case2 seen name fresh absent => exact .missing .here absent List.nodup_nil nofun
  | case3 seen name fresh target found ih => exact .link found fresh ih
  | case4 seen type ends => exact .settled (.done ends)

/-! ## Following with a number of links -/

theorem follow_of_leads (leads : components.Leads type names final) (links : Nat) :
    components.follow (names.length + links) type = components.follow links final := by
  induction leads with
  | here => rw [List.length_nil, Nat.zero_add]
  | link found _ ih =>
      rw [List.length_cons, Nat.add_right_comm, follow, found]
      exact ih

/-- Within a chain that comes to a reference, links run out. -/
theorem follow_of_short (leads : components.Leads type names (.ref name)) {links : Nat}
    (short : links ≤ names.length) :
    components.follow links type = .error (.invalid .circularAlias) := by
  generalize same : TypeExpr.ref name = last at leads
  induction leads generalizing links with
  | here =>
      rw [Nat.le_zero.mp short, ← same, follow]
  | link found _ ih =>
      cases links with
      | zero => rw [follow]
      | succ links =>
          rw [follow, found]
          exact ih (Nat.le_of_succ_le_succ short) same

/-- With no name on record, the way in which a chain ends says what resolving gives. -/
theorem Ends.resolve_eq {outcome : Except Rule TypeExpr}
    (ends : components.Ends [] type outcome) : components.resolve type = outcome := by
  cases ends with
  | settled chain => exact resolve_eq_ok_iff.mpr ⟨_, chain⟩
  | @missing names name leads absent once _ =>
      have few := leads.length_le once
      have enough : components.length + 1 = names.length + (components.length - names.length + 1) := by
        omega
      rw [resolve, enough, follow_of_leads leads, follow, absent]
  | @again names name leads met =>
      have member : name ∈ names := by simpa using met
      rcases List.append_of_mem member with ⟨before, after, rfl⟩
      rcases leads.split with ⟨enters, round⟩
      rcases round.exists_long (List.cons_ne_nil _ _) (components.length + 1) with
        ⟨others, turns, long⟩
      refine follow_of_short (enters.append turns) (Nat.le_trans long ?_)
      rw [List.length_append]
      exact Nat.le_add_left _ _

/-- Counting links comes to the same as keeping a record of names. -/
theorem resolve_eq_chase (components : Components) (type : TypeExpr) :
    components.resolve type = components.chase [] type :=
  (ends_chase components [] type).resolve_eq

theorem ends_resolve (components : Components) (type : TypeExpr) :
    components.Ends [] type (components.resolve type) := by
  rw [resolve_eq_chase]
  exact ends_chase components [] type

/-- Resolving gives a type that is no reference when the chain comes to it without meeting any name
twice. -/
theorem resolve_eq_ok_iff_leads :
    components.resolve type = .ok final ↔
      (forall name, final ≠ .ref name) ∧ Exists fun names =>
        names.Nodup ∧ components.Leads type names final := by
  simp only [resolve_eq_ok_iff, chain_iff_leads]
  constructor
  · rintro ⟨names, leads, ends⟩
    exact ⟨ends, names, (chain_iff_leads.mpr ⟨leads, ends⟩).nodup, leads⟩
  · rintro ⟨ends, names, _, leads⟩
    exact ⟨names, leads, ends⟩

/-- Resolving finds a name without a component when the chain comes to it before it meets any name
twice. -/
theorem resolve_eq_unresolved_iff :
    components.resolve type = .error (.unresolved name) ↔
      components.lookup name = none ∧ Exists fun names =>
        names.Nodup ∧ components.Leads type names (.ref name) := by
  constructor
  · intro resolved
    have ends := components.ends_resolve type
    rw [resolved] at ends
    cases ends with
    | missing leads absent once _ => exact ⟨absent, _, once, leads⟩
  · rintro ⟨absent, names, once, leads⟩
    exact (Ends.missing leads absent once fun _ _ => List.not_mem_nil).resolve_eq

/-- Resolving goes round when the chain comes to a name that it has met. -/
theorem resolve_eq_circular_iff :
    components.resolve type = .error (.invalid .circularAlias) ↔
      Exists fun names => Exists fun name =>
        components.Leads type names (.ref name) ∧ name ∈ names := by
  constructor
  · intro resolved
    have ends := components.ends_resolve type
    rw [resolved] at ends
    cases ends with
    | again leads met => exact ⟨_, _, leads, by simpa using met⟩
  · rintro ⟨names, name, leads, member⟩
    exact (Ends.again leads (.inl member)).resolve_eq

/-! ## Cycles -/

/-- Aliases that lead from a name into a cycle, on which the name itself need not be. -/
def RunsIntoCycle (aliases : String -> String -> Prop) (name : String) : Prop :=
  Exists fun entered => ReflTransGen aliases name entered ∧ TransGen aliases entered entered

/-- What runs into a cycle does so through an alias that runs into it too. -/
theorem RunsIntoCycle.exists_step {aliases : String -> String -> Prop} {name : String}
    (runs : RunsIntoCycle aliases name) :
    Exists fun next => aliases name next ∧ RunsIntoCycle aliases next := by
  rcases runs with ⟨entered, enters, round⟩
  rcases ReflTransGen.cases_head enters with rfl | ⟨next, step, rest⟩
  · rcases TransGen.head'_iff.mp round with ⟨next, step, back⟩
    exact ⟨next, step, name, back, round⟩
  · exact ⟨next, step, entered, rest, round⟩

/-- A component whose type is a reference to another. -/
def Aliases (components : Components) (name other : String) : Prop :=
  components.lookup name = some (.ref other)

theorem exists_leads_iff {first last : String} :
    (Exists fun names => components.Leads (.ref first) names (.ref last)) ↔
      ReflTransGen components.Aliases first last := by
  constructor
  · rintro ⟨names, leads⟩
    induction names generalizing first with
    | nil =>
        cases leads
        exact .refl
    | cons name names ih =>
        cases leads with
        | link found rest =>
            rcases rest.exists_ref with ⟨next, rfl⟩
            exact .head found (ih rest)
  · intro path
    induction path using ReflTransGen.head_induction_on with
    | refl => exact ⟨[], .here⟩
    | head step _ ih =>
        rcases ih with ⟨names, leads⟩
        exact ⟨_, .link step leads⟩

/-- The chain of a name comes to a name that it has met when it runs into a cycle. -/
theorem resolve_ref_eq_circular_iff :
    components.resolve (.ref name) = .error (.invalid .circularAlias) ↔
      RunsIntoCycle components.Aliases name := by
  rw [resolve_eq_circular_iff]
  constructor
  · rintro ⟨names, entered, leads, member⟩
    rcases List.append_of_mem member with ⟨before, after, rfl⟩
    rcases leads.split with ⟨enters, round⟩
    refine ⟨entered, exists_leads_iff.mp ⟨_, enters⟩, ?_⟩
    cases round with
    | link found rest =>
        rcases rest.exists_ref with ⟨next, rfl⟩
        exact .head' found (exists_leads_iff.mp ⟨_, rest⟩)
  · rintro ⟨entered, enters, round⟩
    rcases exists_leads_iff.mpr enters with ⟨before, enters⟩
    rcases TransGen.head'_iff.mp round with ⟨next, step, back⟩
    rcases exists_leads_iff.mpr back with ⟨after, back⟩
    exact ⟨before ++ entered :: after, entered, enters.append (.link step back), by simp⟩

/-- In closed components the name of a component has no other way to fail. -/
theorem Closed.failure?_resolve (closed : components.Closed)
    (known : name ∈ Keyed.keys components) [Decidable (RunsIntoCycle components.Aliases name)] :
    Outcome.failure? (components.resolve (.ref name)) =
      if RunsIntoCycle components.Aliases name then some (.invalid .circularAlias) else none := by
  split
  · next runs => rw [resolve_ref_eq_circular_iff.mpr runs, Outcome.failure?_error]
  · next ends =>
      cases resolved : components.resolve (.ref name) with
      | ok target => rfl
      | error rule =>
          have outcome := components.ends_resolve (.ref name)
          rw [resolved] at outcome
          cases outcome with
          | missing leads absent =>
              have refers : (TypeExpr.ref name).RefersTo components := by
                simpa [TypeExpr.RefersTo, TypeExpr.names] using known
              rcases (Keyed.exists_lookup_iff _ components).mpr (leads.refersTo closed refers).ref
                with ⟨target, found⟩
              rw [absent] at found
              cases found
          | again => exact absurd (resolve_ref_eq_circular_iff.mp resolved) ends

/-! ## The components of a document -/

/-- A component that is declared as a reference to another. -/
def DeclaresAlias (schemas : List (String × Schema)) (name other : String) : Prop :=
  schemas.lookup name = some (.ref other)

/-- References, and nothing else, are lowered to references. -/
theorem refCases (names : List String) :
    TypeExpr.LoweringCases names fun _ schema type =>
      forall name, type = .ref name ↔ schema = .ref name where
  record _ _ _ _ _ := iff_of_false nofun nofun
  array _ _ _ _ _ := iff_of_false nofun nofun
  primitive _ _ _ _ _ _ _ := iff_of_false nofun nofun
  enum _ _ _ _ := iff_of_false nofun nofun
  ref _ _ _ _ := by rw [TypeExpr.ref.injEq, Schema.ref.injEq]

/-- The aliases among the components of a document are those that it declares. -/
theorem aliases_eq_declaresAlias {known : List String} {schemas : List (String × Schema)}
    (made : List.Forall₂ (ComponentOf known) schemas components) :
    components.Aliases = DeclaresAlias schemas := by
  funext name other
  rw [Aliases, DeclaresAlias, eq_iff_iff]
  induction made with
  | nil => exact iff_of_false nofun nofun
  | @cons declared component _ _ one _ ih =>
      obtain ⟨key, schema⟩ := declared
      obtain ⟨componentKey, type⟩ := component
      cases one.name
      rw [List.lookup_cons, List.lookup_cons]
      cases name == key with
      | true =>
          have same := (refCases known).of_lowered _ _ _ one.lowered other
          simpa only [Option.some.injEq] using same
      | false => exact ih

/-- The check of all names fails at the first that does not resolve. -/
theorem failure?_checkAliases (components : Components) (names : List String) :
    Outcome.failure? (components.checkAliases names) = names.findSome? fun name =>
      (Outcome.failure? (components.resolve (.ref name))).map (Violation.mk (location name)) := by
  induction names with
  | nil => rfl
  | cons name rest ih =>
      rw [checkAliases, List.findSome?_cons, ← ih]
      cases components.resolve (.ref name) <;> rfl

/-- Schemas that are lowered one by one are the components of a document unless one of them runs
into a cycle, and then the first of these is refused. -/
theorem failure?_ofSchemas {schemas : List (String × Schema)}
    [DecidablePred (RunsIntoCycle (DeclaresAlias schemas))]
    (lowers : forall declared, declared ∈ schemas ->
      Succeeds (TypeExpr.ofSchema (Keyed.keys schemas) .component declared.2)) :
    Outcome.failure? (ofSchemas schemas) = (Keyed.keys schemas).findSome? fun name =>
      if RunsIntoCycle (DeclaresAlias schemas) name then
        some ⟨location name, .invalid .circularAlias⟩ else none := by
  have passes : Outcome.failure? (ofSchemaList (Keyed.keys schemas) schemas) = none := by
    rw [ofSchemaList_eq_mapM, Outcome.failure?_mapM, List.findSome?_eq_none_iff]
    intro declared member
    rcases lowers declared member with ⟨type, lowered⟩
    rw [componentOf, lowered]
    rfl
  rcases Outcome.failure?_eq_none_iff.mp passes with ⟨components, listed⟩
  have closed := closed_of_ofSchemaList listed
  have alike := aliases_eq_declaresAlias (forall₂_of_ofSchemaList listed)
  have checked : Outcome.failure? (ofSchemas schemas) =
      Outcome.failure? (components.checkAliases (Keyed.keys schemas)) := by
    rw [ofSchemas, listed]
    exact Outcome.failure?_bind_pure _ _
  rw [checked, failure?_checkAliases, ← List.head?_filterMap, ← List.head?_filterMap]
  refine congrArg List.head? (List.filterMap_congr fun name member => ?_)
  rw [← keys_of_ofSchemaList listed] at member
  classical
  rw [closed.failure?_resolve member]
  simp only [alike]
  split <;> rfl

/-- Every cycle of aliases is run into, by each of its components at least. -/
theorem exists_runsIntoCycle_iff (schemas : List (String × Schema)) :
    (Exists fun name => name ∈ Keyed.keys schemas ∧
        RunsIntoCycle (DeclaresAlias schemas) name) ↔
      Exists fun name => TransGen (DeclaresAlias schemas) name name := by
  constructor
  · rintro ⟨_, _, entered, _, round⟩
    exact ⟨entered, round⟩
  · rintro ⟨name, round⟩
    rcases TransGen.head'_iff.mp round with ⟨next, step, _⟩
    exact ⟨name, (Keyed.exists_lookup_iff _ schemas).mp ⟨_, step⟩, name, .refl, round⟩

/-- Resolving a type ends, in one of three ways.  It gives the type that is no reference and that
the chain of aliases comes to over distinct names; it finds no component under the name that the
chain comes to over distinct names; or the chain comes to a name that it has met.  So components
that are lowered one by one are those of a document when no aliases go round in a cycle, and else
the first of them whose chain runs into a cycle is refused. -/
theorem resolution_exact :
    (forall (components : Components) (type : TypeExpr),
      components.resolve type = components.chase [] type ∧
      (forall target, components.resolve type = .ok target ↔
        (forall name, target ≠ .ref name) ∧ Exists fun names =>
          names.Nodup ∧ components.Leads type names target) ∧
      (forall name, components.resolve type = .error (.unresolved name) ↔
        components.lookup name = none ∧ Exists fun names =>
          names.Nodup ∧ components.Leads type names (.ref name)) ∧
      (components.resolve type = .error (.invalid .circularAlias) ↔
        Exists fun names => Exists fun name =>
          components.Leads type names (.ref name) ∧ name ∈ names) ∧
      forall rule, components.resolve type = .error rule ->
        rule = .invalid .circularAlias ∨ Exists fun name => rule = .unresolved name) ∧
    forall schemas : List (String × Schema),
      (forall declared, declared ∈ schemas ->
        Succeeds (TypeExpr.ofSchema (Keyed.keys schemas) .component declared.2)) ->
      (Succeeds (ofSchemas schemas) ↔
        ¬ Exists fun name => TransGen (DeclaresAlias schemas) name name) ∧
      forall violation, ofSchemas schemas = .error violation ↔
        Outcome.First (fun name => ¬ RunsIntoCycle (DeclaresAlias schemas) name)
          (fun name => RunsIntoCycle (DeclaresAlias schemas) name ∧
            violation = ⟨location name, .invalid .circularAlias⟩) (Keyed.keys schemas) := by
  constructor
  · intro components type
    refine ⟨resolve_eq_chase components type, fun target => ?_, fun name => ?_, ?_, ?_⟩
    · exact resolve_eq_ok_iff_leads
    · exact resolve_eq_unresolved_iff
    · exact resolve_eq_circular_iff
    · intro rule resolved
      have ends := components.ends_resolve type
      rw [resolved] at ends
      cases ends with
      | missing => exact .inr ⟨_, rfl⟩
      | again => exact .inl rfl
  · intro schemas lowers
    classical
    have fails := failure?_ofSchemas lowers
    constructor
    · rw [Succeeds, ← Outcome.failure?_eq_none_iff, fails, ← exists_runsIntoCycle_iff]
      simp
    · intro violation
      rw [← Outcome.failure?_eq_some_iff, fails, Outcome.findSome?_eq_some_iff]
      simp [eq_comm]

/-- A type, an alias of it, and an alias that leads to two others which lead to one another. -/
def cyclicSchemas : List (String × Schema) :=
  [("T", .primitive .string none []), ("S", .ref "T"), ("A", .ref "B"), ("B", .ref "C"),
    ("C", .ref "B")]

/-- The first component that is refused is not on the cycle itself. -/
theorem resolution_exact_of_cyclicSchemas :
    (forall declared, declared ∈ cyclicSchemas ->
      Succeeds (TypeExpr.ofSchema (Keyed.keys cyclicSchemas) .component declared.2)) ∧
    ofSchemas cyclicSchemas = .error ⟨"components.schemas.A", .invalid .circularAlias⟩ := by
  have lowers : forall declared, declared ∈ cyclicSchemas ->
      Succeeds (TypeExpr.ofSchema (Keyed.keys cyclicSchemas) .component declared.2) := by
    intro declared member
    simp only [cyclicSchemas, List.mem_cons, List.not_mem_nil, or_false] at member
    rcases member with rfl | rfl | rfl | rfl | rfl <;> exact ⟨_, rfl⟩
  refine ⟨lowers, ((resolution_exact.2 cyclicSchemas lowers).2 _).mpr ?_⟩
  have typeEnds : ¬ RunsIntoCycle (DeclaresAlias cyclicSchemas) "T" := by
    intro runs
    rcases runs.exists_step with ⟨next, step, _⟩
    cases step
  have aliasEnds : ¬ RunsIntoCycle (DeclaresAlias cyclicSchemas) "S" := by
    intro runs
    rcases runs.exists_step with ⟨next, step, rest⟩
    cases step
    exact typeEnds rest
  have round : TransGen (DeclaresAlias cyclicSchemas) "B" "B" :=
    .tail (.single (b := "C") rfl) rfl
  refine ⟨["T", "S"], "A", ["B", "C"], rfl, ?_, ⟨"B", .single rfl, round⟩, rfl⟩
  simp [typeEnds, aliasEnds]

end Components
end RouteIR
