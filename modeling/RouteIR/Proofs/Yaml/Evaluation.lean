import RouteIR.Proofs.Yaml.Invariant

namespace RouteIR
namespace Yaml

/-!
# Evaluation finds what nodes denote

A loader either ends with a table in which the nodes that are constructed for the root have the
shapes that they denote, or it fails, and then one of these nodes is at fault.  This is proved
of one node first, given that it holds of the nodes inside it, then of the queue.
-/

open Evaluate

variable {loader : Loader} {graph : Graph} {root : Nat}

section

variable (loader graph root)

/-- An action evaluates a node in any sound state in which certain nodes are active. -/
def Evaluates (evaluate : Nat -> Evaluate Unit) (active : List Nat) (index : Nat) : Prop :=
  forall current state, Sound loader graph root current state -> state.active = active ->
    Ends (evaluate index) state (loader.Fails graph root) fun _ after =>
      Sound loader graph root current after ∧ Later state after ∧
        (after.shape? index).isSome = true

end

variable {evaluate : Nat -> Evaluate Unit} {active current : List Nat} {state : Evaluation}

/-! ## The members of a node -/

theorem forM_ends {α : Type} {items : List α} {target : α -> Nat}
    (evaluates : forall item, item ∈ items ->
      Evaluates loader graph root evaluate active (target item))
    (sound : Sound loader graph root current state) (isActive : state.active = active) :
    Ends (items.forM fun item => evaluate (target item)) state (loader.Fails graph root)
      fun _ after => Sound loader graph root current after ∧ Later state after ∧
        forall item, item ∈ items -> (after.shape? (target item)).isSome = true := by
  induction items generalizing state with
  | nil => exact ⟨sound, Later.refl state, nofun⟩
  | cons item rest ih =>
      refine (evaluates item List.mem_cons_self current state sound isActive).bind id ?_
      rintro _ middle ⟨soundThere, laterThere, shaped⟩
      refine (ih (fun other member => evaluates other (List.mem_cons_of_mem _ member)) soundThere
        (laterThere.active.trans isActive)).imp ?_ id
      rintro _ after ⟨soundAfter, laterAfter, others⟩
      refine ⟨soundAfter, laterThere.trans laterAfter, fun other member => ?_⟩
      rcases List.mem_cons.mp member with rfl | member
      · exact laterAfter.shaped _ shaped
      · exact others other member

/-- Entries with keys that have values, all different and none of them seen before. -/
def Fits (graph : Graph) (seen : List Identity) (entries : List (Nat × Nat))
    (keyed : List KeyedEntry) : Prop :=
  entries.mapM graph.keyed? = some keyed ∧ (keyed.map (·.identity)).Nodup ∧
    forall identity, identity ∈ keyed.map (·.identity) -> identity ∉ seen

theorem fits_cons_iff {seen : List Identity} {key value : Nat} {rest : List (Nat × Nat)}
    {keyed : List KeyedEntry} :
    Fits graph seen ((key, value) :: rest) keyed ↔
      Exists fun identity => Exists fun keyValue => Exists fun others =>
        graph.key? key = some (identity, keyValue) ∧ identity ∉ seen ∧
          Fits graph (identity :: seen) rest others ∧
            keyed = ⟨identity, keyValue, value⟩ :: others := by
  rw [Fits, List.mapM_cons, Graph.keyed?]
  constructor
  · rintro ⟨passes, distinct, unseen⟩
    rcases Option.bind_eq_some_iff.mp passes with ⟨first, atKey, passes⟩
    rcases Option.bind_eq_some_iff.mp passes with ⟨others, atOthers, same⟩
    rcases Option.map_eq_some_iff.mp atKey with ⟨⟨identity, keyValue⟩, isKey, rfl⟩
    cases same
    rw [List.map_cons, List.nodup_cons] at distinct
    refine ⟨identity, keyValue, others, isKey, unseen identity (by simp), ?_, rfl⟩
    refine ⟨atOthers, distinct.2, fun other member isSeen => ?_⟩
    rcases List.mem_cons.mp isSeen with rfl | isSeen
    · exact distinct.1 member
    · exact unseen other (List.mem_cons_of_mem _ member) isSeen
  · rintro ⟨identity, keyValue, others, isKey, fresh, ⟨passes, distinct, unseen⟩, rfl⟩
    refine ⟨by rw [isKey, passes]; rfl, ?_, fun other member => ?_⟩
    · rw [List.map_cons, List.nodup_cons]
      exact ⟨fun member => unseen identity member List.mem_cons_self, distinct⟩
    · rcases List.mem_cons.mp member with rfl | member
      · exact fresh
      · exact fun isSeen => unseen other member (List.mem_cons_of_mem _ isSeen)

/-- The keys of a mapping are evaluated as long as no two of them are equal. -/
theorem uniqueKeys_ends {start : Mark} {seen : List Identity} {entries : List (Nat × Nat)}
    (evaluates : forall entry, entry ∈ entries ->
      Evaluates loader graph root evaluate active entry.1)
    (sound : Sound loader graph root current state) (isActive : state.active = active) :
    Ends (uniqueKeys evaluate start seen entries) state
      (loader.Fails graph root ∨ forall keyed, ¬ Fits graph seen entries keyed)
      fun keyed after => Sound loader graph root current after ∧ Later state after ∧
        Fits graph seen entries keyed ∧
          forall entry, entry ∈ entries -> (after.shape? entry.1).isSome = true := by
  induction entries generalizing seen state with
  | nil => exact ⟨sound, Later.refl state, ⟨rfl, List.nodup_nil, nofun⟩, nofun⟩
  | cons entry rest ih =>
      rcases entry with ⟨key, value⟩
      rw [uniqueKeys]
      refine (evaluates (key, value) List.mem_cons_self current state sound isActive).bind .inl ?_
      rintro _ middle ⟨soundThere, laterThere, shaped⟩
      refine (soundThere.keyOf_ends shaped).bind False.elim ?_
      rintro found _ ⟨rfl, reads⟩
      cases found with
      | error kind =>
          refine .inr fun keyed fits => ?_
          rcases fits_cons_iff.mp fits with ⟨identity, keyValue, others, isKey, _⟩
          rw [isKey] at reads
          cases reads
      | ok result =>
          rcases result with ⟨identity, keyValue⟩
          have isKey : graph.key? key = some (identity, keyValue) := reads.symm
          by_cases isSeen : seen.contains identity = true
          · simp only [isSeen, if_true, ends_bind_iff, ends_node_iff, ends_throw_iff]
            refine .inr fun keyed fits => ?_
            rcases fits_cons_iff.mp fits with ⟨same, _, others, atKey, fresh, _⟩
            rw [isKey] at atKey
            cases atKey
            exact fresh (List.contains_iff_mem.mp isSeen)
          · simp only [isSeen]
            refine (ih (fun other member => evaluates other (List.mem_cons_of_mem _ member))
              soundThere (laterThere.active.trans isActive)).bind ?_ ?_
            · rintro (fails | unfit)
              · exact .inl fails
              · refine .inr fun keyed fits => ?_
                rcases fits_cons_iff.mp fits with ⟨same, _, others, atKey, _, rest, _⟩
                rw [isKey] at atKey
                cases atKey
                exact unfit others rest
            · rintro others after ⟨soundAfter, laterAfter, fits, shapedRest⟩
              refine ⟨soundAfter, laterThere.trans laterAfter, ?_, fun entry member => ?_⟩
              · exact fits_cons_iff.mpr ⟨identity, keyValue, others, isKey,
                  fun member => isSeen (List.contains_iff_mem.mpr member), fits, rfl⟩
              · rcases List.mem_cons.mp member with rfl | member
                · exact laterAfter.shaped key shaped
                · exact shapedRest entry member

/-- The entries of a mapping that may repeat keys are evaluated key by value. -/
theorem hashableEntries_ends {start : Mark} {entries : List (Nat × Nat)}
    (evaluates : forall inner, inner ∈ Graph.ends entries ->
      Evaluates loader graph root evaluate active inner)
    (sound : Sound loader graph root current state) (isActive : state.active = active) :
    Ends (hashableEntries evaluate start entries) state
      (loader.Fails graph root ∨ entries.mapM graph.keyed? = none)
      fun keyed after => Sound loader graph root current after ∧ Later state after ∧
        entries.mapM graph.keyed? = some keyed ∧
          forall inner, inner ∈ Graph.ends entries -> (after.shape? inner).isSome = true := by
  induction entries generalizing state with
  | nil => exact ⟨sound, Later.refl state, rfl, nofun⟩
  | cons entry rest ih =>
      rcases entry with ⟨key, value⟩
      rw [hashableEntries]
      refine (evaluates key (Graph.mem_ends_cons_iff.mpr (.inl rfl)) current state sound
        isActive).bind .inl ?_
      rintro _ first ⟨soundFirst, laterFirst, shapedKey⟩
      refine (soundFirst.keyOf_ends shapedKey).bind False.elim ?_
      rintro found _ ⟨rfl, reads⟩
      cases found with
      | error kind =>
          have unread : graph.keyed? (key, value) = none := by
            rw [Graph.keyed?, ← reads]
            rfl
          exact .inr (Graph.mapM_cons_eq_none_iff.mpr (.inl unread))
      | ok result =>
          rcases result with ⟨identity, keyValue⟩
          have isKeyed : graph.keyed? (key, value) = some ⟨identity, keyValue, value⟩ := by
            rw [Graph.keyed?, ← reads]
            rfl
          refine (evaluates value (Graph.mem_ends_cons_iff.mpr (.inr (.inl rfl))) current _
            soundFirst (laterFirst.active.trans isActive)).bind .inl ?_
          rintro _ second ⟨soundSecond, laterSecond, shapedValue⟩
          have laterThere := laterFirst.trans laterSecond
          refine (ih (fun inner member =>
              evaluates inner (Graph.mem_ends_cons_iff.mpr (.inr (.inr member))))
            soundSecond (laterThere.active.trans isActive)).bind ?_ ?_
          · exact Or.imp_right fun missing => Graph.mapM_cons_eq_none_iff.mpr (.inr missing)
          · rintro others after ⟨soundAfter, laterAfter, passes, shapedRest⟩
            refine ⟨soundAfter, laterThere.trans laterAfter,
              Graph.mapM_cons_of_some isKeyed passes, fun inner member => ?_⟩
            rcases Graph.mem_ends_cons_iff.mp member with rfl | rfl | member
            · exact laterAfter.shaped _ (laterSecond.shaped _ shapedKey)
            · exact laterAfter.shaped _ shapedValue
            · exact shapedRest inner member

/-- The items of an ordered map are evaluated pair by pair. -/
theorem orderedPairs_ends (regular : graph.Regular) {start : Mark} {activity : Activity}
    {items : List Nat}
    (plain : forall item, item ∈ items -> forall entry, entry ∈ graph.entries item ->
      graph.isMergeKey entry.1 = false)
    (evaluates : forall item, item ∈ items -> forall inner,
      inner ∈ Graph.ends (graph.entries item) ->
        Evaluates loader graph root evaluate active inner)
    (sound : Sound loader graph root current state) (isActive : state.active = active) :
    Ends (orderedPairs evaluate start activity items) state
      (loader.Fails graph root ∨ items.mapM graph.pair? = none)
      fun pairs after => Sound loader graph root current after ∧ Later state after ∧
        items.mapM graph.pair? = some pairs ∧
          forall item, item ∈ items -> forall inner, inner ∈ Graph.ends (graph.entries item) ->
            (after.shape? inner).isSome = true := by
  induction items generalizing state with
  | nil => exact ⟨sound, Later.refl state, rfl, nofun⟩
  | cons item rest ih =>
      have content := regular.content_of_plain sound.kept (plain item List.mem_cons_self)
      have unpaired (noPair : graph.pair? item = none) : (item :: rest).mapM graph.pair? = none :=
        Graph.mapM_cons_eq_none_iff.mpr (.inl noPair)
      rw [orderedPairs, ends_bind_iff, ends_node_iff, content]
      cases written : (graph.node item).content with
      | scalar _ => exact .inr (unpaired (by rw [Graph.pair?, written]))
      | sequence _ => exact .inr (unpaired (by rw [Graph.pair?, written]))
      | mapping entries =>
          match entries, written with
          | [], written => exact .inr (unpaired (by rw [Graph.pair?, written]))
          | _ :: _ :: _, written => exact .inr (unpaired (by rw [Graph.pair?, written]))
          | [(key, value)], written =>
              have isPair : graph.pair? item = some (key, value) := by rw [Graph.pair?, written]
              have members : graph.entries item = [(key, value)] :=
                Graph.entries_of_content written
              have first := evaluates item List.mem_cons_self
              rw [members] at first
              refine (first key (by simp [Graph.ends]) current state sound isActive).bind .inl ?_
              rintro _ early ⟨soundEarly, laterEarly, shapedKey⟩
              refine (first value (by simp [Graph.ends]) current early soundEarly
                (laterEarly.active.trans isActive)).bind .inl ?_
              rintro _ middle ⟨soundThere, laterThere, shapedValue⟩
              have later := laterEarly.trans laterThere
              refine (ih (fun other member => plain other (List.mem_cons_of_mem _ member))
                (fun other member => evaluates other (List.mem_cons_of_mem _ member)) soundThere
                (later.active.trans isActive)).bind ?_ ?_
              · exact Or.imp_right fun missing => Graph.mapM_cons_eq_none_iff.mpr (.inr missing)
              · rintro others after ⟨soundAfter, laterAfter, passes, shapedRest⟩
                refine ⟨soundAfter, later.trans laterAfter,
                  Graph.mapM_cons_of_some isPair passes, fun other member inner isEnd => ?_⟩
                rcases List.mem_cons.mp member with rfl | member
                · rw [members, Graph.mem_ends_cons_iff] at isEnd
                  rcases isEnd with rfl | rfl | isEnd
                  · exact laterAfter.shaped _ (laterThere.shaped _ shapedKey)
                  · exact laterAfter.shaped _ shapedValue
                  · cases isEnd
                · exact shapedRest other member inner isEnd

/-! ## Whole nodes -/

/-- What a table holds of a mapping after its expansion. -/
theorem Sound.flatten_ends (regular : graph.Regular)
    (sound : Sound loader graph root current state) {bound index : Nat}
    {written : List (Nat × Nat)} (within : graph.Within bound index)
    (content : (graph.node index).content = .mapping written) :
    Ends (flatten bound index) state (graph.held index = none) fun _ after =>
      Sound loader graph root current after ∧ Later state after ∧
        graph.held index = some (after.entries index) := by
  have clear : forall other, other ∈ [] -> ¬ Relation.ReflTransGen graph.Merges index other :=
    fun _ member => absurd member List.not_mem_nil
  refine (regular.flatten_ends within clear state written content sound.kept).imp ?_ id
  rintro _ after ⟨kept, frame, entries, holds, standing⟩
  refine ⟨sound.of_frame kept frame, frame.later, ?_⟩
  rw [Evaluation.entries_of_content standing, holds]

theorem KeyedEntry.insert_of_fresh {entry : KeyedEntry} {before : List KeyedEntry}
    (fresh : forall other, other ∈ before -> other.identity ≠ entry.identity) :
    entry.insert before = before ++ [entry] := by
  induction before with
  | nil => rfl
  | cons first rest ih =>
      rw [insert, if_neg (fresh first List.mem_cons_self),
        ih fun other member => fresh other (List.mem_cons_of_mem _ member)]
      rfl

/-- Entries with different keys are not written over each other. -/
theorem lastWins_of_nodup {entries : List KeyedEntry}
    (distinct : (entries.map (·.identity)).Nodup) : lastWins entries = entries := by
  have appended (before rest : List KeyedEntry)
      (distinct : ((before ++ rest).map (·.identity)).Nodup) :
      rest.foldl (fun kept entry => entry.insert kept) before = before ++ rest := by
    induction rest generalizing before with
    | nil => rw [List.append_nil]; rfl
    | cons entry rest ih =>
        have fresh : forall other, other ∈ before -> other.identity ≠ entry.identity := by
          intro other member same
          rw [List.map_append, List.nodup_append] at distinct
          exact distinct.2.2 _ (List.mem_map_of_mem member) _ (by simp) same
        rw [List.append_cons] at distinct ⊢
        rw [List.foldl_cons, KeyedEntry.insert_of_fresh fresh]
        exact ih (before ++ [entry]) distinct
  exact appended [] entries distinct

/-- A mapping that is evaluated at once is settled with distinct keys, or it is at fault. -/
theorem uniqueEntries_ends (regular : graph.Regular) (strict : loader = .strict) {bound index : Nat}
    (within : graph.Within bound index) (tag : (graph.node index).tag = Tag.core "map")
    (constructs : graph.Constructs root index)
    (evaluates : forall inner, inner ∈ graph.leadsTo index ->
      Evaluates loader graph root evaluate active inner)
    (sound : Sound loader graph root current state) (isActive : state.active = active) :
    Ends (uniqueEntries bound evaluate index) state (loader.Fails graph root) fun shape after =>
      Sound loader graph root current after ∧ Later state after ∧
        Settled loader graph after index shape := by
  have unheld (missing : graph.held index = none) : loader.Fails graph root := by
    refine ⟨index, constructs, .inl ?_⟩
    rw [Graph.shape?_of_map tag, Graph.keyedEntries?, missing]
    rfl
  rw [uniqueEntries, ends_bind_iff, ends_node_iff]
  cases content : (graph.node index).content with
  | scalar text =>
      have fails := unheld (Graph.held_eq_none (by rw [content]; rintro _ ⟨⟩))
      rw [sound.kept.content_of_plain (by rw [content]; rintro _ ⟨⟩), content]
      dsimp only
      split <;> exact fails
  | sequence items =>
      have fails := unheld (Graph.held_eq_none (by rw [content]; rintro _ ⟨⟩))
      rw [sound.kept.content_of_plain (by rw [content]; rintro _ ⟨⟩), content]
      dsimp only
      split <;> exact fails
  | mapping written =>
      rcases (sound.kept.content index List.not_mem_nil).exists_mapping content with ⟨here, standing⟩
      rw [standing]
      refine (sound.flatten_ends regular within content).bind unheld ?_
      rintro _ early ⟨soundEarly, laterEarly, holds⟩
      have leads := Graph.leadsTo_of_held (.inr tag) holds
      rw [leads] at evaluates
      rw [ends_bind_iff, ends_entries_iff]
      have keys : forall entry, entry ∈ early.entries index ->
          Evaluates loader graph root evaluate active entry.1 := fun entry member =>
        evaluates entry.1 (Graph.mem_ends_iff.mpr ⟨entry, member, .inl rfl⟩)
      have values : forall entry, entry ∈ early.entries index ->
          Evaluates loader graph root evaluate active entry.2 := fun entry member =>
        evaluates entry.2 (Graph.mem_ends_iff.mpr ⟨entry, member, .inr rfl⟩)
      have keyedEntries : graph.keyedEntries? index = (early.entries index).mapM graph.keyed? := by
        rw [Graph.keyedEntries?, holds]
        rfl
      refine (uniqueKeys_ends keys soundEarly (laterEarly.active.trans isActive)).bind ?_ ?_
      · rintro (fails | unfit)
        · exact fails
        · refine ⟨index, constructs, ?_⟩
          cases found : graph.keyedEntries? index with
          | none => exact .inl (by rw [Graph.shape?_of_map tag, found]; rfl)
          | some keyed =>
              refine .inr ⟨strict, .inl fun distinct => unfit keyed ⟨?_, ?_, nofun⟩⟩
              · rw [← keyedEntries, found]
              · exact distinct tag keyed found
      · rintro keyed middle ⟨soundThere, laterThere, fits, shapedKeys⟩
        have later := laterEarly.trans laterThere
        refine (forM_ends values soundThere (later.active.trans isActive)).bind id ?_
        rintro _ after ⟨soundAfter, laterAfter, shapedValues⟩
        rw [fits.1] at keyedEntries
        refine ⟨soundAfter, later.trans laterAfter, ?_, fun _ _ other found => ?_, ?_⟩
        · rw [Graph.shape?_of_map tag, keyedEntries, Option.map_some, lastWins_of_nodup fits.2.1]
        · rw [keyedEntries] at found
          cases found
          exact fits.2.1
        · intro inner member
          rw [leads] at member
          rcases Graph.mem_ends_iff.mp member with ⟨entry, written, rfl | rfl⟩
          · exact laterAfter.shaped _ (shapedKeys entry written)
          · exact shapedValues entry written

/-- The keys and values of a mapping or a set that has left the queue. -/
theorem queuedEntries_ends (regular : graph.Regular) {bound index : Nat}
    (within : graph.Within bound index)
    (tag : (graph.node index).tag = Tag.core "set" ∨ (graph.node index).tag = Tag.core "map")
    (evaluates : forall inner, inner ∈ graph.leadsTo index ->
      Evaluates loader graph root evaluate active inner)
    (sound : Sound loader graph root current state) (isActive : state.active = active) :
    Ends (queuedEntries bound evaluate index) state
      (loader.Fails graph root ∨ graph.keyedEntries? index = none) fun found after =>
        Sound loader graph root current after ∧ Later state after ∧
          graph.held index = some found.1 ∧ graph.keyedEntries? index = some found.2 ∧
            forall inner, inner ∈ graph.leadsTo index -> (after.shape? inner).isSome = true := by
  have unheld (missing : graph.held index = none) : graph.keyedEntries? index = none := by
    rw [Graph.keyedEntries?, missing]
    rfl
  rw [queuedEntries, ends_bind_iff, ends_node_iff]
  cases content : (graph.node index).content with
  | scalar text =>
      rw [sound.kept.content_of_plain (by rw [content]; rintro _ ⟨⟩), content]
      exact .inr (unheld (Graph.held_eq_none (by rw [content]; rintro _ ⟨⟩)))
  | sequence items =>
      rw [sound.kept.content_of_plain (by rw [content]; rintro _ ⟨⟩), content]
      exact .inr (unheld (Graph.held_eq_none (by rw [content]; rintro _ ⟨⟩)))
  | mapping written =>
      rcases (sound.kept.content index List.not_mem_nil).exists_mapping content with ⟨here, standing⟩
      rw [standing]
      refine (sound.flatten_ends regular within content).bind (fun missing => .inr (unheld missing)) ?_
      rintro _ early ⟨soundEarly, laterEarly, holds⟩
      have leads := Graph.leadsTo_of_held tag holds
      have keyedEntries : graph.keyedEntries? index = (early.entries index).mapM graph.keyed? := by
        rw [Graph.keyedEntries?, holds]
        rfl
      rw [leads] at evaluates ⊢
      rw [keyedEntries, ends_bind_iff, ends_entries_iff]
      refine (hashableEntries_ends evaluates soundEarly
        (laterEarly.active.trans isActive)).bind id ?_
      rintro keyed after ⟨soundAfter, laterAfter, passes, shaped⟩
      exact ⟨soundAfter, laterEarly.trans laterAfter, holds, passes, shaped⟩

section

variable {bound index : Nat}

theorem fails_of_shape? (constructs : graph.Constructs root index)
    (missing : graph.shape? index = none) : loader.Fails graph root :=
  ⟨index, constructs, .inl missing⟩

theorem queuedShape_ends_of_seq (tag : (graph.node index).tag = Tag.core "seq")
    (constructs : graph.Constructs root index) (distinct : loader = .strict -> graph.DistinctKeys index)
    (evaluates : forall inner, inner ∈ graph.leadsTo index ->
      Evaluates loader graph root evaluate active inner)
    (sound : Sound loader graph root current state) (isActive : state.active = active) :
    Ends (queuedShape bound evaluate index) state (loader.Fails graph root) fun shape after =>
      Sound loader graph root current after ∧ Later state after ∧
        Settled loader graph after index shape := by
  have unlisted (other : forall items, (state.node index).content ≠ .sequence items) :
      loader.Fails graph root := by
    refine fails_of_shape? constructs ?_
    rw [Graph.shape?_of_seq tag]
    split
    · next items content => exact absurd content (sound.kept.not_sequence other items)
    · rfl
  rw [queuedShape, ends_bind_iff, ends_node_iff, sound.kept.tag index, if_pos tag]
  cases standing : (state.node index).content with
  | scalar _ => exact unlisted fun items => by rw [standing]; rintro ⟨⟩
  | mapping _ => exact unlisted fun items => by rw [standing]; rintro ⟨⟩
  | sequence items =>
      have content := sound.kept.sequence_iff.mp standing
      have leads := Graph.leadsTo_of_seq tag content
      rw [leads] at evaluates
      refine (forM_ends evaluates sound isActive).bind id ?_
      rintro _ after ⟨soundAfter, laterAfter, shaped⟩
      refine ⟨soundAfter, laterAfter, by rw [Graph.shape?_of_seq tag, content], distinct, ?_⟩
      rw [leads]
      exact shaped

theorem queuedShape_ends_of_pairs (regular : graph.Regular)
    (tag : (graph.node index).tag = Tag.core "omap" ∨ (graph.node index).tag = Tag.core "pairs")
    (constructs : graph.Constructs root index) (distinct : loader = .strict -> graph.DistinctKeys index)
    (evaluates : forall inner, inner ∈ graph.leadsTo index ->
      Evaluates loader graph root evaluate active inner)
    (sound : Sound loader graph root current state) (isActive : state.active = active) :
    Ends (queuedShape bound evaluate index) state (loader.Fails graph root) fun shape after =>
      Sound loader graph root current after ∧ Later state after ∧
        Settled loader graph after index shape := by
  have unlisted (other : forall items, (state.node index).content ≠ .sequence items) :
      loader.Fails graph root := by
    refine fails_of_shape? constructs ?_
    rw [Graph.shape?_of_pairs tag]
    split
    · next items content => exact absurd content (sound.kept.not_sequence other items)
    · rfl
  have others : (graph.node index).tag ≠ Tag.core "seq" ∧
      (graph.node index).tag ≠ Tag.core "set" ∧ (graph.node index).tag ≠ Tag.core "map" := by
    rcases tag with tag | tag <;>
    · rw [tag]
      decide
  rw [queuedShape, ends_bind_iff, ends_node_iff, sound.kept.tag index, if_neg others.1,
    if_neg others.2.1, if_neg others.2.2]
  cases standing : (state.node index).content with
  | scalar _ => exact unlisted fun items => by rw [standing]; rintro ⟨⟩
  | mapping _ => exact unlisted fun items => by rw [standing]; rintro ⟨⟩
  | sequence items =>
      have content := sound.kept.sequence_iff.mp standing
      have leads := Graph.leadsTo_of_pairs tag content
      have denotes : graph.shape? index = (items.mapM graph.pair?).map .pairs := by
        rw [Graph.shape?_of_pairs tag, content]
      rw [leads] at evaluates
      refine (orderedPairs_ends regular (fun item member =>
          regular.pairs index items item tag content member) (fun item member inner isEnd =>
          evaluates inner (List.mem_flatMap.mpr ⟨item, member, isEnd⟩)) sound isActive).bind ?_ ?_
      · rintro (failing | missing)
        · exact failing
        · exact fails_of_shape? constructs (by rw [denotes, missing]; rfl)
      · rintro pairs after ⟨soundAfter, laterAfter, passes, shaped⟩
        refine ⟨soundAfter, laterAfter, by rw [denotes, passes]; rfl, distinct, ?_⟩
        intro inner member
        rw [leads] at member
        rcases List.mem_flatMap.mp member with ⟨item, among, isEnd⟩
        exact shaped item among inner isEnd

/-- A node that has left the queue is settled, or it is at fault. -/
theorem queuedShape_ends (regular : graph.Regular) (within : graph.Within bound index)
    (queued : isQueued loader (graph.node index).tag = true)
    (constructs : graph.Constructs root index)
    (evaluates : forall inner, inner ∈ graph.leadsTo index ->
      Evaluates loader graph root evaluate active inner)
    (sound : Sound loader graph root current state) (isActive : state.active = active) :
    Ends (queuedShape bound evaluate index) state (loader.Fails graph root) fun shape after =>
      Sound loader graph root current after ∧ Later state after ∧
        Settled loader graph after index shape := by
  have distinct : loader = .strict -> graph.DistinctKeys index := by
    rintro rfl tag
    rw [tag] at queued
    exact absurd queued (by decide)
  rcases isQueued_iff.mp queued with tag | tag | ⟨_, tag⟩ | tag
  · exact queuedShape_ends_of_seq tag constructs distinct evaluates sound isActive
  · have denotes := Graph.shape?_of_set tag
    rw [queuedShape, ends_bind_iff, ends_node_iff, sound.kept.tag index,
      if_neg (by rw [tag]; decide), if_pos tag]
    refine (queuedEntries_ends regular within (.inl tag) evaluates sound isActive).bind ?_ ?_
    · rintro (failing | missing)
      · exact failing
      · refine fails_of_shape? constructs ?_
        rw [denotes, missing]
        cases graph.held index <;> rfl
    · rintro ⟨pairs, keyed⟩ after ⟨soundAfter, laterAfter, holds, passes, shaped⟩
      exact ⟨soundAfter, laterAfter, by rw [denotes, holds, passes]; rfl, distinct, shaped⟩
  · have denotes := Graph.shape?_of_map tag
    rw [queuedShape, ends_bind_iff, ends_node_iff, sound.kept.tag index,
      if_neg (by rw [tag]; decide), if_neg (by rw [tag]; decide), if_pos tag]
    refine (queuedEntries_ends regular within (.inr tag) evaluates sound isActive).bind ?_ ?_
    · rintro (failing | missing)
      · exact failing
      · exact fails_of_shape? constructs (by rw [denotes, missing]; rfl)
    · rintro ⟨pairs, keyed⟩ after ⟨soundAfter, laterAfter, holds, passes, shaped⟩
      exact ⟨soundAfter, laterAfter, by rw [denotes, passes]; rfl, distinct, shaped⟩
  · exact queuedShape_ends_of_pairs regular tag constructs distinct evaluates sound isActive

end

/-! ## The evaluation of a node -/

/-- A node takes the shape that has been found for it, and is no longer active. -/
theorem Sound.finish {index : Nat} {shape : Shape} {before : Evaluation}
    (sound : Sound loader graph root current state)
    (later : Later { before with active := index :: before.active } state)
    (immediate : isQueued loader (graph.node index).tag = false)
    (constructs : graph.Constructs root index) (settled : Settled loader graph state index shape) :
    let after := { state.withShape index shape with
      active := (state.withShape index shape).active.erase index }
    Sound loader graph root current after ∧ Later before after ∧
      (after.shape? index).isSome = true := by
  intro after
  have free : index ∉ current ++ state.pending := fun member => by
    rw [(sound.waiting index member).2] at immediate
    cases immediate
  have placed := Evaluation.later_withShape state index shape
  refine ⟨(sound.settle (List.Sublist.refl current) (fun _ member => .inl member) free constructs
    settled).withActive _, ⟨fun other shaped => placed.shaped other (later.shaped other shaped),
      Nat.le_trans placed.work later.work, ?_⟩, Evaluation.isSome_shape?_withShape state index shape⟩
  change state.active.erase index = before.active
  rw [later.active]
  exact List.erase_cons_head index before.active

/-- Active nodes that a strict loader evaluates at once, each of them with the node inside it. -/
def Nested (loader : Loader) (graph : Graph) (active : List Nat) (index : Nat) : Prop :=
  forall other, other ∈ active -> loader = .strict ∧ Relation.TransGen graph.Nests other index

theorem Nested.enter {outer inner : Nat} (nested : Nested loader graph active outer)
    (strict : loader = .strict) (nests : graph.Nests outer inner) :
    Nested loader graph (outer :: active) inner :=
  List.forall_mem_cons.mpr ⟨⟨strict, .single nests⟩, fun other member =>
    ⟨strict, (nested other member).2.tail nests⟩⟩

theorem evaluates_evaluate (regular : graph.Regular) {bound depth index : Nat}
    (bounds : graph.nodes.size < bound) (constructs : graph.Constructs root index)
    (room : graph.Room active depth) (nested : Nested loader graph active index) :
    Evaluates loader graph root (Evaluate.evaluate loader bound depth) active index := by
  induction depth generalizing index active with
  | zero => exact absurd room Graph.not_room_zero
  | succ depth ih =>
      rintro current state sound rfl
      rw [Evaluate.evaluate, ends_bind_iff, ends_get_iff]
      by_cases shaped : (state.shape? index).isSome = true
      · rw [if_pos shaped]
        exact ⟨sound, Later.refl state, shaped⟩
      rw [if_neg shaped, ends_bind_iff, ends_node_iff, ends_bind_iff, ends_get_iff,
        sound.kept.tag index]
      have first := Evaluation.shapes_eq_of_unshaped shaped
      by_cases isActive : state.active.contains index = true
      · rw [if_pos isActive]
        rcases nested index (List.contains_iff_mem.mp isActive) with ⟨strict, inside⟩
        exact ⟨index, constructs, .inr ⟨strict, .inr inside⟩⟩
      rw [if_neg isActive]
      dsimp only
      rw [ends_bind_iff, ends_modify_iff]
      have soundThere := sound.withActive (index :: state.active)
      by_cases queued : isQueued loader (graph.node index).tag = true
      · rw [if_pos queued, ends_bind_iff, ends_setShape_iff, ends_bind_iff, ends_modify_iff,
          ends_modify_iff]
        have later := later_enter first
        refine ⟨(soundThere.enter first constructs queued).withActive _,
          ⟨later.shaped, later.work, List.erase_cons_head index state.active⟩,
          Evaluation.isSome_shape?_withShape state index _⟩
      rw [if_neg queued]
      have immediate := Bool.eq_false_iff.mpr queued
      by_cases isMap : (graph.node index).tag = Tag.core "map"
      · rw [if_pos isMap]
        have strict : loader = .strict := by
          cases loader with
          | strict => rfl
          | plain => exact absurd (isQueued_iff.mpr (.inr (.inr (.inl ⟨rfl, isMap⟩)))) queued
        have deeper := room.enter (fun member => isActive (List.contains_iff_mem.mpr member))
          (sound.lt_size first)
        have inside : forall inner, inner ∈ graph.leadsTo index ->
            Evaluates loader graph root (Evaluate.evaluate loader bound depth)
              (index :: state.active) inner :=
          fun inner leads => ih (constructs.step leads) deeper (nested.enter strict ⟨isMap, leads⟩)
        refine (uniqueEntries_ends regular strict (regular.within_of_lt bounds index) isMap constructs
          inside soundThere rfl).bind id ?_
        rintro shape after ⟨soundAfter, laterAfter, settled⟩
        exact soundAfter.finish laterAfter immediate constructs settled
      rw [if_neg isMap]
      have other : forall name, name ∈ ["seq", "set", "map", "omap", "pairs"] ->
          (graph.node index).tag ≠ Tag.core name := by
        rw [isQueued_iff] at queued
        simp only [List.mem_cons, List.not_mem_nil, or_false]
        rintro name (rfl | rfl | rfl | rfl | rfl) <;> tauto
      by_cases isScalar : scalarTags.contains (graph.node index).tag = true
      · rw [if_pos isScalar]
        refine (soundThere.scalar_ends regular (by omega) isScalar).bind (fun missing => ?_) ?_
        · refine fails_of_shape? constructs ?_
          rw [Graph.shape?_of_other other, missing]
          rfl
        · rintro value _ ⟨rfl, isValue⟩
          refine soundThere.finish (Later.refl _) immediate constructs ⟨?_, ?_, ?_⟩
          · exact Graph.shape?_eq_scalar_iff.mpr isValue
          · exact fun _ tag => absurd tag isMap
          · rw [Graph.leadsTo_of_other other]
            nofun
      · rw [if_neg isScalar]
        refine fails_of_shape? constructs ?_
        rw [Graph.shape?_of_other other, Graph.value?]
        simp only [isScalar]
        rfl

end Yaml
end RouteIR
