import RouteIR.Proofs.Keyed
import RouteIR.Renderer

namespace RouteIR

/-!
# Renderers that are kept

A renderer has two names: its own, under which it is looked up, and that of the entry it comes
from, under which it is reported.  Of the renderers that load, those are kept whose own names are
new.  The two names need not be the same, so what is reported can be looked up just where they
are.
-/

namespace RendererRegistry

/-! ## Looking up a renderer -/

theorem get_eq_ok_iff {registry : RendererRegistry} {name : String} {renderer : Renderer} :
    registry.get name = .ok renderer ↔ registry.find? name = some renderer := by
  rw [get]
  cases registry.find? name <;> simp

/-- Where names are distinct, a renderer is found under its own name and no other. -/
theorem find?_eq_some_iff_of_mem {registry : RendererRegistry}
    (distinct : (registry.renderers.map (·.name)).Nodup) {renderer : Renderer}
    (member : renderer ∈ registry.renderers) {name : String} :
    registry.find? name = some renderer ↔ name = renderer.name := by
  constructor
  · intro found
    exact (Keyed.key_of_find? found).symm
  · rintro rfl
    exact Keyed.find?_key distinct member

/-! ## Taking up offers -/

/-- The entries whose renderers load, with these. -/
def offers (entries : List RendererEntry) : List (RendererEntry × Renderer) :=
  entries.filterMap fun entry => entry.renderer.toOption.map fun renderer => (entry, renderer)

theorem offers_of_error (entries : List RendererEntry) {entry : RendererEntry} {reason : String}
    (offered : entry.renderer = .error reason) : offers (entries ++ [entry]) = offers entries := by
  simp [offers, offered, Except.toOption]

theorem offers_of_ok (entries : List RendererEntry) {entry : RendererEntry} {renderer : Renderer}
    (offered : entry.renderer = .ok renderer) :
    offers (entries ++ [entry]) = offers entries ++ [(entry, renderer)] := by
  simp [offers, offered, Except.toOption]

/-- The offers that a discovery has kept: in the order of the entries, and of each name the
first.  The entries of all others are skipped. -/
structure Keeps (entries : List RendererEntry) (discovery : Discovery)
    (kept : List (RendererEntry × Renderer)) : Prop where
  renderers : discovery.registry.renderers = kept.map (·.2)
  loaded : discovery.loaded = kept.map (·.1.name)
  inOrder : kept.Sublist (offers entries)
  distinct : (kept.map (·.2.name)).Nodup
  first : forall name,
    kept.find? (·.2.name = name) = (offers entries).find? (·.2.name = name)
  complete : (discovery.loaded ++ discovery.skipped.map (·.1)).Perm (entries.map (·.name))

namespace Keeps

variable {entries : List RendererEntry} {discovery : Discovery}
  {kept : List (RendererEntry × Renderer)}

theorem find?_eq (keeps : Keeps entries discovery kept) (name : String) :
    discovery.registry.find? name = (kept.find? (·.2.name = name)).map (·.2) := by
  rw [find?, keeps.renderers, List.find?_map]
  rfl

/-- An entry is skipped that offers nothing, or a renderer of a name that is taken. -/
theorem skip (keeps : Keeps entries discovery kept) {entry : RendererEntry} {reason : String}
    (taken : forall renderer, entry.renderer = .ok renderer ->
      (kept.find? (·.2.name = renderer.name)).isSome = true) :
    Keeps (entries ++ [entry])
      { discovery with skipped := discovery.skipped ++ [(entry.name, reason)] } kept := by
  have complete : (discovery.loaded ++
      (discovery.skipped ++ [(entry.name, reason)]).map (·.1)).Perm
        ((entries ++ [entry]).map (·.name)) := by
    rw [List.map_append, List.map_append, ← List.append_assoc]
    exact keeps.complete.append_right [entry.name]
  cases offered : entry.renderer with
  | error reason =>
      have same := offers_of_error entries offered
      exact ⟨keeps.renderers, keeps.loaded, same ▸ keeps.inOrder, keeps.distinct,
        same ▸ keeps.first, complete⟩
  | ok renderer =>
      have more := offers_of_ok entries offered
      refine ⟨keeps.renderers, keeps.loaded, ?_, keeps.distinct, fun name => ?_, complete⟩
      · rw [more]
        exact keeps.inOrder.trans (List.sublist_append_left _ _)
      · rw [more, List.find?_append, ← keeps.first]
        by_cases named : renderer.name = name
        · rw [← named, Option.or_of_isSome (taken renderer offered)]
        · simp [named]

/-- A renderer of a new name is kept. -/
theorem register (keeps : Keeps entries discovery kept) {entry : RendererEntry}
    {renderer : Renderer} (offered : entry.renderer = .ok renderer)
    (free : kept.find? (·.2.name = renderer.name) = none) :
    Keeps (entries ++ [entry])
      { discovery with
        registry := ⟨discovery.registry.renderers ++ [renderer]⟩
        loaded := discovery.loaded ++ [entry.name] }
      (kept ++ [(entry, renderer)]) := by
  have more := offers_of_ok entries offered
  refine ⟨?_, ?_, ?_, ?_, fun name => ?_, ?_⟩
  · simp [keeps.renderers]
  · simp [keeps.loaded]
  · rw [more]
    exact keeps.inOrder.append_right _
  · rw [List.map_append, List.map_singleton]
    refine List.nodup_append.mpr ⟨keeps.distinct, List.nodup_singleton _, ?_⟩
    rintro name member _ last rfl
    rw [List.mem_singleton.mp last] at member
    exact Keyed.find?_key_eq_none_iff.mp free member
  · rw [more, List.find?_append, List.find?_append, keeps.first]
  · have complete := keeps.complete.append_right [entry.name]
    rw [List.append_assoc] at complete
    rw [List.map_append, List.append_assoc]
    exact (List.perm_append_comm.append_left _).trans complete

/-- Whatever an entry offers, it is kept or skipped. -/
theorem take (keeps : Keeps entries discovery kept) (entry : RendererEntry) :
    Exists fun kept => Keeps (entries ++ [entry]) (discovery.take entry) kept := by
  rw [Discovery.take]
  cases offered : entry.renderer with
  | error reason =>
      refine ⟨kept, keeps.skip fun renderer loads => ?_⟩
      rw [offered] at loads
      cases loads
  | ok renderer =>
      simp only [RendererRegistry.register, keeps.find?_eq]
      cases found : kept.find? (·.2.name = renderer.name) with
      | some other =>
          refine ⟨kept, keeps.skip fun same loads => ?_⟩
          rw [offered] at loads
          cases loads
          rw [found]
          rfl
      | none => exact ⟨kept ++ [(entry, renderer)], keeps.register offered found⟩

end Keeps

/-- After any entries, what a discovery has kept is known. -/
theorem keeps_discover (entries : List RendererEntry) :
    Exists fun kept => Keeps entries (empty.discover entries) kept := by
  induction entries using List.reverseRecOn with
  | nil => exact ⟨[], rfl, rfl, List.Sublist.refl _, List.nodup_nil, fun _ => rfl, .refl _⟩
  | append_singleton entries last ih =>
      rcases ih with ⟨kept, keeps⟩
      rw [discover, List.foldl_append]
      exact keeps.take last

/-- A discovery keeps the first renderer of each name and reports one entry for each.  A kept
renderer is found under its own name, and under that of its entry just when the two are the
same. -/
theorem discover_exact (entries : List RendererEntry) :
    Exists fun kept => Keeps entries (empty.discover entries) kept ∧
      (empty.discover entries).loaded.length =
        (empty.discover entries).registry.renderers.length ∧
      forall entry renderer, (entry, renderer) ∈ kept ->
        (empty.discover entries).registry.get renderer.name = .ok renderer ∧
        ((empty.discover entries).registry.get entry.name = .ok renderer ↔
          entry.name = renderer.name) := by
  rcases keeps_discover entries with ⟨kept, keeps⟩
  refine ⟨kept, keeps, ?_, fun entry renderer member => ?_⟩
  · rw [keeps.loaded, keeps.renderers, List.length_map, List.length_map]
  · have distinct : ((empty.discover entries).registry.renderers.map (·.name)).Nodup := by
      rw [keeps.renderers, List.map_map]
      exact keeps.distinct
    have registered : renderer ∈ (empty.discover entries).registry.renderers := by
      rw [keeps.renderers]
      exact List.mem_map_of_mem member
    rw [get_eq_ok_iff, get_eq_ok_iff, find?_eq_some_iff_of_mem distinct registered,
      find?_eq_some_iff_of_mem distinct registered]
    exact ⟨rfl, Iff.rfl⟩

/-- An entry can be reported though nothing is found under its name. -/
theorem reported_not_found :
    (empty.discover [⟨"a", .ok ⟨"b", "", fun _ _ => .ok []⟩⟩]).loaded = ["a"] ∧
      (empty.discover [⟨"a", .ok ⟨"b", "", fun _ _ => .ok []⟩⟩]).registry.get "a" =
        .error (.notInstalled "a" ["b"]) := by
  refine ⟨rfl, ?_⟩
  have listed : availableNames ⟨[⟨"b", "", fun _ _ => .ok []⟩]⟩ = ["b"] := by decide +kernel
  exact congrArg (fun names => Except.error (RendererError.notInstalled "a" names)) listed

end RendererRegistry

end RouteIR
