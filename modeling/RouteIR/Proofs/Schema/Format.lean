import RouteIR.Proofs.Schema.Reading

namespace RouteIR
namespace Schema

/-!
# Formats that are no text

Reading a schema ends with a rule, or with a format that is no text and that no rule speaks
of, or with a key that has no text.  A format that is no text stands at a primitive; the way
to it leads through the items of arrays, and through the properties of objects of which all
before can be read.
-/

/-- Reading a node comes to a format that is no text. -/
inductive UnreadFormat : Tree -> TextFault -> Prop
  | here {entries : List (Tree × Tree)} {label : Option Label} {kind : PrimitiveKind}
      {fault : TextFault} (recognised : form entries = .primitive kind)
      (legible : Tree.keysAreLegible entries = true)
      (unread : (Tree.field "format" entries).optionalText = .error fault) :
      UnreadFormat (.map entries label) fault
  | items {entries : List (Tree × Tree)} {label : Option Label} {item : Tree} {fault : TextFault}
      (recognised : form entries = .array) (found : Tree.lookup? "items" entries = some item)
      (inner : UnreadFormat item fault) : UnreadFormat (.map entries label) fault
  | property {entries before after : List (Tree × Tree)} {property : Tree × Tree}
      {required : List String} {label : Option Label} {fault : TextFault}
      (recognised : form entries = .object)
      (parts : objectParts entries = .ok (before ++ property :: after, required))
      (earlier : forall other, other ∈ before -> Outcome.Succeeds (readField other))
      (legible : property.1.isLegible = true)
      (inner : UnreadFormat property.2 fault) : UnreadFormat (.map entries label) fault

/-- Steps are added to faults only. -/
theorem under_eq_formatNotText_iff (step : Step) (refusal : Refusal) (fault : TextFault) :
    refusal.under step = .formatNotText fault ↔ refusal = .formatNotText fault := by
  cases refusal <;> simp [Refusal.under]

theorem mapError_under_iff {outcome : Except Refusal Schema} (step : Step) (fault : TextFault) :
    outcome.mapError (Refusal.under step) = .error (.formatNotText fault) ↔
      outcome = .error (.formatNotText fault) := by
  rw [Outcome.mapError_eq_error_iff]
  simp only [under_eq_formatNotText_iff, exists_eq_right]

theorem readField_unread_iff (property : Tree × Tree) (fault : TextFault) :
    readField property = .error (.formatNotText fault) ↔
      property.1.isLegible = true ∧ read property.2 = .error (.formatNotText fault) := by
  rw [readField, Outcome.map_eq_error_iff, Tree.withText_eq_error_iff, mapError_under_iff]
  simp

theorem readFields_unread_iff (properties : List (Tree × Tree)) (fault : TextFault) :
    readFields properties = .error (.formatNotText fault) ↔
      Outcome.First (fun property => Outcome.Succeeds (readField property))
        (fun property => property.1.isLegible = true ∧
          read property.2 = .error (.formatNotText fault)) properties := by
  rw [readFields_eq_mapM, Outcome.mapM_eq_error_iff]
  simp only [readField_unread_iff]

theorem unreadFormat_of_read :
    NodeCases fun node => forall fault, read node = .error (.formatNotText fault) ->
      UnreadFormat node fault where
  leaf node leaf fault refused := by
    rw [not_read_of_leaf leaf] at refused
    cases refused
  map entries label ofItem ofProperty fault refused := by
    rw [read] at refused
    split at refused
    · have parseRefused := Outcome.map_eq_error_iff.mp refused
      rcases Outcome.mapError_eq_error_iff.mp parseRefused with ⟨_, _, same⟩
      cases same
    · cases refused
    · rcases Outcome.mapError_eq_error_iff.mp refused with ⟨_, _, same⟩
      cases same
    · next recognised =>
        split at refused
        · cases refused
        · next properties required parts =>
            have fieldsRefused := Outcome.map_eq_error_iff.mp refused
            rcases (readFields_unread_iff properties fault).mp fieldsRefused with
              ⟨before, property, after, rfl, earlier, legible, inner⟩
            refine .property recognised parts earlier legible ?_
            exact ofProperty _ required parts property (by simp) fault inner
    · next recognised =>
        split at refused
        · cases refused
        · next item found =>
            have itemRefused :=
              (mapError_under_iff _ fault).mp (Outcome.map_eq_error_iff.mp refused)
            exact .items recognised found (ofItem item found fault itemRefused)
    · next kind recognised =>
        rw [readPrimitive] at refused
        split at refused
        · next legible =>
            split at refused
            · cases refused
            · next unread =>
                cases refused
                exact .here recognised legible unread
        · cases refused
    · cases refused
    · cases refused

theorem UnreadFormat.refused {node : Tree} {fault : TextFault} (unread : UnreadFormat node fault) :
    read node = .error (.formatNotText fault) := by
  induction unread with
  | here recognised legible unread =>
      rw [read, recognised]
      simp only [readPrimitive, legible, if_true, unread]
  | items recognised found _ ih =>
      rw [read, recognised]
      dsimp only
      split
      · next absent =>
          rw [found] at absent
          cases absent
      · next item other =>
          rw [found] at other
          cases other
          rw [Outcome.map_eq_error_iff, mapError_under_iff]
          exact ih
  | property recognised parts earlier legible _ ih =>
      rw [read, recognised]
      dsimp only
      split
      · next other =>
          rw [parts] at other
          cases other
      · next other =>
          rw [parts] at other
          cases other
          rw [Outcome.map_eq_error_iff, readFields_unread_iff]
          exact ⟨_, _, _, rfl, earlier, legible, ih⟩

/-- A schema is refused for a format that is no text exactly when reading comes to it. -/
theorem read_unread_iff (node : Tree) (fault : TextFault) :
    read node = .error (.formatNotText fault) ↔ UnreadFormat node fault :=
  ⟨unreadFormat_of_read.holds node fault, UnreadFormat.refused⟩

end Schema
end RouteIR
