import RouteIR.Proofs.Json.LongInteger
import RouteIR.Proofs.World
import RouteIR.Proofs.Yaml.Construction

namespace RouteIR

/-!
# How loading ends

A document is loaded as a mapping, or there is an error.  Most errors have a message; the others
are not foreseen.  A file is unforeseen that does not hold text, and so is a YAML text with a
value that promises more than it keeps, and a JSON text with an integer of too many digits.  There
is no other one.
-/

namespace Yaml

/-- An orderly text is read, or there is a message. -/
theorem told_of_read {text : String} (orderly : Orderly text) {failure : Failure}
    (fails : Yaml.read .strict text = .error failure) : failure.Told := by
  rw [Yaml.read] at fails
  rcases Outcome.bind_eq_error_iff.mp fails with unread | ⟨graph, isGraph, unfit⟩
  · exact Graph.told_of_ofText orderly.tame unread
  · rw [Graph.evaluate] at unfit
    split at unfit
    · cases unfit
    · rcases Outcome.bind_eq_error_iff.mp unfit with shapeless | ⟨shapes, _, finished⟩
      · exact Graph.told_of_shapes (orderly.honest graph isGraph) _ shapeless
      · cases finished

end Yaml

namespace Source

/-- A mapping, or an error with a message. -/
inductive Foreseen {ε : Type} (message? : ε -> Option String) : Except ε Tree -> Prop
  | mapping (entries : List (Tree × Tree)) (label : Option Label) :
      Foreseen message? (.ok (.map entries label))
  | told {error : ε} {message : String} (tells : message? error = some message) :
      Foreseen message? (.error error)

/-- Whether a text of a format is read as YAML: where the format is YAML, or unknown and the text
no JSON. -/
def ReadsYaml (format : Format) (text : String) : Prop :=
  format = .yaml ∨ format = .unknown ∧ Exists fun fault => Exists fun remaining =>
    Json.read .strict text = .error (.syntaxFault fault remaining)

/-- No integer of a text has too many digits, where the text is read as JSON. -/
def Bounded (format : Format) (text : String) : Prop :=
  format ≠ .yaml -> Json.read .strict text ≠ .error .longInteger

/-- A text is bounded that has no run of so many digits. -/
theorem bounded_of_not_hasLongRun (format : Format) {text : String}
    (short : ¬ Json.HasLongRun text.toList) : Bounded format text :=
  fun _ long => short (Json.hasLongRun_of_read Json.patient_strict long)

theorem foreseen_requireMapping (tree : Tree) :
    Foreseen ContentError.message? (requireMapping tree) := by
  rw [requireMapping.eq_def]
  split
  · exact .mapping _ _
  · exact .told rfl

theorem foreseen_readYaml {text : String} (orderly : Yaml.Orderly text)
    (jsonFault : Option String) :
    Foreseen ContentError.message? (readYaml jsonFault text) := by
  rw [readYaml]
  split
  · exact .told rfl
  · exact foreseen_requireMapping _
  · next failure fails =>
      have told := Yaml.told_of_read orderly fails text.toList
      rcases Option.isSome_iff_exists.mp told with ⟨message, tells⟩
      rw [tells]
      exact .told rfl

/-- The text of a document is read as a mapping, or there is a message. -/
theorem foreseen_readContent {format : Format} {text : String} (bounded : Bounded format text)
    (orderly : ReadsYaml format text -> Yaml.Orderly text) :
    Foreseen ContentError.message? (readContent format text) := by
  rw [readContent]
  split
  · next isYaml => exact foreseen_readYaml (orderly (.inl isYaml)) none
  · next notYaml =>
    split
    · exact foreseen_requireMapping _
    · exact .told rfl
    · next long => exact absurd long (bounded notYaml)
    · next fault remaining fails =>
        dsimp only
        split
        · exact .told rfl
        · next notJson =>
            refine foreseen_readYaml (orderly (.inr ⟨?_, fault, remaining, fails⟩)) _
            cases format with
            | json => exact absurd rfl notJson
            | yaml => exact absurd rfl notYaml
            | unknown => rfl

/-- An integer of too many digits is not foreseen. -/
theorem bounded_of_foreseen {format : Format} {text : String}
    (foreseen : Foreseen ContentError.message? (readContent format text)) :
    Bounded format text := by
  intro notYaml long
  rw [readContent, if_neg notYaml, long] at foreseen
  cases foreseen with
  | told tells => cases tells

theorem foreseen_mapError {outcome : Except ContentError Tree}
    (foreseen : Foreseen ContentError.message? outcome) :
    Foreseen LoadError.message? (outcome.mapError .content) := by
  cases foreseen with
  | mapping entries label => exact .mapping entries label
  | told tells => exact .told tells

/-- The content of a file is read as a mapping, or there is a message. -/
theorem foreseen_readFileContent {source : String} {content : List UInt8} {text : String}
    (decodes : Text.decodeFile? content = some text)
    (bounded : Bounded (formatOfPath (.ofText source)) text)
    (orderly : ReadsYaml (formatOfPath (.ofText source)) text -> Yaml.Orderly text) :
    Foreseen LoadError.message? (readFileContent source content) := by
  rw [readFileContent, decodes]
  change Foreseen _ (readNonblank _ _ _)
  rw [readNonblank]
  split
  · exact .told rfl
  · exact foreseen_mapError (foreseen_readContent bounded orderly)

/-- A text that is orderly where it is read as YAML is loaded as a mapping, or there is a message,
just when no integer has too many digits where it is read as JSON; and none has without a run of so
many digits.  A file with such a text is loaded so as well. -/
theorem loading_foreseen {format : Format} {text : String}
    (orderly : ReadsYaml format text -> Yaml.Orderly text) :
    (Foreseen ContentError.message? (readContent format text) ↔ Bounded format text) ∧
      (¬ Json.HasLongRun text.toList -> Bounded format text) ∧
      (Bounded format text -> forall (world : World) (source : String) (content : List UInt8),
        source ≠ "-" -> Address.afterScheme? source = none ->
        formatOfPath (.ofText source) = format ->
        world.kindAt (.ofText source) = .ok (some .file) ->
        world.readAt (.ofText source) = .ok content ->
        Text.decodeFile? content = some text ->
        Foreseen LoadError.message? (world.value (Source.load source))) := by
  refine ⟨⟨bounded_of_foreseen, fun bounded => foreseen_readContent bounded orderly⟩,
    bounded_of_not_hasLongRun format, ?_⟩
  intro bounded
  rintro world source content notInput notAddress rfl isFile read decodes
  have kind : world.value (Host.kindAt (.ofText source)) = .ok (some .file) := isFile
  have holds : world.value (Host.readFile (.ofText source)) = .ok content := read
  have loads : world.value (Source.load source) = readFileContent source content := by
    rw [Source.load, if_neg notInput, notAddress]
    dsimp only
    rw [World.value_bind, kind, (World.asks_kindAt _).leaves]
    dsimp only
    rw [World.value_bind, holds]
    rfl
  rw [loads]
  exact foreseen_readFileContent decodes bounded orderly

/-- A world with a file of one entry. -/
def entryWorld : World :=
  { World.bare ["w"] ⟨true, ["home"]⟩ with
    files := ⟨[(["w"], .directory), (["w", "d.yaml"], .file "a: b".toUTF8.toList)]⟩ }

theorem loading_foreseen_of_entry :
    Foreseen ContentError.message? (readContent .yaml "a: b") ∧
      Foreseen LoadError.message? (entryWorld.value (Source.load "d.yaml")) := by
  have orderly : Yaml.Orderly "a: b" := by
    refine ⟨Yaml.tame_of_not_mem (by decide +kernel), fun graph isGraph => ?_⟩
    refine Yaml.Graph.honest_of_isHonest ?_
    exact Outcome.part_eq_of_computed isGraph Yaml.Graph.isHonest (by decide +kernel)
  have bounded : Bounded .yaml "a: b" := fun notYaml => absurd rfl notYaml
  rcases loading_foreseen fun _ : ReadsYaml .yaml "a: b" => orderly with ⟨content, _, file⟩
  refine ⟨content.mpr bounded, ?_⟩
  exact file bounded entryWorld "d.yaml" "a: b".toUTF8.toList (by decide +kernel)
    (by decide +kernel) (by decide +kernel) (by decide +kernel) (by decide +kernel)
    (by decide +kernel)

/-- A sequence as a key is not foreseen. -/
theorem unforeseen_compoundKey :
    ¬ Foreseen ContentError.message? (readContent .yaml "[a]: 1") := by
  have untold : (match readContent .yaml "[a]: 1" with
      | .error error => error.message?.isNone
      | .ok _ => false) = true := by decide +kernel
  intro foreseen
  cases outcome : readContent .yaml "[a]: 1" with
  | error error =>
      rw [outcome] at foreseen untold
      cases foreseen with
      | told tells =>
          change error.message?.isNone = true at untold
          rw [tells] at untold
          cases untold
  | ok tree =>
      rw [outcome] at untold
      cases untold

end Source
end RouteIR
