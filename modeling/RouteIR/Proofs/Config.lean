import RouteIR.Config
import RouteIR.Proofs.World.Twins

namespace RouteIR

/-!
# Values that are overridden

Each configured value comes from the first place that gives it, and a value that is given at a
later place is overridden.  A command resolves its configuration more than once, each time with
those of its arguments that it needs then.  So an overridden value is never used, but it can
still be checked: where the argument is left out that overrides it, a value that fails the check
of its field stops the command.  Where it passes, it has no effect at all.
-/

/-! ## Checking a configuration -/

namespace Config

/-- What a configuration has in a field. -/
def text (config : Config) : ConfigField -> Option String
  | .source => config.source
  | .package => some config.package
  | .output => config.output

/-- A value that the check of its field lets pass. -/
def Passes : ConfigField -> Option Json -> Prop
  | .package, value => Outcome.Succeeds (checkPackage value)
  | field, value => Outcome.Succeeds (checkText field value)

/-- Two checks of one field: of the same value, or of two values that both pass. -/
theorem coincide_of_passes {α : Type} {same : Prop} {first second : Except FieldError α}
    (alike : (same ∧ first = second) ∨
      Outcome.Succeeds first ∧ Outcome.Succeeds second ∧ ¬ same) :
    Outcome.Coincide (fun one other => same -> one = other) first second := by
  rcases alike with ⟨_, rfl⟩ | ⟨⟨one, rfl⟩, ⟨other, rfl⟩, differs⟩
  · cases first with
    | ok value => exact .ok fun _ => rfl
    | error failure => exact .error failure
  · exact .ok fun same => absurd same differs

/-- Two configurations that both are fine, or fail in the same way, agree in every field that has
the same value in both before it is checked. -/
theorem check_coincide {left right : ConfigField -> Option Json}
    (alike : forall field, left field = right field ∨
      Passes field (left field) ∧ Passes field (right field)) :
    Outcome.Coincide (fun one other : Config =>
      forall field, left field = right field -> one.text field = other.text field)
      (check left) (check right) := by
  have checked {α : Type} (field : ConfigField) (run : Option Json -> Except FieldError α)
      (passes : forall value, Passes field value -> Outcome.Succeeds (run value)) :
      Outcome.Coincide (fun one other => left field = right field -> one = other)
        (run (left field)) (run (right field)) := by
    by_cases same : left field = right field
    · exact coincide_of_passes (.inl ⟨same, by rw [same]⟩)
    · rcases alike field with equal | ⟨one, other⟩
      · exact absurd equal same
      · exact coincide_of_passes (.inr ⟨passes _ one, passes _ other, same⟩)
  have source := checked .source (checkText .source) fun _ passes => passes
  have package := checked .package checkPackage fun _ passes => passes
  have output := checked .output (checkText .output) fun _ passes => passes
  rw [check, check]
  generalize checkText .source (left .source) = one at source
  generalize checkText .source (right .source) = other at source
  generalize checkPackage (left .package) = onePackage at package
  generalize checkPackage (right .package) = otherPackage at package
  generalize checkText .output (left .output) = oneOutput at output
  generalize checkText .output (right .output) = otherOutput at output
  cases source with
  | error failure => cases package <;> cases output <;> exact .error _
  | ok sources =>
      cases package with
      | error failure => cases output <;> exact .error _
      | ok packages =>
          cases output with
          | error failure => exact .error _
          | ok outputs =>
              refine .ok fun field same => ?_
              cases field with
              | source => exact sources same
              | package => exact congrArg some (packages same)
              | output => exact outputs same

end Config

namespace World

/-- The path of the project file. -/
def projectPath (world : World) : Path :=
  Path.child ⟨true, world.current⟩ Config.projectFileName

/-- The value of a field before it is checked. -/
def chosen (world : World) (arguments : ConfigArguments) (project : List (String × Json))
    (field : ConfigField) : Option Json :=
  Config.choose (arguments.get field) (world.environment.lookup field.variableName)
    (project.lookup field.name)

theorem value_resolve (world : World) (arguments : ConfigArguments) :
    world.value (Config.resolve arguments) = match world.value Config.loadProject with
      | .error error => .error error
      | .ok project => Config.check (world.chosen arguments project) := by
  rw [Config.resolve, value_bind, asks_loadProject.leaves]
  cases world.value Config.loadProject with
  | error error => rfl
  | ok project =>
      simp only [value_bind, (asks_environment _).leaves, value_pure]
      refine congrArg Config.check (funext fun field => ?_)
      cases field <;> rfl

theorem value_loadProject (world : World) :
    world.value Config.loadProject = match world.kindAt world.projectPath with
      | .error error => .error (.projectHidden error)
      | .ok (some .file) =>
          match world.readAt world.projectPath with
          | .error error => .error (.projectUnreadable world.projectPath error)
          | .ok content => Config.readProject world.projectPath content
      | .ok _ => .ok [] := by
  change World.value _ (match world.kindAt world.projectPath with
      | .error error => _
      | .ok (some .file) => _
      | .ok _ => _) = _
  cases world.kindAt world.projectPath with
  | error error => rfl
  | ok kind =>
      cases kind with
      | none => rfl
      | some kind =>
          cases kind with
          | directory => rfl
          | file =>
              change World.value _ (match world.readAt world.projectPath with
                | .error error => _
                | .ok content => _) = _
              cases world.readAt world.projectPath <;> rfl

/-! ## Values that are overridden -/

/-- Whether a field has a value without the project file. -/
def Overrides (world : World) (arguments : ConfigArguments) (field : ConfigField) : Prop :=
  (arguments.get field).isSome = true ∨
    Exists fun value => world.environment.lookup field.variableName = some value ∧
      value.isEmpty = false

/-- Two project files that differ at most in values that are overridden, and in what is no
value of a field. -/
def Rewritten (world : World) (arguments : ConfigArguments) (first second : List UInt8) : Prop :=
  Exists fun before => Exists fun after =>
    Config.readProject world.projectPath first = .ok before ∧
    Config.readProject world.projectPath second = .ok after ∧
    forall field : ConfigField, before.lookup field.name = after.lookup field.name ∨
      world.Overrides arguments field

/-- Two worlds that differ at most in values that are overridden: in the variables of fields
that are given as arguments, and in what the project file has for fields that are given as
arguments or by a variable. -/
structure Overridden (arguments : ConfigArguments) (left right : World) : Prop where
  rest : right = { left with files := right.files, environment := right.environment }
  environment : forall name, left.environment.lookup name = right.environment.lookup name ∨
    Exists fun field : ConfigField =>
      name = field.variableName ∧ (arguments.get field).isSome = true
  elsewhere : forall place, left.files.locate left.current left.projectPath ≠ .ok place ->
    left.files.entry? place = right.files.entry? place
  project : forall place, left.files.locate left.current left.projectPath = .ok place ->
    left.files.entry? place = right.files.entry? place ∨
      Exists fun first => Exists fun second =>
        left.files.entry? place = some (.file first) ∧
        right.files.entry? place = some (.file second) ∧ left.Rewritten arguments first second

/-- The variables of all fields. -/
def fieldVariables : List String :=
  [ConfigField.source, .package, .output].map ConfigField.variableName

theorem mem_fieldVariables (field : ConfigField) : field.variableName ∈ fieldVariables := by
  cases field <;> simp [fieldVariables]

theorem variableName_injective : Function.Injective ConfigField.variableName := by
  intro first second same
  revert same
  cases first <;> cases second <;> decide

theorem getLast?_of_projectPath {world : World} {place : Place}
    (located : world.files.locate world.current world.projectPath = .ok place) (rest : String) :
    place.getLast? ≠ some ("." ++ rest) := by
  have ends : world.projectPath.parts = world.current ++ [Config.projectFileName] := rfl
  rw [FileSystem.getLast?_of_locate ends (by decide) located]
  intro same
  have chars := congrArg String.toList (Option.some.inj same)
  rw [String.toList_append] at chars
  exact absurd (List.cons.inj chars).1 (by decide)

namespace Overridden

variable {arguments : ConfigArguments} {left right : World}

theorem current (overridden : Overridden arguments left right) : right.current = left.current := by
  rw [overridden.rest]

theorem projectPath (overridden : Overridden arguments left right) :
    right.projectPath = left.projectPath := by
  rw [World.projectPath, World.projectPath, overridden.current]

theorem lookup (overridden : Overridden arguments left right) {field : ConfigField}
    (absent : arguments.get field = none) :
    left.environment.lookup field.variableName = right.environment.lookup field.variableName := by
  rcases overridden.environment field.variableName with same | ⟨other, named, given⟩
  · exact same
  · rw [← variableName_injective named, absent] at given
    exact absurd given Bool.false_ne_true

/-- The files differ in the project file at most, where there is one. -/
theorem alike (overridden : Overridden arguments left right) :
    Exists fun place => Exists fun first => Exists fun second =>
      left.files.Alike place first second right.files ∧
      (forall rest, place.getLast? ≠ some ("." ++ rest)) ∧
      (first = second ∨ left.files.entry? place = some (.file first) ∧
        right.files.entry? place = some (.file second)) := by
  cases located : left.files.locate left.current left.projectPath with
  | error fault =>
      have same (place : Place) : left.files.entry? place = right.files.entry? place :=
        overridden.elsewhere place (by rw [located]; exact nofun)
      exact ⟨[], [], [], ⟨fun place _ => same place, .inl (same _)⟩,
        fun _ => nofun, .inl rfl⟩
  | ok place =>
      have elsewhere (other : Place) (differs : other ≠ place) :
          left.files.entry? other = right.files.entry? other := by
        refine overridden.elsewhere other fun found => differs ?_
        exact Except.ok.inj (found.symm.trans located)
      have undotted := getLast?_of_projectPath located
      rcases overridden.project place located with same | ⟨first, second, here, there, _⟩
      · exact ⟨place, [], [], ⟨elsewhere, .inl same⟩, undotted, .inl rfl⟩
      · exact ⟨place, first, second, ⟨elsewhere, .inr ⟨here, there⟩⟩, undotted,
          .inr ⟨here, there⟩⟩

theorem locate (overridden : Overridden arguments left right) (path : Path) :
    left.files.locate left.current path = right.files.locate right.current path := by
  rcases overridden.alike with ⟨_, _, _, alike, _⟩
  rw [alike.locate, overridden.current]

theorem variable_eq (overridden : Overridden arguments left right) {name : String}
    (unrelated : name ∉ fieldVariables) :
    left.environment.lookup name = right.environment.lookup name := by
  rcases overridden.environment name with same | ⟨field, rfl, _⟩
  · exact same
  · exact absurd (mem_fieldVariables field) unrelated

theorem twins (overridden : Overridden arguments left right) {place : Place}
    {first second : List UInt8} (alike : left.files.Alike place first second right.files) :
    Twins place first second fieldVariables left right :=
  ⟨overridden.rest, alike, fun _ => overridden.variable_eq⟩

theorem kindAt (overridden : Overridden arguments left right) (path : Path) :
    left.kindAt path = right.kindAt path := by
  rcases overridden.alike with ⟨_, _, _, alike, _⟩
  exact (keeps_kindAt path left right (overridden.twins alike)).1

/-- The project files of both worlds have the same value in each field, or one that does not
count. -/
theorem loadProject (overridden : Overridden arguments left right) :
    Outcome.Coincide (fun before after : List (String × Json) => forall field : ConfigField,
      before.lookup field.name = after.lookup field.name ∨ left.Overrides arguments field)
      (left.value Config.loadProject) (right.value Config.loadProject) := by
  have alone (outcome : Except ConfigError (List (String × Json))) :
      Outcome.Coincide (fun before after : List (String × Json) => forall field : ConfigField,
        before.lookup field.name = after.lookup field.name ∨ left.Overrides arguments field)
        outcome outcome := by
    cases outcome with
    | ok project => exact .ok fun _ => .inl rfl
    | error error => exact .error error
  rw [value_loadProject, value_loadProject, overridden.projectPath, ← overridden.kindAt,
    readAt, readAt, ← overridden.locate]
  split
  · exact alone _
  · cases located : left.files.locate left.current left.projectPath with
    | error fault => exact alone _
    | ok place =>
        rcases overridden.project place located with same | ⟨first, second, here, there, rewritten⟩
        · simp only [same]
          exact alone _
        · rcases rewritten with ⟨before, after, read, reread, projects⟩
          simp only [here, there, read, reread]
          exact .ok projects
  · exact alone _

theorem chosen (overridden : Overridden arguments left right) {before after : List (String × Json)}
    {field : ConfigField}
    (projects : before.lookup field.name = after.lookup field.name ∨
      left.Overrides arguments field) :
    left.chosen arguments before field = right.chosen arguments after field := by
  rw [World.chosen, World.chosen]
  cases given : arguments.get field with
  | some value => rfl
  | none =>
      rw [overridden.lookup given]
      rcases projects with same | overrides | ⟨value, set, filled⟩
      · rw [same]
      · rw [given] at overrides
        exact absurd overrides Bool.false_ne_true
      · rw [← overridden.lookup given, set]
        simp only [Config.choose, filled]
        rfl

/-- With all its arguments a command has the same configuration in both worlds. -/
theorem resolve (overridden : Overridden arguments left right) :
    left.value (Config.resolve arguments) = right.value (Config.resolve arguments) := by
  rw [value_resolve, value_resolve]
  have projects := overridden.loadProject
  generalize left.value Config.loadProject = before at projects
  generalize right.value Config.loadProject = after at projects
  cases projects with
  | error error => rfl
  | ok same => exact congrArg Config.check (funext fun field => overridden.chosen (same field))

theorem load (overridden : Overridden arguments left right) {source : String}
    (apart : forall place, left.files.locate left.current (.ofText source) = .ok place ->
      left.files.locate left.current left.projectPath ≠ .ok place) :
    left.value (Source.load source) = right.value (Source.load source) := by
  have content : left.readAt (.ofText source) = right.readAt (.ofText source) := by
    rw [readAt, readAt, ← overridden.locate]
    cases located : left.files.locate left.current (.ofText source) with
    | error fault => rfl
    | ok place => simp only [overridden.elsewhere place (apart place located)]
  have input : left.value Host.readInput = right.value Host.readInput := by
    rw [overridden.rest]
    rfl
  have answer : left.value (Host.fetch source) = right.value (Host.fetch source) := by
    rw [overridden.rest]
    rfl
  unfold Source.load
  split
  · exact asks_readInput.agree input fun _ => rfl
  · split
    · split
      · rfl
      · refine (asks_fetch source).agree answer fun _ => ?_
        split <;> rfl
    · refine (asks_kindAt _).agree (overridden.kindAt _) fun _ => ?_
      split
      · rfl
      · refine (asks_readFile _).agree content fun _ => ?_
        split <;> rfl
      · rfl

end Overridden

/-- The arguments with which the document is looked up. -/
def sourceOnly (arguments : ConfigArguments) : ConfigArguments := ⟨arguments.source, none, none⟩

/-- What is overridden by arguments has no effect on the way to the document: its fields have the
same values without these arguments or values that pass, and the document is not the project
file. -/
structure Harmless (arguments : ConfigArguments) (left right : World) : Prop where
  passes : forall before after, left.value Config.loadProject = .ok before ->
    right.value Config.loadProject = .ok after ->
    forall field, (arguments.get field).isSome = true ->
      left.chosen (sourceOnly arguments) before field =
        right.chosen (sourceOnly arguments) after field ∨
      Config.Passes field (left.chosen (sourceOnly arguments) before field) ∧
        Config.Passes field (right.chosen (sourceOnly arguments) after field)
  apart : forall config source, left.value (Config.resolve (sourceOnly arguments)) = .ok config ->
    config.source = some source ->
    forall place, left.files.locate left.current (.ofText source) = .ok place ->
      left.files.locate left.current left.projectPath ≠ .ok place

section Looking

variable {arguments : ConfigArguments} {left right : World}

theorem chosen_sourceOnly {world : World} {project : List (String × Json)} {field : ConfigField}
    (same : field = .source ∨ arguments.get field = none) :
    world.chosen (sourceOnly arguments) project field = world.chosen arguments project field := by
  cases field with
  | source => rfl
  | package =>
      rcases same with source | absent
      · cases source
      · rw [chosen, chosen, absent]
        rfl
  | output =>
      rcases same with source | absent
      · cases source
      · rw [chosen, chosen, absent]
        rfl

theorem Harmless.resolve (harmless : Harmless arguments left right)
    (overridden : Overridden arguments left right) :
    Outcome.Coincide (fun one other : Config => one.source = other.source)
      (left.value (Config.resolve (sourceOnly arguments)))
      (right.value (Config.resolve (sourceOnly arguments))) := by
  rw [value_resolve, value_resolve]
  have projects := overridden.loadProject
  have passes := harmless.passes
  generalize left.value Config.loadProject = one at projects passes
  generalize right.value Config.loadProject = other at projects passes
  cases projects with
  | error error => exact .error error
  | @ok before after same =>
      have unchanged (field : ConfigField)
          (kept : field = .source ∨ arguments.get field = none) :
          left.chosen (sourceOnly arguments) before field =
            right.chosen (sourceOnly arguments) after field := by
        rw [chosen_sourceOnly kept, chosen_sourceOnly kept]
        exact overridden.chosen (same field)
      refine (Config.check_coincide fun field => ?_).mono fun one other alike =>
        alike .source (unchanged .source (.inl rfl))
      cases given : arguments.get field with
      | none => exact .inl (unchanged field (.inr given))
      | some value => exact passes before after rfl rfl field (by rw [given]; rfl)

end Looking

end World

end RouteIR
