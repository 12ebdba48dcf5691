import RouteIR.Proofs.Config
import RouteIR.Proofs.Output.PlainTable

namespace RouteIR

/-!
# Package names

The package of a configuration is a dotted identifier: identifiers of letters, digits and low
lines, joined by single dots.  The check takes a name apart at its dots, so it says just that of
the part it looks at.  That part is the name without a line feed at its end, where it has one.
-/

namespace PackageName

/-! ## Dotted identifiers -/

/-- A letter or a low line, and letters, digits and low lines behind it. -/
def IsIdentifier (chars : List Char) : Prop :=
  Exists fun first => Exists fun rest => chars = first :: rest ∧
    (first.isAlpha = true ∨ first = '_') ∧
    forall char, char ∈ rest -> char.isAlphanum = true ∨ char = '_'

/-- One or more identifiers with single dots between them, and nothing else. -/
def IsDotted (name : String) : Prop :=
  Exists fun segments : List String => segments ≠ [] ∧
    (forall segment, segment ∈ segments -> IsIdentifier segment.toList) ∧
    name = ".".intercalate segments

theorem isLetter_iff (char : Char) :
    isLetter char = true ↔ char.isAlpha = true ∨ char = '_' := by
  have lower : char.isLower = ('a' ≤ char && char ≤ 'z' : Bool) := rfl
  have upper : char.isUpper = ('A' ≤ char && char ≤ 'Z' : Bool) := Bool.decide_and _ _
  have letter : char.isAlpha = (char.isUpper || char.isLower) := rfl
  rw [isLetter, letter, upper, lower, Bool.or_comm (_ && _) (_ && _), Bool.or_eq_true,
    decide_eq_true_iff]

theorem isLetterOrDigit_iff (char : Char) :
    isLetterOrDigit char = true ↔ char.isAlphanum = true ∨ char = '_' := by
  have digit : char.isDigit = ('0' ≤ char && char ≤ '9' : Bool) := rfl
  have either : char.isAlphanum = (char.isAlpha || char.isDigit) := rfl
  rw [isLetterOrDigit, either, ← digit, Bool.or_eq_true, isLetter_iff, Bool.or_eq_true,
    or_right_comm]

theorem isSegment_iff (chars : List Char) : isSegment chars = true ↔ IsIdentifier chars := by
  cases chars with
  | nil => simp [isSegment, IsIdentifier]
  | cons first rest =>
      rw [isSegment, Bool.and_eq_true, isLetter_iff, List.all_eq_true]
      simp only [isLetterOrDigit_iff]
      constructor
      · rintro ⟨start, tail⟩
        exact ⟨first, rest, rfl, start, tail⟩
      · rintro ⟨_, _, same, start, tail⟩
        cases same
        exact ⟨start, tail⟩

/-- An identifier holds letters, digits and low lines only. -/
theorem IsIdentifier.chars {chars : List Char} (identifier : IsIdentifier chars) {char : Char}
    (member : char ∈ chars) : char.isAlphanum = true ∨ char = '_' := by
  rcases identifier with ⟨first, rest, rfl, start, tail⟩
  rcases List.mem_cons.mp member with rfl | later
  · exact start.imp_left fun letter => (Bool.or_eq_true _ _).mpr (.inl letter)
  · exact tail char later

/-- A name is a dotted identifier when each piece between its dots is an identifier. -/
theorem isDotted_iff_splitOn (name : String) :
    IsDotted name ↔ (name.toList.splitOn '.').all isSegment = true := by
  rw [List.all_eq_true]
  constructor
  · rintro ⟨segments, some, identifiers, rfl⟩
    have undotted : forall chars, chars ∈ segments.map String.toList -> '.' ∉ chars := by
      intro chars member dot
      rcases List.mem_map.mp member with ⟨segment, segmentMember, rfl⟩
      rcases (identifiers segment segmentMember).chars dot with letter | low
      · exact absurd letter (by decide)
      · exact absurd low (by decide)
    have pieces : (".".intercalate segments).toList.splitOn '.' = segments.map String.toList := by
      rw [String.toList_intercalate]
      exact List.splitOn_intercalate '.' undotted (mt List.map_eq_nil_iff.mp some)
    intro chars member
    rw [pieces] at member
    rcases List.mem_map.mp member with ⟨segment, segmentMember, rfl⟩
    exact (isSegment_iff _).mpr (identifiers segment segmentMember)
  · intro identifiers
    refine ⟨(name.toList.splitOn '.').map String.ofList, ?_, ?_, ?_⟩
    · exact mt List.map_eq_nil_iff.mp (List.splitOn_ne_nil _ _)
    · intro segment member
      rcases List.mem_map.mp member with ⟨chars, charsMember, rfl⟩
      rw [String.toList_ofList]
      exact (isSegment_iff chars).mp (identifiers chars charsMember)
    · refine String.toList_inj.mp ?_
      rw [String.toList_intercalate, List.map_map]
      have same : String.toList ∘ String.ofList = id := funext fun _ => String.toList_ofList
      rw [same, List.map_id]
      exact (List.intercalate_splitOn '.').symm

instance : DecidablePred IsDotted := fun name =>
  decidable_of_iff' _ (isDotted_iff_splitOn name)

/-! ## A line feed at the end -/

theorem IsDotted.chars {name : String} (dotted : IsDotted name) {char : Char}
    (member : char ∈ name.toList) :
    (char.isAlphanum = true ∨ char = '_') ∨ char = '.' := by
  rcases dotted with ⟨segments, _, identifiers, rfl⟩
  have dot : forall char, char ∈ ".".toList ->
      (char.isAlphanum = true ∨ char = '_') ∨ char = '.' := by
    intro char member
    exact .inr (by simpa using member)
  refine (Text.forall_mem_intercalate_iff dot).mpr (fun segment segmentMember char inside => ?_)
    char member
  exact .inl ((identifiers segment segmentMember).chars inside)

theorem not_isDotted_newline (stem : String) : ¬ IsDotted (stem ++ "\n") := by
  intro dotted
  have member : '\n' ∈ (stem ++ "\n").toList := by simp
  exact absurd (dotted.chars member) (by decide)

/-- What the check of a name lets pass. -/
def IsAccepted (name : String) : Prop :=
  IsDotted name ∨ Exists fun stem => IsDotted stem ∧ name = stem ++ "\n"

/-- The check asks for a dotted identifier, and overlooks one line feed behind it. -/
theorem isValid_iff (name : String) : isValid name = true ↔ IsAccepted name := by
  rw [isValid]
  by_cases ends : name.toList.getLast? = some '\n'
  · obtain ⟨stem, rfl⟩ : Exists fun stem => name = stem ++ "\n" := by
      rcases List.getLast?_eq_some_iff.mp ends with ⟨chars, spelled⟩
      refine ⟨String.ofList chars, String.toList_inj.mp ?_⟩
      rw [spelled, String.toList_append, String.toList_ofList]
      rfl
    have dropped : Text.dropFinalNewline (stem ++ "\n").toList = stem.toList := by
      simp [Text.dropFinalNewline]
    rw [dropped, ← isDotted_iff_splitOn, IsAccepted, or_iff_right (not_isDotted_newline stem)]
    constructor
    · intro dotted
      exact ⟨stem, dotted, rfl⟩
    · rintro ⟨other, dotted, same⟩
      rwa [(String.append_left_inj _).mp same]
  · rw [Text.dropFinalNewline, if_neg ends, ← isDotted_iff_splitOn, IsAccepted]
    refine (or_iff_left ?_).symm
    rintro ⟨stem, _, rfl⟩
    exact ends (by simp)

instance : DecidablePred IsAccepted := fun name => decidable_of_iff _ (isValid_iff name)

end PackageName

/-! ## Checking the package among the other values -/

namespace Config

variable {value : ConfigField -> Option Json}

theorem check_eq_ok_iff {config : Config} :
    check value = .ok config ↔ checkText .source (value .source) = .ok config.source ∧
      checkPackage (value .package) = .ok config.package ∧
      checkText .output (value .output) = .ok config.output := by
  rcases config with ⟨source, package, output⟩
  rw [check]
  cases checkText .source (value .source) <;> cases checkPackage (value .package) <;>
    cases checkText .output (value .output) <;> simp

/-- There is a configuration just when each value passes the check of its field. -/
theorem succeeds_check_iff :
    Outcome.Succeeds (check value) ↔ forall field, Passes field (value field) := by
  constructor
  · rintro ⟨config, checked⟩ field
    rcases check_eq_ok_iff.mp checked with ⟨source, package, output⟩
    cases field with
    | source => exact ⟨_, source⟩
    | package => exact ⟨_, package⟩
    | output => exact ⟨_, output⟩
  · intro passes
    rcases passes .source with ⟨source, sourceOk⟩
    rcases passes .package with ⟨package, packageOk⟩
    rcases passes .output with ⟨output, outputOk⟩
    exact ⟨⟨source, package, output⟩, check_eq_ok_iff.mpr ⟨sourceOk, packageOk, outputOk⟩⟩

/-- What is wrong with the package is among the errors, whatever the other values are. -/
theorem check_eq_invalid {error : FieldError}
    (wrong : checkPackage (value .package) = .error error) :
    Exists fun errors => check value = .error (.invalid errors) ∧ error ∈ errors := by
  refine ⟨errorOf (checkText .source (value .source)) ++ errorOf (checkPackage (value .package)) ++
    errorOf (checkText .output (value .output)), ?_, ?_⟩
  · rw [check, wrong]
    split
    · cases ‹Except.error error = _›
    · rfl
  · rw [wrong]
    exact List.mem_append_left _ (List.mem_append_right _ List.mem_cons_self)

theorem checkPackage_eq_ok_iff {name other : String} :
    checkPackage (some (.str name)) = .ok other ↔ PackageName.IsAccepted name ∧ name = other := by
  rw [← PackageName.isValid_iff]
  change (if PackageName.isValid name then _ else _) = _ ↔ _
  split
  · next valid => rw [and_iff_right valid, Except.ok.injEq]
  · next refused => exact ⟨nofun, fun accepted => absurd accepted.1 refused⟩

theorem passes_package_iff {name : String} :
    Passes .package (some (.str name)) ↔ PackageName.IsAccepted name := by
  constructor
  · rintro ⟨_, checked⟩
    exact (checkPackage_eq_ok_iff.mp checked).1
  · intro accepted
    exact ⟨name, checkPackage_eq_ok_iff.mpr ⟨accepted, rfl⟩⟩

theorem checkPackage_of_not_accepted {name : String} (refused : ¬ PackageName.IsAccepted name) :
    checkPackage (some (.str name)) = .error (.badPackage name) :=
  if_neg (mt (PackageName.isValid_iff name).mp refused)

end Config

namespace World

variable {world : World} {arguments : ConfigArguments} {name : String}

/-- A name comes from the first place that gives a package: the command line, else a variable
that is not empty, else the project file. -/
inductive SelectsPackage (world : World) (arguments : ConfigArguments) (name : String) : Prop where
  | argument (given : arguments.package = some name)
  | environment (absent : arguments.package = none)
      (given : world.environment.lookup "SPECIR_PACKAGE" = some name) (filled : name ≠ "")
  | project (absent : arguments.package = none)
      (unset : forall value, world.environment.lookup "SPECIR_PACKAGE" = some value -> value = "")
      (given : Exists fun project => world.value Config.loadProject = .ok project ∧
        project.lookup "package" = some (.str name))

/-- The project file can be read, and no value except that of the package stops the
configuration. -/
def OthersPass (world : World) (arguments : ConfigArguments) : Prop :=
  Exists fun project => world.value Config.loadProject = .ok project ∧
    forall field, field ≠ .package -> Config.Passes field (world.chosen arguments project field)

theorem SelectsPackage.chosen (selected : world.SelectsPackage arguments name)
    {project : List (String × Json)} (loaded : world.value Config.loadProject = .ok project) :
    world.chosen arguments project .package = some (.str name) := by
  cases selected with
  | argument given =>
      rw [World.chosen, ConfigArguments.get, given]
      rfl
  | environment absent given filled =>
      rw [World.chosen, ConfigArguments.get, absent, ConfigField.variableName, given]
      have filled : name.isEmpty = false := by simpa using filled
      simp [Config.choose, filled]
  | project absent unset given =>
      rcases given with ⟨other, otherLoaded, given⟩
      rw [loaded] at otherLoaded
      cases otherLoaded
      rw [World.chosen, ConfigArguments.get, absent, ConfigField.variableName, ConfigField.name,
        given]
      cases variable_eq : world.environment.lookup "SPECIR_PACKAGE" with
      | none => rfl
      | some value =>
          rw [unset value variable_eq]
          rfl

/-- A package that is selected is taken over unchanged when it is a dotted identifier, with or
without a line feed behind it, and stops the configuration with an error when it is not. -/
theorem resolve_package (selected : world.SelectsPackage arguments name) :
    (Outcome.Succeeds (world.value (Config.resolve arguments)) ↔
      PackageName.IsAccepted name ∧ world.OthersPass arguments) ∧
    (forall config, world.value (Config.resolve arguments) = .ok config ->
      config.package = name) ∧
    (¬ PackageName.IsAccepted name ->
      forall project, world.value Config.loadProject = .ok project ->
        Exists fun errors => world.value (Config.resolve arguments) = .error (.invalid errors) ∧
          FieldError.badPackage name ∈ errors) := by
  rw [value_resolve]
  cases loaded : world.value Config.loadProject with
  | error failure =>
      refine ⟨⟨?_, ?_⟩, fun config => nofun, fun _ project => nofun⟩
      · rintro ⟨config, made⟩
        cases made
      · rintro ⟨_, project, projectLoaded, _⟩
        rw [loaded] at projectLoaded
        cases projectLoaded
  | ok project =>
      have chosen := selected.chosen loaded
      have passes : Config.Passes .package (world.chosen arguments project .package) ↔
          PackageName.IsAccepted name := by
        rw [chosen, Config.passes_package_iff]
      refine ⟨Config.succeeds_check_iff.trans ⟨fun all => ?_, ?_⟩, fun config made => ?_, ?_⟩
      · exact ⟨passes.mp (all .package), project, loaded, fun field _ => all field⟩
      · rintro ⟨accepted, _, otherLoaded, others⟩ field
        rw [loaded] at otherLoaded
        cases otherLoaded
        by_cases package : field = .package
        · rw [package]
          exact passes.mpr accepted
        · exact others field package
      · have checked := (Config.check_eq_ok_iff.mp made).2.1
        rw [chosen] at checked
        exact (Config.checkPackage_eq_ok_iff.mp checked).2.symm
      · rintro refused _ same
        cases same
        refine Config.check_eq_invalid ?_
        rw [chosen]
        exact Config.checkPackage_of_not_accepted refused

/-- A world in which only the environment names a package. -/
def packageWorld (name : String) : World :=
  { World.bare ["w"] ⟨true, ["home"]⟩ with environment := [("SPECIR_PACKAGE", name)] }

theorem resolve_package_of_environment :
    (Exists fun config =>
      (packageWorld "com.example_1").value (Config.resolve ⟨none, none, none⟩) = .ok config ∧
        config.package = "com.example_1") ∧
      Exists fun errors =>
        (packageWorld "a..b").value (Config.resolve ⟨none, none, none⟩) = .error (.invalid errors) ∧
          FieldError.badPackage "a..b" ∈ errors := by
  have selected (name : String) (filled : name ≠ "") :
      (packageWorld name).SelectsPackage ⟨none, none, none⟩ name := .environment rfl rfl filled
  have loaded (name : String) : (packageWorld name).value Config.loadProject = .ok [] := rfl
  constructor
  · have exact := resolve_package (selected "com.example_1" (by decide))
    have dotted : PackageName.IsDotted "com.example_1" := by decide +kernel
    have others : (packageWorld "com.example_1").OthersPass ⟨none, none, none⟩ := by
      refine ⟨[], loaded _, fun field other => ?_⟩
      cases field with
      | source => exact ⟨none, rfl⟩
      | package => exact absurd rfl other
      | output => exact ⟨none, rfl⟩
    rcases exact.1.mpr ⟨.inl dotted, others⟩ with ⟨config, made⟩
    exact ⟨config, made, exact.2.1 config made⟩
  · exact (resolve_package (selected "a..b" (by decide))).2.2 (by decide +kernel) [] (loaded _)

/-- A line feed behind a package is overlooked, and stays in it. -/
theorem newline_kept_in_package :
    (packageWorld "").SelectsPackage ⟨none, some "a\n", none⟩ "a\n" ∧
      ¬ PackageName.IsDotted "a\n" ∧
      (packageWorld "").value (Config.resolve ⟨none, some "a\n", none⟩) =
        .ok ⟨none, "a\n", none⟩ :=
  ⟨.argument rfl, PackageName.not_isDotted_newline "a", rfl⟩

end World

end RouteIR
