import RouteIR.Proofs.Command.Translation

namespace RouteIR

/-!
# What an inspection prints

An inspection loads an interface as a translation does, and writes no file.  As JSON it prints
one array, with one object for each component, route or decoder of the interface, in its order.
Where there is none it does not print the empty array: the stream for output gets nothing, and
a diagnostic says that there is nothing.  Nothing is printed either where a type has no
description, or where the console cannot read what the inspection says.
-/

/-! ## Tables -/

namespace Output

/-- Under distinct headers a row is an object with one member for each of its cells. -/
theorem record_eq_object {headers row : List String} (distinct : headers.Nodup)
    (filled : headers.length = row.length) :
    record headers row = .object (headers.zip (row.map .str)) := by
  have keys : Keyed.keys (headers.zip (row.map Json.str)) = headers :=
    List.map_fst_zip (by rw [List.length_map, filled])
  rw [record, Keyed.ofList_of_nodup (by rw [keys]; exact distinct)]

/-- The cells of a row are texts. -/
theorem exists_text_of_record {headers row : List String} {member : String × Json}
    (inRecord : member ∈ Keyed.ofList (headers.zip (row.map Json.str))) :
    Exists fun text => member.2 = .str text := by
  have inPairs := Keyed.mem_of_mem_ofList inRecord
  rcases List.mem_map.mp (List.of_mem_zip inPairs).2 with ⟨text, _, same⟩
  exact ⟨text, same.symm⟩

theorem faithful_record (headers row : List String) : (record headers row).Faithful := by
  refine .object (Keyed.nodup_keys_ofList _) fun member inRecord => ?_
  rcases exists_text_of_record inRecord with ⟨text, same⟩
  rw [same]
  exact .str text

theorem isLegible_record (headers row : List String) :
    (record headers row).isLegible = true := by
  refine Json.membersAreLegible_iff.mpr fun member inRecord => ?_
  rcases exists_text_of_record inRecord with ⟨text, same⟩
  rw [same]
  rfl

/-- The text of a table is that of the array of its rows. -/
theorem read_table {output : Output} (inJson : output.format = .json) (headers : List String)
    (rows : List (List String)) :
    Json.read .strict (output.table headers rows) =
      .ok (.array (rows.map (record headers))) := by
  rw [table, inJson]
  refine Json.Faithful.read_render (.array fun item member => ?_) ?_
  · rcases List.mem_map.mp member with ⟨row, _, rfl⟩
    exact faithful_record headers row
  · refine Json.areLegible_iff.mpr fun item member => ?_
    rcases List.mem_map.mp member with ⟨row, _, rfl⟩
    exact isLegible_record headers row

end Output

/-! ## Objects -/

namespace Inspection

/-- What is said of a component. -/
def componentObject (entry : String × TypeExpr) : Json :=
  .object [("Component", .str entry.1), ("Shape", .str entry.2.shape.text),
    ("Type", .str (orDash (detail entry.2)))]

/-- What is said of a route. -/
def routeObject (item : RouteItem) : Json :=
  .object [("Route", .str item.signature),
    ("Operation", .str (orDash (item.operationId.getD ""))),
    ("Parameters", .str (orDash (", ".intercalate (item.parameters.map parameterText)))),
    ("Body", .str (bodyText item.requestBody)),
    ("Responses", .str (orDash (", ".intercalate (Keyed.keys item.responses))))]

/-- What is said of a decoder. -/
def decoderObject (kind name decodes : String) : Json :=
  .object [("Kind", .str kind), ("Decoder", .str name), ("Decodes", .str decodes)]

/-- A list with the decoder of its elements, where they have one. -/
def listText (decoder : ListDecoder) : String :=
  (TypeExpr.array (.primitive decoder.element)).describe ++
    match decoder.elementDecoder with
    | none | some "" => ""
    | some name => " via " ++ name

/-- What is said of the decoders of a plan, kind by kind. -/
def decoderObjects (plan : DecoderPlan) : List Json :=
  plan.refinementDecoders.map
      (fun decoder => decoderObject "refinement" decoder.name decoder.primitive.describe) ++
    plan.listDecoders.map (fun decoder => decoderObject "list" decoder.name (listText decoder)) ++
    plan.enumDecoders.map (fun decoder =>
      decoderObject "enum" decoder.name
        (", ".intercalate (decoder.values.map fun value => value.toTree.display)))

/-- The rows of a table as objects. -/
def records (table : Table) : List Json := table.rows.map (Output.record table.headers)

theorem record_componentRow (entry : String × TypeExpr) :
    Output.record ["Component", "Shape", "Type"] (componentRow entry) = componentObject entry :=
  Output.record_eq_object (by decide) rfl

theorem record_routeRow (item : RouteItem) :
    Output.record ["Route", "Operation", "Parameters", "Body", "Responses"] (routeRow item) =
      routeObject item :=
  Output.record_eq_object (by decide) rfl

theorem record_decoderRow (kind name decodes : String) :
    Output.record ["Kind", "Decoder", "Decodes"] [kind, name, decodes] =
      decoderObject kind name decodes :=
  Output.record_eq_object (by decide) rfl

theorem records_components (interface : Interface) :
    records (components interface) = interface.components.map componentObject := by
  rw [records, components, List.map_map]
  exact List.map_congr_left fun entry _ => record_componentRow entry

theorem records_routes (interface : Interface) :
    records (routes interface) = interface.routes.items.map routeObject := by
  rw [records, routes, List.map_map]
  exact List.map_congr_left fun item _ => record_routeRow item

theorem records_decoders (interface : Interface) :
    records (decoders interface) = decoderObjects interface.decoders := by
  have mapped {α : Type} (row : α -> List String) (object : α -> Json) (decoders : List α)
      (same : forall decoder,
        Output.record ["Kind", "Decoder", "Decodes"] (row decoder) = object decoder) :
      (decoders.map row).map (Output.record ["Kind", "Decoder", "Decodes"]) =
        decoders.map object := by
    rw [List.map_map]
    exact List.map_congr_left fun decoder _ => same decoder
  rw [records, decoders, List.map_append, List.map_append, decoderObjects,
    mapped refinementRow _ _ fun decoder => record_decoderRow _ _ _,
    mapped listRow _ _ fun decoder => record_decoderRow _ _ _,
    mapped enumRow _ _ fun decoder => record_decoderRow _ _ _]
  rfl

end Inspection

/-! ## Inspecting -/

namespace Command

open World

/-- The document that a configuration names is loaded, where the console can read what is said
of it. -/
theorem Describes.loadInterface_ends {world : World} {source : Option String}
    {interface : Interface} (describes : Describes world source interface) (output : Output) :
    (forall diagnostic, LoadTells world output source diagnostic -> Readable world diagnostic) ∧
        world.value (loadInterface output source).run = .ok interface ∨
      (Exists fun diagnostic => LoadTells world output source diagnostic ∧
        ¬ Readable world diagnostic) ∧
        Exists fun problem =>
          world.value (loadInterface output source).run = .error (.crash problem) := by
  have ends := Command.loadInterface_ends output source world
  rcases describes.loaded with ⟨config, text, tree, configured, named, loaded, made⟩
  generalize world.value (loadInterface output source).run = outcome at ends
  cases ends with
  | described again readable => exact .inl ⟨readable, by rw [again.unique describes]⟩
  | garbled tells unreadable => exact .inr ⟨⟨_, tells, unreadable⟩, _, rfl⟩
  | unnamed unnamed _ =>
      rcases unnamed with ⟨_, configured', unnamed⟩
      cases configured.symm.trans configured'
      cases named.symm.trans unnamed
  | stopped met =>
      cases met with
      | config failed => cases configured.symm.trans failed
      | load configured' named' failed =>
          cases configured.symm.trans configured'
          cases named.symm.trans named'
          cases loaded.symm.trans failed
      | document configured' named' loaded' failed =>
          cases configured.symm.trans configured'
          cases named.symm.trans named'
          cases loaded.symm.trans loaded'
          cases made.symm.trans failed

/-- Loading a document that translates says nothing, unless much is to be said. -/
theorem Describes.readable_of_terse {world : World} {source : Option String}
    {interface : Interface} (describes : Describes world source interface) {output : Output}
    (terse : output.verbose = false) {diagnostic : Diagnostic}
    (tells : LoadTells world output source diagnostic) : Readable world diagnostic := by
  cases tells with
  | start _ _ =>
      rw [Output.debug, if_neg (by simp [terse])]
      trivial
  | unnamed unnamed =>
      rcases unnamed with ⟨_, configured, unnamed⟩
      rcases describes.loaded with ⟨_, _, _, configured', named, _⟩
      cases configured.symm.trans configured'
      cases named.symm.trans unnamed

/-- A document is described by what is loaded. -/
theorem exists_describes {world : World} {source : Option String} {output : Output} {α : Type}
    {part : Interface -> α} {value : α}
    (computed : (world.value (loadInterface output source).run).toOption.map part = some value) :
    Exists fun interface => Describes world source interface ∧ part interface = value := by
  have ends := loadInterface_ends output source world
  generalize world.value (loadInterface output source).run = outcome at ends computed
  cases ends with
  | described describes _ => exact ⟨_, describes, Option.some.inj computed⟩
  | unnamed _ _ => cases computed
  | stopped _ _ => cases computed
  | garbled _ _ => cases computed

/-- What a table puts on the stream for output: its text, or nothing where it has no rows. -/
def shown (output : Output) (table : Table) : String :=
  if table.rows.isEmpty then "" else output.table table.headers table.rows

/-- What an inspection says: that it starts, or that there is nothing to show. -/
inductive InspectionTells (before : World) (output : Output) (source : Option String)
    (view : View) (interface : Interface) : Diagnostic -> Prop
  | loading {diagnostic : Diagnostic} (tells : LoadTells before output source diagnostic) :
      InspectionTells before output source view interface diagnostic
  | absence (nothing : (view.table interface).rows.isEmpty = true) :
      InspectionTells before output source view interface (output.info view.absence)

/-- A view of an interface can be shown: the console can read all that is said, and all types
that the view describes have a description. -/
structure Shows (before : World) (output : Output) (source : Option String) (view : View)
    (interface : Interface) : Prop where
  readable : forall diagnostic, InspectionTells before output source view interface diagnostic ->
    Readable before diagnostic
  describable : (view.described interface).all TypeExpr.isDescribable = true

section Showing

variable {world : World} {output : Output} {table : Table} {absence : String}

/-- A table is shown, and where it has no rows a diagnostic takes its place. -/
theorem showTable_done
    (readable : table.rows.isEmpty = true -> Readable world (output.info absence)) :
    world.value (showTable output table absence : Action Run Unit).run = .ok () ∧
      (world.after (showTable output table absence : Action Run Unit).run).files = world.files ∧
      (world.after (showTable output table absence : Action Run Unit).run).output =
        world.output ++ shown output table := by
  rw [showTable, shown]
  split
  · next nothing =>
      have tells := speaks_diagnose (output.info absence)
      exact ⟨value_diagnose_of_readable (readable nothing), tells.files world,
        (tells.output world).trans String.append_empty.symm⟩
  · exact ⟨rfl, rfl, rfl⟩

theorem showTable_refused (nothing : table.rows.isEmpty = true)
    (unreadable : ¬ Readable world (output.info absence)) :
    (Exists fun problem =>
      world.value (showTable output table absence : Action Run Unit).run =
        .error (.crash problem)) ∧
      (world.after (showTable output table absence : Action Run Unit).run).output =
        world.output := by
  rw [showTable, if_pos nothing]
  rcases value_diagnose_of_not_readable unreadable with ⟨markup, refused⟩
  exact ⟨⟨_, refused⟩, (speaks_diagnose _).output world⟩

end Showing

section Viewing

variable {before : World} {source : Option String} {interface : Interface} {output : Output}
  {view : View}

theorem Shows.of_loaded
    (tells : forall diagnostic, LoadTells before output source diagnostic ->
      Readable before diagnostic)
    (describable : (view.described interface).all TypeExpr.isDescribable = true)
    (absent : (view.table interface).rows.isEmpty = true ->
      Readable before (output.info view.absence)) :
    Shows before output source view interface := by
  refine ⟨fun diagnostic said => ?_, describable⟩
  cases said with
  | loading loadTells => exact tells diagnostic loadTells
  | absence nothing => exact absent nothing

/-- An inspection of a document that translates shows the view, or crashes. -/
theorem inspect_ends (describes : Describes before source interface) (output : Output)
    (view : View) :
    Shows before output source view interface ∧
        before.value (inspect output view source).run = .ok () ∧
        (before.after (inspect output view source).run).files = before.files ∧
        (before.after (inspect output view source).run).output =
          before.output ++ shown output (view.table interface) ∨
      ¬ Shows before output source view interface ∧
        (Exists fun problem =>
          before.value (inspect output view source).run = .error (.crash problem)) ∧
        (before.after (inspect output view source).run).output = before.output := by
  have loading := speaks_loadInterface output source
  rw [inspect, value_stoppable_bind, after_stoppable_bind]
  rcases describes.loadInterface_ends output with
    ⟨readable, found⟩ | ⟨⟨diagnostic, tells, unreadable⟩, problem, refused⟩
  · rcases loading before with ⟨said, told⟩
    simp only [found, told]
    split
    · next describable =>
        by_cases absent : (view.table interface).rows.isEmpty = true ->
            Readable before (output.info view.absence)
        · refine .inl ⟨.of_loaded readable describable absent, ?_⟩
          exact showTable_done fun nothing =>
            (readable_iff_of_markup (said_markup said) _).mpr (absent nothing)
        · rcases Classical.not_imp.mp absent with ⟨nothing, unreadable⟩
          refine .inr ⟨fun shows => unreadable (shows.readable _ (.absence nothing)), ?_⟩
          exact showTable_refused nothing
            (mt (readable_iff_of_markup (said_markup said) _).mp unreadable)
    · next indescribable =>
        exact .inr ⟨fun shows => indescribable shows.describable, ⟨_, rfl⟩, rfl⟩
  · rw [refused]
    refine .inr ⟨fun shows => unreadable (shows.readable _ (.loading tells)), ⟨_, rfl⟩, ?_⟩
    exact loading.output before

end Viewing

/-- A command that inspects a document, with its view and the objects that it is to print. -/
inductive Inspects (source : Option String) :
    CommandLine.Command -> View -> (Interface -> List Json) -> Prop
  | components : Inspects source (.inspectComponents source) Inspection.componentView
      fun interface => interface.components.map Inspection.componentObject
  | routes : Inspects source (.inspectRoutes source) Inspection.routeView
      fun interface => interface.routes.items.map Inspection.routeObject
  | decoders : Inspects source (.inspectDecoders source) Inspection.decoderView
      fun interface => Inspection.decoderObjects interface.decoders

namespace Inspects

variable {source : Option String} {command : CommandLine.Command} {view : View}
  {objects : Interface -> List Json}

theorem run_eq (inspects : Inspects source command view objects) (output : Output)
    (entries : List RendererEntry) :
    (run output entries command : Action Run Unit) = inspect output view source := by
  cases inspects <;> rfl

/-- The rows of the table are the objects. -/
theorem records_eq (inspects : Inspects source command view objects) (interface : Interface) :
    Inspection.records (view.table interface) = objects interface := by
  cases inspects with
  | components => exact Inspection.records_components interface
  | routes => exact Inspection.records_routes interface
  | decoders => exact Inspection.records_decoders interface

end Inspects

theorem value_conclude_ok (output : Output) (world : World) :
    world.value (conclude output (.ok ()) : Run Nat) = ExitCode.success := rfl

theorem after_conclude_ok (output : Output) (world : World) :
    world.after (conclude output (.ok ()) : Run Nat) = world := rfl

/-- An invocation of an inspection of a document that translates shows the view, or fails and
prints nothing. -/
theorem main_of_inspect (entries : List RendererEntry) {args : List String}
    {flags : CommandLine.Flags} {command : CommandLine.Command} {source : Option String}
    {view : View} (asked : CommandLine.read args = .run flags command) {before : World}
    (runs : (run (before.value (outputFor flags)) entries command : Action Run Unit) =
      inspect (before.value (outputFor flags)) view source)
    {interface : Interface} (describes : Describes before source interface) :
    (Shows before (before.value (outputFor flags)) source view interface ->
      before.value (main entries args) = ExitCode.success ∧
        (before.after (main entries args)).files = before.files ∧
        (before.after (main entries args)).output =
          before.output ++ shown (before.value (outputFor flags)) (view.table interface)) ∧
    (¬ Shows before (before.value (outputFor flags)) source view interface ->
      before.value (main entries args) = ExitCode.failure ∧
        (before.after (main entries args)).output = before.output) := by
  rcases inspect_ends describes (before.value (outputFor flags)) view with
    ⟨shows, ends, files, prints⟩ | ⟨hidden, ⟨problem, ends⟩, silent⟩
  · rw [← runs] at ends files prints
    rcases main_of_run entries asked ends with ⟨value, after⟩
    rw [value, after, value_conclude_ok, after_conclude_ok]
    exact ⟨fun _ => ⟨rfl, files, prints⟩, fun hidden => absurd shows hidden⟩
  · rw [← runs] at ends silent
    rcases main_of_run entries asked ends with ⟨value, after⟩
    rcases conclude_crash (before.value (outputFor flags)) problem
      (before.after (run (before.value (outputFor flags)) entries command).run) with
      ⟨code, reports⟩
    rw [value, after]
    exact ⟨fun shows => absurd shows hidden, fun _ => ⟨code, reports.trans silent⟩⟩

theorem format_outputFor {flags : CommandLine.Flags} (inJson : flags.json = true) (world : World) :
    (world.value (outputFor flags)).format = .json := by
  simp only [outputFor, value_bind, value_pure, inJson, if_true]

/-- A world with a document of one route. -/
def routeWorld : World :=
  { World.bare ["w"] ⟨true, ["home"]⟩ with
    files := ⟨[(["w"], .directory),
      (["w", "d.json"],
        .file "\x7b\"paths\":\x7b\"/a\":\x7b\"get\":\x7b\x7d\x7d\x7d\x7d".toUTF8.toList)]⟩ }

end Command
end RouteIR
