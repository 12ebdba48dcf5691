import RouteIR.CommandLine
import RouteIR.Config
import RouteIR.DataDirectory
import RouteIR.Output
import RouteIR.Renderer
import RouteIR.Source.Loading
import RouteIR.Interface.Inspection
import RouteIR.Interface.Json

namespace RouteIR
namespace Command

/-!
# Commands

A command runs to its end or stops with an exit code.  What can go wrong with a
document, a configuration, a renderer or a file has a message and a code; anything
else is a crash, which leaves a report in the data directory.  A message can be such a
thing itself, where the console is to read marks for colours in it.
-/

/-! ## Problems -/

inductive Problem where
  | config (error : ConfigError)
  | load (error : Source.LoadError)
  | document (failure : Failure)
  | renderer (error : RendererError)
  | write (error : OutputFile.WriteError)
  /-- A message with marks that the console cannot read. -/
  | markup (text : String)
deriving Repr

namespace ExitCode

def success : Nat := 0
def failure : Nat := 1
def misuse : Nat := 2
def badDocument : Nat := 7
def refusedDocument : Nat := 8
def rendererFailure : Nat := 10

end ExitCode

namespace Problem

def exitCode : Problem → Nat
  | config _ | write _ | markup _ => ExitCode.failure
  | load _ => ExitCode.badDocument
  | document _ => ExitCode.refusedDocument
  | renderer _ => ExitCode.rendererFailure

/-- The message of a problem that was foreseen. -/
def message? : Problem → Option String
  | config error => error.message?
  | load error => error.message?
  | document (.rule error) => some error.message
  | document _ => none
  | renderer error => some error.message
  | write error => error.message?
  | markup _ => none

end Problem

/-- Why a command does not run to its end. -/
inductive Stop where
  | exit (code : Nat)
  | crash (problem : Problem)
deriving Repr

/-- The text of a failure in traces. -/
def failureText : Failure → String
  | .rule error => error.message
  | .notText .format _ => "1 validation error for PrimitiveShape"
  | .notText .operationId _ => "1 validation error for Operation"
  | .compoundKey kind =>
      "unhashable type: " ++ Text.quote (match kind with
        | .list => "list"
        | .tuple => "tuple"
        | .set => "set"
        | .map => "dict")
  | .notAPrimitiveList => "list-valued parameter type is not an array of primitives"
  | .unknownComponent name => Text.quote name
  | .illegible =>
      "Exceeds the limit (4300 digits) for integer string conversion; " ++
        "use sys.set_int_max_str_digits() to increase the limit"

variable {m : Type → Type} [Monad m] [Host m]

/-- A part of a command, which may stop it. -/
abbrev Action (m : Type → Type) (α : Type) := ExceptT Stop m α

def lift {α : Type} (effect : m α) : Action m α := ExceptT.lift effect

def printOutput (text : String) : m Unit := Host.print .output text

/-- Says something on the stream for diagnostics.  Nothing is said of a message whose marks the
console cannot read, and the command crashes. -/
def diagnose : Diagnostic → Action m Unit
  | .nothing => pure ()
  | .literal text => lift (Host.print .diagnostics (Output.line text))
  | .marked markup => do
      match ← lift (Host.readMarkup markup) with
      | some text => lift (Host.print .diagnostics (Output.line text))
      | none => throw (.crash (.markup markup))

/-- Reports a problem and stops the command. -/
def stopWith {α : Type} (output : Output) (problem : Problem) : Action m α := do
  match problem.message? with
  | some message =>
      diagnose (output.error message)
      throw (.exit problem.exitCode)
  | none => throw (.crash problem)

/-- The value of an outcome, or the end of the command. -/
def require {ε α : Type} (output : Output) (problem : ε → Problem) : Except ε α → Action m α
  | .ok value => pure value
  | .error error => stopWith output (problem error)

/-! ## Loading and writing -/

/-- Says of an event of a stage that it has come about, and how much time has passed. -/
def announce (output : Output) (event : Trace.Event Failure) : m (Except String Unit) := do
  let elapsed ← Host.elapsed
  match ← (diagnose (output.debug (Trace.describe elapsed failureText event))).run with
  | .ok () => return .ok ()
  | .error _ => return .error "unreadable marks"

/-- Prints every event of a stage as a diagnostic, and keeps the time. -/
def printingTracer (output : Output) : Trace.Tracer m Failure := fun event => do
  if event.phase = .start then Host.startTimer
  announce output event

def unnamedText : String :=
  "No source document. Pass SOURCE, set SPECIR_SOURCE, or add 'source' to specir.json"

/-- The interface that the named or configured document describes. -/
def loadInterface (output : Output) (source : Option String) : Action m Interface := do
  let config ← require output .config (← lift (Config.resolve ⟨source, none, none⟩))
  match config.source with
  | none =>
      diagnose (output.error unnamedText)
      throw (.exit ExitCode.misuse)
  | some source =>
      diagnose (output.debug ("Translating " ++ source))
      let tree ← require output .load (← lift (Source.load source))
      let tracers := if output.verbose then [printingTracer output] else []
      require output .document (← lift (Interface.traced tracers tree).run)

/-- The text of an interface, which crashes the command where there is none. -/
def textOf (interface : Interface) : Action m String :=
  match interface.dump? with
  | some text => pure text
  | none => throw (.crash (.document .illegible))

def summary (interface : Interface) (target : Path) : String :=
  "Wrote IR for " ++ toString interface.components.length ++ " components and " ++
    toString interface.routes.length ++ " paths to " ++ target.text

def translate (output : Output) (source target : Option String) : Action m Unit := do
  let interface ← loadInterface output source
  let text ← textOf interface
  let config ← require output .config (← lift (Config.resolve ⟨source, none, target⟩))
  match config.output with
  | none => lift (printOutput (Output.jsonText text))
  | some target =>
      let path ← require output .write (← lift (OutputFile.write (.ofText target) text))
      diagnose (output.success (summary interface path))

/-! ## Inspecting -/

/-- Prints a table, or says that there is nothing to print. -/
def showTable (output : Output) (table : Table) (absence : String) : Action m Unit :=
  if table.rows.isEmpty then diagnose (output.info absence)
  else lift (printOutput (output.table table.headers table.rows))

/-- Shows a view of an interface.  A type that has no description crashes the command. -/
def inspect (output : Output) (view : View) (source : Option String) : Action m Unit := do
  let interface ← loadInterface output source
  if (view.described interface).all TypeExpr.isDescribable then
    showTable output (view.table interface) view.absence
  else throw (.crash (.document .illegible))

/-! ## Rendering -/

def rendererTable (registry : RendererRegistry) : Table :=
  ⟨["Renderer", "Description"], registry.renderers.map fun renderer =>
    [renderer.name, Inspection.orDash renderer.description]⟩

def render (output : Output) (entries : List RendererEntry)
    (arguments : CommandLine.RenderArguments) : Action m Unit := do
  let discovery := RendererRegistry.empty.discover entries
  lift (discovery.warnings.forM Host.log)
  if arguments.listOnly then
    showTable output (rendererTable discovery.registry) "No renderers installed."
  else match arguments.renderer with
    | none =>
        diagnose (output.error "Missing renderer name. Run: specir render --list")
        throw (.exit ExitCode.misuse)
    | some name =>
        let renderer ← require output .renderer (discovery.registry.get name)
        let config ← require output .config
          (← lift (Config.resolve ⟨arguments.source, arguments.package, none⟩))
        let interface ← loadInterface output arguments.source
        let files ← require output .renderer (renderer.files interface config.package)
        let written ← require output .write
          (← lift (OutputFile.writeAll arguments.directory files))
        diagnose (output.success
          ("Rendered " ++ toString written.length ++ " files with '" ++ renderer.name ++
            "' into " ++ arguments.directory))

/-! ## Running -/

def versionText : String := "specir 0.1.0"

def usageText : String := "Usage: specir [OPTIONS] COMMAND [ARGS]..."

/-- How output is to look, by the flags and the surroundings. -/
def outputFor (flags : CommandLine.Flags) : m Output := do
  let noColour ← Host.environment "NO_COLOR"
  let terminalKind ← Host.environment "TERM"
  let terminal ← Host.isTerminal
  let colourless := flags.noColour || isColourless noColour terminalKind
  let format :=
    if flags.json then .json
    else if flags.plain then .plain
    else OutputFormat.automatic terminal colourless
  return ⟨format, colourless, flags.quiet, flags.verbose⟩

def run (output : Output) (entries : List RendererEntry) :
    CommandLine.Command → Action m Unit
  | .translate source target => translate output source target
  | .inspectComponents source => inspect output Inspection.componentView source
  | .inspectRoutes source => inspect output Inspection.routeView source
  | .inspectDecoders source => inspect output Inspection.decoderView source
  | .render arguments => render output entries arguments

/-- Leaves a report of a crash in the data directory, and gives its path. -/
def reportCrash (problem : Problem) : m Path := do
  let directory ← match ← DataDirectory.ensure with
    | .ok path => pure path
    | .error _ => Host.homeDirectory
  let logs := directory.child "logs"
  discard (OutputFile.ensureDirectory logs)
  let path := logs.child ("crash-" ++ (← Host.timestamp) ++ ".log")
  discard (Host.save path (Output.line (reprStr problem)))
  return path

/-- The exit code of a command that has come to its end or stopped.  It does not depend on
whether the message about a crash can be shown. -/
def conclude (output : Output) : Except Stop Unit → m Nat
  | .ok () => return ExitCode.success
  | .error (.exit code) => return code
  | .error (.crash problem) => do
      let path ← reportCrash problem
      discard (diagnose (output.error ("Unexpected error. Debug log: " ++ path.text))).run
      return ExitCode.failure

/-- Does what a command line asks for, and gives the exit code. -/
def main (entries : List RendererEntry) (args : List String) : m Nat := do
  match CommandLine.read args with
  | .help askedFor =>
      printOutput (Output.line usageText)
      return if askedFor then ExitCode.success else ExitCode.misuse
  | .version =>
      printOutput (Output.line versionText)
      return ExitCode.success
  | .misuse =>
      Host.print .diagnostics (Output.line usageText)
      return ExitCode.misuse
  | .run flags command =>
      let output ← outputFor flags
      conclude output (← (run output entries command).run)

end Command
end RouteIR
