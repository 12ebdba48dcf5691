import RouteIR.Json.Writer
import RouteIR.Keyed

namespace RouteIR

/-!
# Output

Data goes to the stream for output and everything else to the stream for diagnostics.
What is printed depends on the chosen format, and how much is said beside it on two
switches.  Data is a text with its final newline.  A diagnostic is a text as well where
colours are switched off; else it carries marks for its colours, and a message that is put
between them is not kept apart from them.
-/

inductive OutputFormat where
  | json
  | plain
  | rich
deriving DecidableEq, Repr

namespace OutputFormat

def text : OutputFormat → String
  | json => "json"
  | plain => "plain"
  | rich => "rich"

/-- The format where none is asked for: rich on a terminal that may show colours, plain
otherwise. -/
def automatic (terminal colourless : Bool) : OutputFormat :=
  if terminal && !colourless then rich else plain

end OutputFormat

/-- Whether the surroundings ask for no colours: by the variable made for it, whatever
its value, or by a terminal that is called dumb. -/
def isColourless (noColour terminalKind : Option String) : Bool :=
  noColour.isSome || terminalKind = some "dumb"

structure Output where
  format : OutputFormat
  colourless : Bool
  quiet : Bool
  verbose : Bool
deriving DecidableEq, Repr

/-- What is said on the stream for diagnostics. -/
inductive Diagnostic where
  | nothing
  /-- A text that is printed as it is. -/
  | literal (text : String)
  /-- A text with marks that the console is to read. -/
  | marked (markup : String)
deriving DecidableEq, Repr

namespace Output

def line (text : String) : String := text ++ "\n"

/-- A text that holds JSON already, with one newline at its end. -/
def jsonText (text : String) : String :=
  line (String.ofList (text.toList.reverse.dropWhile (· = '\n')).reverse)

/-- A row as an object that has the headers as names. -/
def record (headers row : List String) : Json :=
  .object (Keyed.ofList (headers.zip (row.map .str)))

/-- A table: an array of objects in JSON, else a line of tabbed cells for the headers
and for each row. -/
def table (output : Output) (headers : List String) (rows : List (List String)) : String :=
  match output.format with
  | .json => line (Json.render (.array (rows.map (record headers))))
  | .plain | .rich => String.join ((headers :: rows).map fun row => line ("\t".intercalate row))

/-- A message in the form that the console is to show. -/
def say (output : Output) (literal marked : String) : Diagnostic :=
  if output.colourless then .literal literal else .marked marked

def info (output : Output) (message : String) : Diagnostic :=
  if output.quiet then .nothing else output.say message message

def success (output : Output) (message : String) : Diagnostic :=
  if output.quiet then .nothing else output.say message ("[green]" ++ message ++ "[/green]")

def warning (output : Output) (message : String) : Diagnostic :=
  output.say ("Warning: " ++ message) ("[yellow]Warning:[/yellow] " ++ message)

def error (output : Output) (message : String) : Diagnostic :=
  output.say ("Error: " ++ message) ("[bold red]Error:[/bold red] " ++ message)

def debug (output : Output) (message : String) : Diagnostic :=
  if output.verbose then
    output.say ("[debug] " ++ message) ("[dim]\\[debug] " ++ message ++ "[/dim]")
  else .nothing

end Output
end RouteIR
