namespace RouteIR
namespace CommandLine

/-!
# The command line

The words of a command line ask for help, for the version or for a command, or they
make no sense.  Options of the program stand before the command, those of a command
anywhere behind it; two dashes end the options.  A request for help or the version
comes first wherever the words before it can be read.
-/

/-- An option: its long name, its letter, and whether a value follows. -/
structure OptionForm where
  long : String
  letter : Option Char
  takesValue : Bool
deriving DecidableEq, Repr

/-- An option as found, by its long name.  The value of one that takes none is empty. -/
abbrev Given := String × String

/-- The words of a level: its options, and the words that are none. -/
structure Words where
  options : List Given
  others : List String
deriving DecidableEq, Repr

namespace Words

def empty : Words := ⟨[], []⟩

def withOption (words : Words) (given : Given) : Words := ⟨given :: words.options, words.others⟩

def withOptions (words : Words) (given : List Given) : Words :=
  ⟨given ++ words.options, words.others⟩

def withOther (words : Words) (word : String) : Words := ⟨words.options, word :: words.others⟩

def has (words : Words) (long : String) : Bool := words.options.any (·.1 = long)

/-- The last value of an option. -/
def value? (words : Words) (long : String) : Option String :=
  (words.options.reverse.find? (·.1 = long)).map (·.2)

end Words

/-- Whether a word can only be an option. -/
def isOption (word : String) : Bool :=
  match word.toList with
  | '-' :: _ :: _ => true
  | _ => false

/-- A word at its first equals sign. -/
def splitValue (word : String) : String × Option String :=
  let chars := word.toList
  let name := chars.takeWhile (· ≠ '=')
  if name.length = chars.length then (word, none)
  else (String.ofList name, some (String.ofList (chars.drop (name.length + 1))))

/-- What a bundle of letters gives: its options, and whether the last of them still
waits for its value. -/
def readLetters (forms : List OptionForm) : List Char → Option (List Given × Option String)
  | [] => some ([], none)
  | letter :: rest =>
      match forms.find? (·.letter = some letter) with
      | none => none
      | some form =>
          if form.takesValue then
            if rest.isEmpty then some ([], some form.long)
            else some ([(form.long, String.ofList rest)], none)
          else (readLetters forms rest).map fun (given, waiting) =>
            ((form.long, "") :: given, waiting)

/-- What one word with a leading dash gives, absent where it names no option or names
it wrongly. -/
def readOption (forms : List OptionForm) (word : String) :
    Option (List Given × Option String) :=
  let (name, attached) := splitValue word
  match forms.find? (·.long = name) with
  | some form =>
      match form.takesValue, attached with
      | true, some value => some ([(form.long, value)], none)
      | true, none => some ([], some form.long)
      | false, none => some ([(form.long, "")], none)
      | false, some _ => none
  | none =>
      match word.toList with
      | '-' :: '-' :: _ => none
      | _ :: letters => readLetters forms letters
      | [] => none

/-- Reads the words of a level.  Where its options do not mix with other words, the
first other word ends them. -/
def readWords (forms : List OptionForm) (mixed : Bool) : List String → Option Words
  | [] => some .empty
  | word :: rest =>
      if word = "--" then some ⟨[], rest⟩
      else if isOption word then
        match readOption forms word with
        | none => none
        | some (given, none) => (readWords forms mixed rest).map (·.withOptions given)
        | some (given, some waiting) =>
            match rest with
            | [] => none
            | value :: others =>
                (readWords forms mixed others).map fun words =>
                  (words.withOption (waiting, value)).withOptions given
      else if mixed then (readWords forms mixed rest).map (·.withOther word)
      else some ⟨[], word :: rest⟩

/-! ## Requests -/

structure Flags where
  json : Bool
  plain : Bool
  noColour : Bool
  quiet : Bool
  verbose : Bool
deriving DecidableEq, Repr

structure RenderArguments where
  renderer : Option String
  source : Option String
  package : Option String
  directory : String
  listOnly : Bool
deriving DecidableEq, Repr

inductive Command where
  | translate (source output : Option String)
  | inspectComponents (source : Option String)
  | inspectRoutes (source : Option String)
  | inspectDecoders (source : Option String)
  | render (arguments : RenderArguments)
deriving DecidableEq, Repr

inductive Request where
  /-- Help, asked for or shown in place of a command that is missing. -/
  | help (askedFor : Bool)
  | version
  | misuse
  | run (flags : Flags) (command : Command)
deriving DecidableEq, Repr

def helpForm : OptionForm := ⟨"--help", none, false⟩

def programForms : List OptionForm :=
  [⟨"--version", none, false⟩, ⟨"--json", none, false⟩, ⟨"--plain", none, false⟩,
    ⟨"--no-color", none, false⟩, ⟨"--quiet", some 'q', false⟩, ⟨"--verbose", some 'v', false⟩,
    helpForm]

def translateForms : List OptionForm := [⟨"--output", some 'o', true⟩, helpForm]

def renderForms : List OptionForm :=
  [⟨"--package", none, true⟩, ⟨"--output-dir", some 'd', true⟩, ⟨"--list", none, false⟩, helpForm]

def flagsOf (words : Words) : Flags where
  json := words.has "--json"
  plain := words.has "--plain"
  noColour := words.has "--no-color"
  quiet := words.has "--quiet"
  verbose := words.has "--verbose"

/-- The request that comes before all others: the first of help and version. -/
def eager? (words : Words) : Option Request :=
  (words.options.find? fun given => given.1 = "--help" || given.1 = "--version").map fun given =>
    if given.1 = "--help" then .help true else .version

/-- Reads the words of a command that takes up to a number of other words. -/
def readCommand (flags : Flags) (forms : List OptionForm) (most : Nat) (build : Words → Command)
    (args : List String) : Request :=
  match readWords forms true args with
  | none => .misuse
  | some words =>
      if words.has "--help" then .help true
      else if most < words.others.length then .misuse
      else .run flags (build words)

def readInspect (flags : Flags) (args : List String) : Request :=
  if args.isEmpty then .help false
  else match readWords [helpForm] false args with
    | none => .misuse
    | some words =>
        if words.has "--help" then .help true
        else
          let source (rest : Words) : Option String := rest.others.head?
          match words.others with
          | "components" :: rest =>
              readCommand flags [helpForm] 1 (fun words => .inspectComponents (source words)) rest
          | "routes" :: rest =>
              readCommand flags [helpForm] 1 (fun words => .inspectRoutes (source words)) rest
          | "decoders" :: rest =>
              readCommand flags [helpForm] 1 (fun words => .inspectDecoders (source words)) rest
          | first :: rest =>
              match readWords [helpForm] false (first :: rest) with
              | some others => (eager? others).getD .misuse
              | none => .misuse
          | [] => .misuse

def buildTranslate (words : Words) : Command :=
  .translate words.others.head? (words.value? "--output")

def buildRender (words : Words) : Command :=
  .render ⟨words.others.head?, words.others[1]?, words.value? "--package",
    (words.value? "--output-dir").getD ".", words.has "--list"⟩

/-- The request of a command line. -/
def read (args : List String) : Request :=
  if args.isEmpty then .help false
  else match readWords programForms false args with
    | none => .misuse
    | some words =>
        match eager? words with
        | some request => request
        | none =>
            let flags := flagsOf words
            match words.others with
            | "translate" :: rest => readCommand flags translateForms 1 buildTranslate rest
            | "render" :: rest => readCommand flags renderForms 2 buildRender rest
            | "inspect" :: rest => readInspect flags rest
            | first :: rest =>
                match readWords programForms false (first :: rest) with
                | some others => (eager? others).getD .misuse
                | none => .misuse
            | [] => .misuse

end CommandLine
end RouteIR
