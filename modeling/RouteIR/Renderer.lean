import RouteIR.Interface

namespace RouteIR

/-!
# Renderers

A renderer turns an interface into files.  Renderers come from outside: each is
offered under the name of an entry, and may turn out not to load.  A registry holds
those that are installed, by their own names, in the order of registration.
-/

/-- How rendering ends without files: the renderer refuses, or it breaks. -/
inductive RenderFailure where
  | refused (message : String)
  | broken (reason : String)
deriving DecidableEq, Repr

structure Renderer where
  name : String
  description : String
  /-- The files for an interface and a package, by relative path. -/
  render : Interface → String → Except RenderFailure (List (String × String))

/-- An offer of a renderer. -/
structure RendererEntry where
  name : String
  /-- The renderer, or why it does not load or cannot be made. -/
  renderer : Except String Renderer

inductive RendererError where
  | alreadyRegistered (name : String)
  | notInstalled (name : String) (available : List String)
  | refused (message : String)
  | broken (name reason : String)
deriving DecidableEq, Repr

def RendererError.message : RendererError → String
  | alreadyRegistered name => "Renderer '" ++ name ++ "' is already registered"
  | notInstalled name available =>
      let listed := ", ".intercalate available
      "Renderer '" ++ name ++ "' is not installed (available: " ++
        (if listed.isEmpty then "none" else listed) ++ ")"
  | refused message => message
  | broken name reason => "Renderer '" ++ name ++ "' failed: " ++ reason

/-- The files of a renderer, by relative path. -/
def Renderer.files (renderer : Renderer) (interface : Interface) (package : String) :
    Except RendererError (List (String × String)) :=
  match renderer.render interface package with
  | .ok files => .ok files
  | .error (.refused message) => .error (.refused message)
  | .error (.broken reason) => .error (.broken renderer.name reason)

structure RendererRegistry where
  renderers : List Renderer

namespace RendererRegistry

def empty : RendererRegistry := ⟨[]⟩

/-- The names in ascending order. -/
def availableNames (registry : RendererRegistry) : List String :=
  (registry.renderers.map (·.name)).mergeSort fun left right => left ≤ right

def find? (registry : RendererRegistry) (name : String) : Option Renderer :=
  registry.renderers.find? (·.name = name)

def get (registry : RendererRegistry) (name : String) : Except RendererError Renderer :=
  match registry.find? name with
  | some renderer => .ok renderer
  | none => .error (.notInstalled name registry.availableNames)

/-- Adds a renderer, unless its name is taken. -/
def register (registry : RendererRegistry) (renderer : Renderer) :
    Except RendererError RendererRegistry :=
  match registry.find? renderer.name with
  | some _ => .error (.alreadyRegistered renderer.name)
  | none => .ok ⟨registry.renderers ++ [renderer]⟩

/-- What came of a set of offers. -/
structure Discovery where
  registry : RendererRegistry
  /-- The names of the entries whose renderers were registered. -/
  loaded : List String
  /-- The names of the other entries, with the reason. -/
  skipped : List (String × String)

def Discovery.warnings (discovery : Discovery) : List String :=
  discovery.skipped.map fun entry => "Failed to load renderer '" ++ entry.1 ++ "': " ++ entry.2

/-- Takes up one offer. -/
def Discovery.take (discovery : Discovery) (entry : RendererEntry) : Discovery :=
  let skip (reason : String) : Discovery :=
    { discovery with skipped := discovery.skipped ++ [(entry.name, reason)] }
  match entry.renderer with
  | .error reason => skip reason
  | .ok renderer =>
      match discovery.registry.register renderer with
      | .error error => skip error.message
      | .ok registry =>
          { discovery with registry := registry, loaded := discovery.loaded ++ [entry.name] }

/-- Registers all renderers offered that load and whose names are free. -/
def discover (registry : RendererRegistry) (entries : List RendererEntry) : Discovery :=
  entries.foldl Discovery.take ⟨registry, [], []⟩

end RendererRegistry
end RouteIR
