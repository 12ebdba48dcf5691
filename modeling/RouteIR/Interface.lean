import RouteIR.Decoder.Survey
import RouteIR.Document.Reading
import RouteIR.Route.Lowering
import RouteIR.Trace

namespace RouteIR

/-!
# The interface of a document

A document describes an interface in four stages, each complete before the next
begins: the tree is read, its components become types, its operations become routes,
and the decoders of the routes are planned.  The first failure ends the work.
-/

/-- The intermediate representation of a document. -/
structure Interface where
  components : Components
  routes : Routes
  decoders : DecoderPlan
deriving Repr

namespace Interface

/-! ## Stages -/

def documentOf (tree : Tree) : Except Failure Document := (Document.read tree).mapError .raised

def componentsOf (document : Document) : Except Failure Components :=
  (Components.ofSchemas document.components).mapError fun error => .raised (.rule error)

def routesOf (components : Components) (document : Document) : Except Failure Routes :=
  (Routes.ofPaths components document.paths).mapError fun error => .raised (.rule error)

def documentCounts (document : Document) : Trace.Counts :=
  [("components", document.components.length), ("paths", document.paths.length)]

def componentCounts (components : Components) : Trace.Counts :=
  [("components", components.length)]

def routeCounts (routes : Routes) : Trace.Counts := [("route_items", routes.items.length)]

def planCounts (plan : DecoderPlan) : Trace.Counts :=
  [("refinement_decoders", plan.refinementDecoders.length),
    ("list_decoders", plan.listDecoders.length), ("enum_decoders", plan.enumDecoders.length)]

/-- The interface of a document tree, with tracers that see every stage begin and end. -/
def traced {m : Type → Type} [Monad m] (tracers : List (Trace.Tracer m Failure)) (tree : Tree) :
    ExceptT Failure m Interface := do
  let document ← Trace.observe tracers "read" documentCounts fun _ => documentOf tree
  let components ← Trace.observe tracers "components" componentCounts fun _ =>
    componentsOf document
  let routes ← Trace.observe tracers "routes" routeCounts fun _ =>
    routesOf components document
  let decoders ← Trace.observe tracers "plan" planCounts fun _ =>
    DecoderPlan.forRoutes routes components
  return ⟨components, routes, decoders⟩

/-- The interface of a document tree. -/
def ofTree (tree : Tree) : Except Failure Interface := do
  let document ← documentOf tree
  let components ← componentsOf document
  let routes ← routesOf components document
  let decoders ← DecoderPlan.forRoutes routes components
  return ⟨components, routes, decoders⟩

end Interface
end RouteIR
