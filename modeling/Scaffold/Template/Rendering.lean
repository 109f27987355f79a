import Scaffold.Template.Registry
/-!
Rendering: a template, given as such, as text or by its path, against a model and with further
bindings on top.  The ways to render have parameters of their own, whose names no further binding
may have.
-/

namespace Scaffold.Template

open Model

inductive Entrance where
  | scope
  | model
  | path
  | inline
  | file
deriving DecidableEq

def Entrance.name : Entrance → String
  | .scope => "Template.render"
  | .model => "render"
  | .path => "TemplateRegistry.render"
  | .inline => "TemplateRegistry.render_string"
  | .file => "TemplateRegistry.render_to_file"

def Entrance.parameters : Entrance → List String
  | .scope => ["self", "bindings"]
  | .model => ["template", "model"]
  | .path => ["self", "template_path", "model"]
  | .inline => ["self", "template_string", "model"]
  | .file => ["self", "template_path", "output_path", "model"]

/-- A further binding with the name of a parameter. -/
structure TakenName where
  entrance : Entrance
  name : String
deriving DecidableEq

def TakenName.message (e : TakenName) : String :=
  e.entrance.name ++ "() got multiple values for argument '" ++ e.name ++ "'"

inductive RenderingFault where
  | taken (e : TakenName)
  | lookup (e : LookupFault)
  | malformed (e : SyntaxFault)
  | notRenderable (e : NotRenderable)
  | render (e : RenderFault)
deriving DecidableEq

/-- Further bindings must not have the names of parameters. -/
def Entrance.admit (entrance : Entrance) (extra : Bindings) : Except RenderingFault Unit :=
  match extra.find? fun b => entrance.parameters.contains b.1 with
  | none => .ok ()
  | some b => .error (.taken ⟨entrance, b.1⟩)

/-- The text of a template in a scope, with further bindings on top. -/
def renderIn (own : Ownership) (t : Template) (scope : Scope) (extra : Bindings) :
    Except RenderingFault String := do
  Entrance.scope.admit extra
  (t.render own (scopeWith scope extra)).mapError .render

/-- The text of a template for a model, with further bindings on top. -/
def renderModel (own : Ownership) (t : Template) (model : Value) (extra : Bindings) :
    Except RenderingFault String := do
  Entrance.model.admit extra
  let root ← (bindingsFor own model).mapError .notRenderable
  renderIn own t [root] extra

/-- The text that the text of a template makes for a model. -/
def renderSource (own : Ownership) (source : String) (model : Value) (extra : Bindings) :
    Except RenderingFault String := do
  Entrance.model.admit extra
  renderModel own (← (parse source anonymous).mapError .malformed) model extra

/-- The same, as a registry does it. -/
def renderInline (own : Ownership) (source : String) (model : Value) (extra : Bindings) :
    Except RenderingFault String := do
  Entrance.inline.admit extra
  renderSource own source model extra

/-- The text that the template at a path of a registry makes for a model. -/
def Registry.render (disk : FileTree) (r : Registry) (own : Ownership) (entrance : Entrance)
    (path : String) (model : Value) (extra : Bindings) :
    Except RenderingFault String × Registry :=
  match entrance.admit extra with
  | .error e => (.error e, r)
  | .ok () =>
    match r.get disk path with
    | (.error e, r) => (.error (.lookup e), r)
    | (.ok t, r) => (renderModel own t model extra, r)

end Scaffold.Template
