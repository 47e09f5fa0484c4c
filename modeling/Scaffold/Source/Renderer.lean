import Scaffold.Source.Declaration
import Scaffold.Source.Template.Reader

/-! Rendering of artifacts. Each declaration is rendered by the template of its kind, and the
texts are joined: imports stay together, and an empty line separates all else. -/
namespace Scaffold.Source

/-- Templates by name, with the extension that their names end in. -/
structure Renderer where
  extension : String
  templates : List (String × Template)

/-- Why an artifact cannot be rendered. -/
inductive RenderFault where
  | missingTemplate (template : String)
  | template (template : String) (fault : TemplateFault)
  /-- A cause outside the templates, in its own words. -/
  | other (text : String)
  deriving DecidableEq, Repr

def RenderFault.message : RenderFault → String
  | .missingTemplate name => s!"Template '{name}' not found"
  | .template name (.missing operand) =>
    s!"Failed to render '{name}': Variable `{operand}` not found in context while rendering '{name}'"
  | .template name (.notList operand) =>
    s!"Failed to render '{name}': Tried to iterate over `{operand}`, which is not a list"
  | .other text => text

namespace Renderer

/-- The renderer for template texts; of two texts with one name the later counts. -/
def ofTexts (extension : String) (texts : List (String × String)) :
    Except Template.ReadError Renderer := do
  let templates ← texts.mapM fun (name, text) => do return (name, ← Template.read text)
  return ⟨extension, Entries.ofList templates⟩

/-- The text of one declaration, as its template gives it. -/
def renderDeclaration (r : Renderer) (d : Declaration) : Except RenderFault String :=
  let name := d.kind ++ "." ++ r.extension
  match r.templates.lookup name with
  | none => .error (.missingTemplate name)
  | some template => (template.render [("decl", d.toJson)]).mapError (.template name)

/-- What stands between two declarations. -/
def separator (first second : Declaration) : String :=
  if first.isImport && second.isImport then "\n" else "\n\n"

/-- The texts of declarations, as `text` gives them, without the blanks at their ends: separated
from one another and from the declaration before them. -/
def joinFrom (text : Declaration → Except RenderFault String) (previous : Option Declaration) :
    List Declaration → Except RenderFault String
  | [] => .ok ""
  | d :: rest => do
    let fragment ← text d
    let more ← joinFrom text (some d) rest
    let gap := (previous.map (separator · d)).getD ""
    return gap ++ String.ofList (Text.trimEnd fragment.toList) ++ more

/-- The text of an artifact, whatever gives the texts of its declarations; it ends in one line
feed. -/
def compose (text : Declaration → Except RenderFault String) (a : Artifact) :
    Except RenderFault String := do
  return (← joinFrom text none a.declarations) ++ "\n"

/-- The text of an artifact. -/
def render (r : Renderer) (a : Artifact) : Except RenderFault String :=
  compose r.renderDeclaration a

end Renderer

end Scaffold.Source
