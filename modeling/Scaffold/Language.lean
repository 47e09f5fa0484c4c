/-! The languages that a project can ask for. -/
namespace Scaffold

/-- A target language. -/
inductive Language where
  | typeScript
  | python
  deriving DecidableEq, Repr

namespace Language

def all : List Language := [.typeScript, .python]

def name : Language → String
  | .typeScript => "typescript"
  | .python => "python"

def displayName : Language → String
  | .typeScript => "TypeScript"
  | .python => "Python"

/-- The extension of source files, which is also the short name of the language. -/
def fileExtension : Language → String
  | .typeScript => "ts"
  | .python => "py"

/-- The language with a name or short name; ASCII letters may be of either case. A letter beyond
ASCII never lowers to one of these names. -/
def ofName? (text : String) : Option Language :=
  let lowered := text.map Char.toLower
  all.find? fun l => l.name = lowered || l.fileExtension = lowered

end Language

end Scaffold
