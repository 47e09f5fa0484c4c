import Scaffold.Schema.Reader

/-! The schema of configuration files. The language may be any text here; whether it is known is
found out when its sources are asked for. -/
namespace Scaffold.Config.Constraints

open Schema

def digitRun : Pattern := .many (.one (.ranges [('0', '9')]))

def dot : Pattern := .char false '.'

/-- A version begins with three numbers between dots. -/
def version : Schema :=
  .pattern "^[0-9]+\\.[0-9]+\\.[0-9]+"
    (Pattern.ofList [.anchor .start, digitRun, dot, digitRun, dot, digitRun])

/-- The name of a service consists of letters, underscores and dashes. -/
def serviceName : Schema :=
  .pattern "^[a-zA-Z_-]+$"
    (Pattern.ofList [.anchor .start,
      .many (.one (.ranges [('a', 'z'), ('A', 'Z'), ('_', '_'), ('-', '-')])), .anchor .finish])

def text : Schema := .types [.string]

def nonEmptyText : Schema := .all [.types [.string], .minLength 1]

/-- An object with these members, all of which must be there. -/
def record (members : List (String × Schema)) : Schema :=
  .all [.types [.object], .required (members.map Prod.fst), .properties members]

def engineRule (language : String) (libraries : List String) : Schema :=
  .whenever
    (.all [.required ["language"], .properties [("language", .constant (.string language))]])
    (.properties [("engine", .properties [("lib", .options (libraries.map .string))])])

def compilation : Schema :=
  .all [record
      [("language", nonEmptyText),
        ("engine", record [("lib", text)]),
        ("directories", record
          [("routing", nonEmptyText), ("controllers", nonEmptyText), ("useCases", nonEmptyText)])],
    engineRule "typescript" ["express", "fastify"],
    engineRule "python" ["flask"]]

def services : Schema :=
  .all [.types [.object],
    .otherProperties [] (record [("specPath", nonEmptyText)]),
    .propertyNames serviceName]

def schema : Schema :=
  record
    [("version", .all [text, version]), ("compilation", compilation), ("services", services)]

example : [version, serviceName].all (fun
    | .pattern source p => Pattern.read? source = some (source, p)
    | _ => false) = true := by decide +kernel

end Scaffold.Config.Constraints
