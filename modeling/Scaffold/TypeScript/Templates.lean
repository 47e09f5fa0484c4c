import Scaffold.Source.Renderer

/-! The layout of TypeScript declarations, as templates. -/
namespace Scaffold.TypeScript

open Source

/-- `export ` in front of a declaration that is exported. -/
def exportMark : Piece := .choice (.given (.path ["decl", "exported"])) [.text "export "] []

def typeMark (operand : Operand) : Piece :=
  .choice (.given operand) [.text ": ", .value operand] []

/-- A comma, behind all items of a loop but the last. -/
def commaUnlessLast : Piece :=
  .choice (.not (.given (.path ["loop", "last"]))) [.text ", "] []

def statementPieces (path : List String) (indent : String) : List Piece :=
  [.text indent, .value (.path (path ++ ["keyword"])), .text " ",
    .value (.path (path ++ ["name"])), typeMark (.path (path ++ ["ty"])), .text " = ",
    .choice (.equal (.path (path ++ ["initializer", "kind"])) (.text "object"))
      [.text "\x7b",
        .each "property" (.path (path ++ ["initializer", "properties"]))
          [.text ("\n" ++ indent ++ "  "), .value (.path ["property", "name"]), .text ": ",
            .value (.path ["property", "value"]), .text ","],
        .text ("\n" ++ indent ++ "\x7d")]
      [.value (.path (path ++ ["initializer", "expression"]))],
    .text ";"]

/-- The member of a shape that is in scope as `property`, on a line of its own. -/
def propertyPieces : List Piece :=
  [.text "\n  ", .value (.path ["property", "name"]),
    .choice (.given (.path ["property", "optional"])) [.text "?"] [], .text ": ",
    .value (.path ["property", "ty"]), .text ";"]

def importTemplate : Template :=
  [.text "import ",
    .choice (.given (.path ["decl", "default_import"]))
      [.value (.path ["decl", "default_import"]),
        .choice (.given (.path ["decl", "named_imports"])) [.text ", "] []] [],
    .choice (.given (.path ["decl", "named_imports"]))
      [.text "\x7b ", .joined (.path ["decl", "named_imports"]) ", ", .text " \x7d"] [],
    .text " from '", .value (.path ["decl", "module"]), .text "';\n"]

def interfaceTemplate : Template :=
  [exportMark, .text "interface ", .value (.path ["decl", "name"]),
    .choice (.given (.path ["decl", "type_parameters"]))
      [.text "<", .joined (.path ["decl", "type_parameters"]) ", ", .text ">"] [],
    .text " \x7b", .each "property" (.path ["decl", "properties"]) propertyPieces,
    .text "\n\x7d\n"]

/-- A type alias with one note or member a line, or an empty shape. -/
def typeAliasTemplate : Template :=
  [exportMark, .text "type ", .value (.path ["decl", "name"]), .text " = ",
    .choice (.either (.given (.path ["decl", "notes"])) (.given (.path ["decl", "members"])))
      [.text "\x7b",
        .each "note" (.path ["decl", "notes"]) [.text "\n  // ", .value (.path ["note"])],
        .each "property" (.path ["decl", "members"]) propertyPieces,
        .text "\n\x7d;"]
      [.text "\x7b\x7d;"],
    .text "\n"]

def variableTemplate : Template :=
  exportMark :: statementPieces ["decl", "statement"] "" ++ [.text "\n"]

/-- A class, with an empty line between methods and one statement a line. -/
def classTemplate : Template :=
  [exportMark, .text "class ", .value (.path ["decl", "name"]), .text " \x7b",
    .each "method" (.path ["decl", "methods"])
      [.choice (.not (.given (.path ["loop", "first"]))) [.text "\n"] [], .text "\n  ",
        .choice (.given (.path ["method", "is_static"])) [.text "static "] [],
        .value (.path ["method", "name"]), .text "(",
        .each "parameter" (.path ["method", "parameters"])
          [.value (.path ["parameter", "name"]), .text ": ", .value (.path ["parameter", "ty"]),
            commaUnlessLast],
        .text ")", typeMark (.path ["method", "return_type"]), .text " \x7b",
        .each "statement" (.path ["method", "statements"])
          (.text "\n" :: statementPieces ["statement"] "    "),
        .text "\n  \x7d"],
    .text "\n\x7d\n"]

def renderer : Renderer where
  extension := "ts"
  templates := [("import.ts", importTemplate), ("interface.ts", interfaceTemplate),
    ("type_alias.ts", typeAliasTemplate), ("variable.ts", variableTemplate),
    ("class.ts", classTemplate)]

end Scaffold.TypeScript
