import Scaffold.Proofs.Text.Lines
import Scaffold.Proofs.TypeScript.Layout

/-! The lines of TypeScript sources. When no text of a declaration has line feeds, the source splits
into the lines that are listed here. -/
namespace Scaffold

open Source Text

namespace Source

def Property.texts (p : Property) : List String := [p.name, p.type]

def Initializer.texts : Initializer → List String
  | .expression text => [text]
  | .object properties => properties.flatMap fun (name, value) => [name, value]

def Statement.texts (s : Statement) : List String :=
  s.keyword :: s.name :: s.type.toList ++ s.initializer.texts

def Method.texts (m : Method) : List String :=
  m.name :: m.parameters.flatMap (fun (name, type) => [name, type]) ++ m.returnType.toList ++
    m.statements.flatMap Statement.texts

/-- Every text that is written somewhere in a declaration. -/
def Declaration.texts : Declaration → List String
  | .imports i => i.module :: i.defaultName.toList ++ i.names
  | .interface i => i.name :: i.typeParameters ++ i.properties.flatMap Property.texts
  | .typeAlias a => a.name :: a.notes ++ a.members.flatMap Property.texts
  | .variable v => v.statement.texts
  | .classDecl c => c.name :: c.methods.flatMap Method.texts

end Source

namespace TypeScript

variable {d : Declaration} {indent mark : String}

def propertyLine (p : Property) : String :=
  "  " ++ p.name ++ (if p.isOptional then "?" else "") ++ ": " ++ p.type ++ ";"

def memberLine (indent : String) (entry : String × String) : String :=
  indent ++ "  " ++ entry.1 ++ ": " ++ entry.2 ++ ","

/-- The lines of a statement behind a mark on its first line. -/
def statementLines (mark indent : String) (s : Statement) : List String :=
  let start := mark ++ indent ++ s.keyword ++ " " ++ s.name ++ typeSuffix s.type ++ " = "
  match s.initializer with
  | .expression text => [start ++ text ++ ";"]
  | .object properties =>
    (start ++ "\x7b") :: properties.map (memberLine indent) ++ [indent ++ "\x7d;"]

def signatureLine (m : Method) : String :=
  "  " ++ (if m.isStatic then "static " else "") ++ m.name ++ "(" ++
    ", ".intercalate (m.parameters.map fun (name, type) => name ++ ": " ++ type) ++ ")" ++
    typeSuffix m.returnType ++ " \x7b"

def methodLines (m : Method) : List String :=
  signatureLine m :: m.statements.flatMap (statementLines "" "    ") ++ ["  \x7d"]

def aliasLines (a : TypeAlias) : List String :=
  let start := exportText a.exported ++ "type " ++ a.name ++ " = "
  if a.notes.isEmpty && a.members.isEmpty then [start ++ "\x7b\x7d;"]
  else (start ++ "\x7b") :: a.notes.map ("  // " ++ ·) ++ a.members.map propertyLine ++ ["\x7d;"]

def declarationLines : Declaration → List String
  | .imports i => ["import " ++ defaultText i.names i.defaultName ++ namesText i.names ++
      " from '" ++ i.module ++ "';"]
  | .interface i =>
    (exportText i.exported ++ "interface " ++ i.name ++
      (if i.typeParameters.isEmpty then "" else "<" ++ ", ".intercalate i.typeParameters ++ ">") ++
      " \x7b") :: i.properties.map propertyLine ++ ["\x7d"]
  | .typeAlias a => aliasLines a
  | .variable v => statementLines (exportText v.exported) "" v.statement
  | .classDecl c =>
    (exportText c.exported ++ "class " ++ c.name ++ " \x7b") ::
      [""].intercalate (c.methods.map methodLines) ++ ["\x7d"]

theorem below_map {α : Type} {line text : α → String} (h : ∀ item, text item = "\n" ++ line item)
    (items : List α) : below (items.map line) = String.join (items.map text) := by
  rw [below, List.map_map]
  exact congrArg String.join (List.map_congr_left fun item _ => (h item).symm)

theorem below_properties (properties : List Property) :
    below (properties.map propertyLine) = String.join (properties.map propertyText) := by
  refine below_map (fun p => ?_) properties
  rw [← String.toList_inj]
  simp [propertyText, propertyLine]

theorem below_statementLines (mark indent : String) (s : Statement) :
    below (statementLines mark indent s) = "\n" ++ mark ++ statementText indent s := by
  obtain ⟨keyword, name, type, initializer⟩ := s
  rw [← String.toList_inj]
  cases initializer with
  | expression text => simp [statementLines, statementText, initializerText]
  | object properties =>
    have hmembers : below (properties.map (memberLine indent)) =
        String.join (properties.map fun (name, value) =>
          "\n" ++ indent ++ "  " ++ name ++ ": " ++ value ++ ",") :=
      below_map (fun entry => by simp [memberLine, String.append_assoc]) properties
    simp [statementLines, statementText, initializerText, hmembers]

theorem below_methodLines (m : Method) : below (methodLines m) = methodText m := by
  have hstatements : below (m.statements.flatMap (statementLines "" "    ")) =
      String.join (m.statements.map fun s => "\n" ++ statementText "    " s) := by
    simp [below_flatMap, below_statementLines]
  rw [← String.toList_inj]
  simp [methodLines, signatureLine, methodText, hstatements]

theorem below_intercalate (blocks : List (List String)) :
    below ([""].intercalate blocks) = "\n".intercalate (blocks.map below) := by
  induction blocks with
  | nil => rfl
  | cons block blocks ih =>
    cases blocks with
    | nil => simp
    | cons next blocks =>
      rw [List.intercalate_cons_cons, below_append, below_append, ih]
      simp only [List.map_cons]
      rw [String.intercalate_cons_cons]
      rfl

theorem below_aliasLines (a : TypeAlias) : below (aliasLines a) =
    "\n" ++ exportText a.exported ++ "type " ++ a.name ++ " = " ++ shapeText a := by
  have hnotes : below (a.notes.map ("  // " ++ ·)) = String.join (a.notes.map ("\n  // " ++ ·)) :=
    below_map (fun note => by rw [← String.toList_inj]; simp) a.notes
  rw [← String.toList_inj, aliasLines, shapeText]
  split <;> simp [hnotes, below_properties]

theorem below_declarationLines (d : Declaration) :
    below (declarationLines d) ++ "\n" = "\n" ++ layout d := by
  rw [← String.toList_inj]
  match d with
  | .imports i => simp [declarationLines, layout]
  | .interface i => simp [declarationLines, layout, below_properties]
  | .typeAlias a => simp [declarationLines, layout, below_aliasLines]
  | .variable v => simp [declarationLines, layout, below_statementLines]
  | .classDecl c =>
    have hmethods : (c.methods.map methodLines).map below = c.methods.map methodText := by
      simp [below_methodLines]
    simp [declarationLines, layout, below_intercalate, hmethods]

/-- The last line of a declaration ends in a character that is not blank. -/
theorem exists_last (d : Declaration) :
    ∃ above line c, isBlank c = false ∧
      declarationLines d = above ++ [line ++ String.singleton c] := by
  match d with
  | .imports i =>
    refine ⟨[], "import " ++ defaultText i.names i.defaultName ++ namesText i.names ++ " from '" ++
      i.module ++ "'", ';', by decide, ?_⟩
    simp [declarationLines, String.append_assoc]
  | .interface i => exact ⟨_, "", '\x7d', by decide, rfl⟩
  | .typeAlias a =>
    rw [declarationLines, aliasLines]
    split
    · refine ⟨[], exportText a.exported ++ "type " ++ a.name ++ " = \x7b\x7d", ';', by decide, ?_⟩
      rw [List.nil_append, List.singleton_inj, ← String.toList_inj]
      simp
    · exact ⟨_, "\x7d", ';', by decide, rfl⟩
  | .variable ⟨exported, keyword, name, type, initializer⟩ =>
    cases initializer with
    | expression text => exact ⟨[], _, ';', by decide, rfl⟩
    | object properties => exact ⟨_, "\x7d", ';', by decide, rfl⟩
  | .classDecl c => exact ⟨_, "", '\x7d', by decide, rfl⟩

theorem below_eq_trimEnd (d : Declaration) :
    below (declarationLines d) = "\n" ++ String.ofList (trimEnd (layout d).toList) := by
  obtain ⟨above, line, c, hc, hlast⟩ := exists_last d
  have hchars : (below (declarationLines d)).toList =
      (below above ++ "\n" ++ line).toList ++ [c] := by
    rw [hlast]
    simp
  -- The line feed in front stays: it is no end, as the text behind it is not blank.
  have htrim : trimEnd ("\n" ++ layout d).toList = (below (declarationLines d)).toList := by
    rw [← below_declarationLines, String.toList_append, hchars]
    exact (trimEnd_append_blank _ (by decide)).trans (trimEnd_append_singleton _ hc)
  have hcons : trimEnd ("\n" ++ layout d).toList =
      if (trimEnd (layout d).toList).isEmpty && isBlank '\n' then []
      else '\n' :: trimEnd (layout d).toList := by
    rw [String.toList_append]
    rfl
  rw [htrim] at hcons
  split at hcons
  · rw [hchars] at hcons
    exact absurd hcons (by simp)
  · rw [← String.toList_inj, hcons]
    simp

def gapLines (first second : Declaration) : List String :=
  if first.isImport && second.isImport then [] else [""]

/-- The lines of declarations that stand behind another one. -/
def linesFrom (previous : Declaration) : List Declaration → List String
  | [] => []
  | d :: rest => gapLines previous d ++ declarationLines d ++ linesFrom d rest

theorem separator_eq_below (first second : Declaration) :
    Renderer.separator first second = below (gapLines first second) ++ "\n" := by
  rw [Renderer.separator, gapLines]
  split <;> rfl

theorem layOut_eq_below (previous : Declaration) (rest : List Declaration) :
    layOut layout (some previous) rest = below (linesFrom previous rest) := by
  induction rest generalizing previous with
  | nil => rfl
  | cons d rest ih =>
    have hgap : ((some previous).map (Renderer.separator · d)).getD "" =
        below (gapLines previous d) ++ "\n" := separator_eq_below previous d
    rw [layOut, hgap, ih, linesFrom, below_append, below_append, below_eq_trimEnd]
    simp only [String.append_assoc]

theorem below_text (path : Path) (first : Declaration) (rest : List Declaration) :
    "\n" ++ text ⟨path, first :: rest⟩ =
      below (declarationLines first ++ linesFrom first rest ++ [""]) := by
  have hgap : ((none : Option Declaration).map (Renderer.separator · first)).getD "" = "" := rfl
  simp only [text, layOut, hgap, layOut_eq_below, below_append, below_eq_trimEnd,
    String.append_assoc]
  simp

theorem isLine_typeSuffix {type : Option String} (h : ∀ t ∈ type.toList, IsLine t) :
    IsLine (typeSuffix type) := by
  cases type with
  | none => decide
  | some type =>
    have htype := h type List.mem_cons_self
    rw [typeSuffix]
    split <;> simp +decide [htype]

theorem isLine_exportText (exported : Bool) : IsLine (exportText exported) := by
  cases exported <;> decide

theorem isLine_propertyLine {p : Property} (h : ∀ t ∈ p.texts, IsLine t) :
    IsLine (propertyLine p) := by
  have hmark : IsLine (if p.isOptional then "?" else "") := by split <;> decide
  simp only [Property.texts, List.forall_mem_cons] at h
  simp +decide [propertyLine, hmark, h]

theorem isLine_statementLines {s : Statement} (hm : IsLine mark) (hi : IsLine indent)
    (h : ∀ t ∈ s.texts, IsLine t) : ∀ line ∈ statementLines mark indent s, IsLine line := by
  obtain ⟨keyword, name, type, initializer⟩ := s
  simp only [Statement.texts, List.cons_append, List.forall_mem_cons, List.forall_mem_append] at h
  obtain ⟨hkeyword, hname, htype, hinitializer⟩ := h
  have hsuffix := isLine_typeSuffix htype
  cases initializer with
  | expression text =>
    have htext := hinitializer text List.mem_cons_self
    simp +decide [statementLines, hm, hi, hkeyword, hname, hsuffix, htext]
  | object properties =>
    have hmembers : ∀ line ∈ properties.map (memberLine indent), IsLine line := by
      refine List.forall_mem_map.mpr fun entry he => ?_
      have hentry := fun t ht => hinitializer t (List.mem_flatMap.mpr ⟨entry, he, ht⟩)
      simp only [List.forall_mem_cons] at hentry
      simp +decide [memberLine, hi, hentry]
    refine List.forall_mem_append.mpr ⟨List.forall_mem_cons.mpr ⟨?_, hmembers⟩, ?_⟩
    · simp +decide [hm, hi, hkeyword, hname, hsuffix]
    · simp +decide [hi]

theorem isLine_methodLines {m : Method} (h : ∀ t ∈ m.texts, IsLine t) :
    ∀ line ∈ methodLines m, IsLine line := by
  simp only [Method.texts, List.cons_append, List.forall_mem_cons, List.forall_mem_append,
    List.forall_mem_flatMap] at h
  obtain ⟨hname, ⟨hparameters, htype⟩, hstatements⟩ := h
  have hmark : IsLine (if m.isStatic then "static " else "") := by split <;> decide
  have hlist : IsLine (", ".intercalate (m.parameters.map fun (name, type) =>
      name ++ ": " ++ type)) := by
    refine isLine_intercalate (by decide) (List.forall_mem_map.mpr fun (name, type) hp => ?_)
    obtain ⟨hname, htype, -⟩ := hparameters (name, type) hp
    simp +decide [hname, htype]
  refine List.forall_mem_append.mpr ⟨List.forall_mem_cons.mpr ⟨?_, ?_⟩, ?_⟩
  · simp +decide [signatureLine, hmark, hname, hlist, isLine_typeSuffix htype]
  · intro line hl
    obtain ⟨s, hs, hl⟩ := List.mem_flatMap.mp hl
    exact isLine_statementLines (by decide) (by decide) (hstatements s hs) line hl
  · simp +decide

theorem isLine_properties {properties : List Property}
    (h : ∀ t ∈ properties.flatMap Property.texts, IsLine t) :
    ∀ line ∈ properties.map propertyLine, IsLine line :=
  List.forall_mem_map.mpr fun p hp =>
    isLine_propertyLine fun t ht => h t (List.mem_flatMap.mpr ⟨p, hp, ht⟩)

theorem isLine_aliasLines {a : TypeAlias}
    (h : ∀ t ∈ a.name :: a.notes ++ a.members.flatMap Property.texts, IsLine t) :
    ∀ line ∈ aliasLines a, IsLine line := by
  simp only [List.cons_append, List.forall_mem_cons, List.forall_mem_append] at h
  obtain ⟨hname, hnotes, hmembers⟩ := h
  have hmark := isLine_exportText a.exported
  have hcomments : ∀ line ∈ a.notes.map ("  // " ++ ·), IsLine line := by
    refine List.forall_mem_map.mpr fun note hn => ?_
    simp +decide [hnotes note hn]
  rw [aliasLines]
  split
  · simp +decide [hmark, hname]
  · refine List.forall_mem_append.mpr ⟨List.forall_mem_append.mpr
      ⟨List.forall_mem_cons.mpr ⟨?_, hcomments⟩, isLine_properties hmembers⟩, ?_⟩
    · simp +decide [hmark, hname]
    · simp +decide

theorem isLine_defaultText (names : List String) {name : Option String}
    (h : ∀ t ∈ name.toList, IsLine t) : IsLine (defaultText names name) := by
  cases name with
  | none => exact List.not_mem_nil
  | some name =>
    have hname := h name List.mem_cons_self
    have hcomma : IsLine (if names.isEmpty then "" else ", ") := by split <;> decide
    rw [defaultText]
    split
    · decide
    · exact isLine_append.mpr ⟨hname, hcomma⟩

theorem isLine_declarationLines (h : ∀ t ∈ d.texts, IsLine t) :
    ∀ line ∈ declarationLines d, IsLine line := by
  match d with
  | .imports i =>
    simp only [Declaration.texts, List.cons_append, List.forall_mem_cons,
      List.forall_mem_append] at h
    obtain ⟨hmodule, hdefault, hnames⟩ := h
    have hlist : IsLine (namesText i.names) := by
      rw [namesText]
      split
      · decide
      · simp +decide [isLine_intercalate _ hnames]
    have hmark := isLine_defaultText i.names hdefault
    simp +decide [declarationLines, hmodule, hlist, hmark]
  | .interface i =>
    simp only [Declaration.texts, List.cons_append, List.forall_mem_cons,
      List.forall_mem_append] at h
    obtain ⟨hname, hparameters, hproperties⟩ := h
    have hlist : IsLine (if i.typeParameters.isEmpty then ""
        else "<" ++ ", ".intercalate i.typeParameters ++ ">") := by
      split
      · decide
      · simp +decide [isLine_intercalate _ hparameters]
    refine List.forall_mem_append.mpr
      ⟨List.forall_mem_cons.mpr ⟨?_, isLine_properties hproperties⟩, ?_⟩
    · simp +decide [isLine_exportText, hname, -List.isEmpty_iff, hlist]
    · simp +decide
  | .typeAlias a => exact isLine_aliasLines h
  | .variable v => exact isLine_statementLines (isLine_exportText _) (by decide) h
  | .classDecl c =>
    simp only [Declaration.texts, List.forall_mem_cons] at h
    obtain ⟨hname, hmethods⟩ := h
    refine List.forall_mem_append.mpr ⟨List.forall_mem_cons.mpr ⟨?_, fun line hl => ?_⟩, ?_⟩
    · simp +decide [isLine_exportText, hname]
    · rcases mem_of_mem_intercalate hl with rfl | ⟨block, hb, hl⟩
      · decide
      · obtain ⟨m, hm, rfl⟩ := List.mem_map.mp hb
        exact isLine_methodLines (fun t ht => hmethods t (List.mem_flatMap.mpr ⟨m, hm, ht⟩)) line hl
    · simp +decide

theorem isLine_linesFrom {rest : List Declaration} (previous : Declaration)
    (h : ∀ d ∈ rest, ∀ t ∈ d.texts, IsLine t) : ∀ line ∈ linesFrom previous rest, IsLine line := by
  induction rest generalizing previous with
  | nil => exact List.forall_mem_nil _
  | cons d rest ih =>
    obtain ⟨hd, hrest⟩ := List.forall_mem_cons.mp h
    have hgap : ∀ line ∈ gapLines previous d, IsLine line := by
      rw [gapLines]
      split <;> simp +decide
    exact List.forall_mem_append.mpr
      ⟨List.forall_mem_append.mpr ⟨hgap, isLine_declarationLines hd⟩, ih d hrest⟩

/-- A source whose declarations hold no line feeds splits into the lines of the declarations, with
an empty one wherever not two imports meet, and at the end. -/
theorem lines_text {path : Path} {first : Declaration} {rest : List Declaration}
    (h : ∀ d ∈ first :: rest, ∀ t ∈ d.texts, IsLine t) :
    lines (text ⟨path, first :: rest⟩) =
      declarationLines first ++ linesFrom first rest ++ [""] := by
  obtain ⟨hfirst, hothers⟩ := List.forall_mem_cons.mp h
  have hall : ∀ line ∈ declarationLines first ++ linesFrom first rest, IsLine line :=
    List.forall_mem_append.mpr ⟨isLine_declarationLines hfirst, isLine_linesFrom first hothers⟩
  exact lines_eq_of_below (below_text path first rest)
    (List.forall_mem_append.mpr ⟨hall, by simp +decide⟩)

end TypeScript

end Scaffold
