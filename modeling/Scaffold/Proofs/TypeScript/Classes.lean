import Scaffold.Proofs.TypeScript.Lines

/-! The lines of a class. Its methods stand between the header and the closing brace, each in a
block of lines of its own, and an empty line stands between two blocks and nowhere else. -/
namespace Scaffold.TypeScript

open Source Text

variable {line : String}

theorem ne_empty_of_begins {start : String} (hs : start ≠ "") (h : Begins start line) :
    line ≠ "" := by
  rintro rfl
  have hnil : start.toList = [] := List.prefix_nil.mp h
  exact hs (String.toList_eq_nil_iff.mp hnil)

theorem begins_of_mem_statementLines {s : Statement} (h : line ∈ statementLines "" "    " s) :
    Begins "    " line := by
  obtain ⟨keyword, name, type, initializer⟩ := s
  have hstart (rest : String) : Begins "    " ("" ++ "    " ++ rest) := begins_append _ _
  cases initializer with
  | expression text =>
    simp only [statementLines, List.mem_singleton] at h
    rw [h]
    simp only [String.append_assoc] at hstart ⊢
    exact hstart _
  | object properties =>
    simp only [statementLines, List.cons_append, List.mem_cons, List.mem_append, List.mem_map,
      List.not_mem_nil, or_false] at h
    rcases h with rfl | ⟨entry, -, rfl⟩ | rfl
    · simp only [String.append_assoc] at hstart ⊢
      exact hstart _
    · simp only [memberLine, String.append_assoc]
      exact begins_append _ _
    · exact begins_append _ _

theorem empty_not_mem_methodLines (m : Method) : "" ∉ methodLines m := by
  intro h
  rw [methodLines, List.cons_append, List.mem_cons, List.mem_append, List.mem_flatMap,
    List.mem_singleton] at h
  rcases h with h | ⟨s, -, h⟩ | h
  · have hbegins : Begins "  " (signatureLine m) := by
      simp only [signatureLine, String.append_assoc]
      exact begins_append _ _
    exact ne_empty_of_begins (by decide) hbegins h.symm
  · exact ne_empty_of_begins (by decide) (begins_of_mem_statementLines h) rfl
  · exact absurd h (by decide)

/-- The source that holds one class, none of whose texts has a line feed, has these lines: the
header, the lines of each method in turn with one empty line between two methods, the closing brace,
and nothing behind the line feed at its end. -/
theorem class_lines (path : Path) {c : ClassDeclaration}
    (h : ∀ t ∈ (Declaration.classDecl c).texts, IsLine t) :
    ∃ content, renderer.render ⟨path, [.classDecl c]⟩ = .ok content ∧
      lines content = (exportText c.exported ++ "class " ++ c.name ++ " \x7b") ::
        [""].intercalate (c.methods.map methodLines) ++ ["\x7d", ""] ∧
      ∀ m ∈ c.methods, "" ∉ methodLines m := by
  have htexts : ∀ d ∈ [Declaration.classDecl c], ∀ t ∈ d.texts, IsLine t :=
    List.forall_mem_singleton.mpr h
  refine ⟨_, render_eq ⟨path, [.classDecl c]⟩, ?_, fun m _ => empty_not_mem_methodLines m⟩
  rw [lines_text htexts, declarationLines, linesFrom]
  simp

/-- A class with methods of all kinds: with and without parameters, types and statements. -/
def gateClass : ClassDeclaration where
  name := "Gate"
  exported := true
  methods :=
    [⟨"close", false, [], some "", []⟩,
      ⟨"open", true, [("by", "Key"), ("at", "Date")], some "void",
        [⟨"let", "turns", some "", .expression "0"⟩,
          ⟨"const", "state", some "State", .object [("open", "true"), ("at", "at")]⟩,
          ⟨"const", "none", none, .object []⟩]⟩,
      ⟨"lock", true, [("by", "Key")], none, []⟩]

theorem class_lines_gateClass : ∃ content,
    renderer.render ⟨⟨"gate.ts"⟩, [.classDecl gateClass]⟩ = .ok content ∧
    lines content =
      ["export class Gate \x7b",
        "  close() \x7b",
        "  \x7d",
        "",
        "  static open(by: Key, at: Date): void \x7b",
        "    let turns = 0;",
        "    const state: State = \x7b",
        "      open: true,",
        "      at: at,",
        "    \x7d;",
        "    const none = \x7b",
        "    \x7d;",
        "  \x7d",
        "",
        "  static lock(by: Key) \x7b",
        "  \x7d",
        "\x7d",
        ""] := by
  have htexts : ∀ t ∈ (Declaration.classDecl gateClass).texts, IsLine t := by decide
  obtain ⟨content, hrender, hlines, -⟩ := class_lines ⟨"gate.ts"⟩ htexts
  exact ⟨content, hrender, hlines.trans (by decide +kernel)⟩

end Scaffold.TypeScript
