import Mathlib.Data.String.Basic
import Scaffold.FileTree.Basic
import Scaffold.Proofs.Entries
import Scaffold.Proofs.Path.Components
import Scaffold.Proofs.Path.Text

/-! Where a path leads hangs on its components, as long as it leads anywhere: idle parts only ask
for a directory. -/
namespace Scaffold.FileTree

theorem walk_filter {t : FileTree} {parts : List (List Char)} {start found : Location}
    (h : t.walk start parts = .ok found) :
    t.walk start (parts.filter (!Path.isIdle ·)) = .ok found := by
  induction parts generalizing start with
  | nil => exact h
  | cons part rest ih =>
    unfold walk at h
    cases hs : t.step start part with
    | error e => rw [hs] at h; cases h
    | ok next =>
      rw [hs] at h
      by_cases hi : Path.isIdle part
      · have hn : start = next := by
          unfold step at hs
          rw [if_pos hi] at hs
          split at hs
          · cases hs
          · exact Except.ok.inj hs
        simpa [hi, hn] using ih h
      · simp [hi, walk, hs, ih h]

/-- The place to which the components of a path lead. -/
def place? (t : FileTree) (p : Path) : Option Location := (t.walk (t.startOf p) p.steps).toOption

theorem place?_of_resolve {t : FileTree} {p : Path} {l : Location} (h : t.resolve p = .ok l) :
    t.place? p = some l := by
  unfold resolve at h
  split at h
  · cases h
  · rw [place?, ← p.filter_splitOn, walk_filter h]
    rfl

theorem place?_of_same {t : FileTree} {p q : Path} (h : p.same q = true) :
    t.place? p = t.place? q := by
  obtain ⟨hs, hp⟩ := Path.parts_of_same h
  have ha : p.isAbsolute = q.isAbsolute := by
    rw [Bool.eq_iff_iff, p.isAbsolute_iff, q.isAbsolute_iff, hs]
  unfold place? startOf
  rw [hp, ha]

/-- The steps of a path have no NUL and, written out without idle parts, are no longer than a path
may be. -/
def stepsFit (p : Path) : Bool :=
  (∀ step ∈ p.steps, '\x00' ∉ step) ∧
    (String.ofList (['/'].intercalate p.steps)).utf8ByteSize ≤ pathLimit

/-- The text of the file to which the components of a path lead. -/
def text? (t : FileTree) (p : Path) : Option String :=
  if stepsFit p then
    match (t.place? p).bind t.find? with
    | some (.file content) => String.fromUTF8? content
    | _ => none
  else none

theorem stepsFit_of_resolve {t : FileTree} {p : Path} {l : Location} (h : t.resolve p = .ok l) :
    stepsFit p = true := by
  have hp : '\x00' ∉ p.text.toList ∧ p.text.utf8ByteSize ≤ pathLimit := by
    unfold resolve at h
    cases hc : checkText p with
    | error e => rw [hc] at h; cases h
    | ok _ =>
      unfold checkText at hc
      split_ifs at hc with hn he hl
      exact ⟨hn, by omega⟩
  have hs : p.steps.Sublist (p.text.toList.splitOn '/') := by
    rw [← p.filter_splitOn]
    exact List.filter_sublist
  have hj := Text.intercalate_sublist '/' hs
  rw [List.intercalate_splitOn] at hj
  have hl := String.utf8Len_le_of_sublist hj
  rw [String.utf8Len_toList, ← String.utf8ByteSize_ofList] at hl
  exact decide_eq_true ⟨Path.nul_not_mem_iff.mp hp.1, hl.trans hp.2⟩

theorem readText_eq_ok_iff {t : FileTree} {p : Path} {text : String} :
    t.readText p = .ok text ↔ ∃ l content, t.resolve p = .ok l ∧
      t.find? l = some (.file content) ∧ String.fromUTF8? content = some text := by
  unfold readText read
  cases t.resolve p with
  | error e => simp
  | ok l =>
    cases hf : t.find? l with
    | none => simp [hf]
    | some entry =>
      cases entry with
      | directory => simp [hf]
      | file content => cases hc : String.fromUTF8? content <;> simp [hf, hc]

theorem text?_eq_some_iff {t : FileTree} {p : Path} {text : String} :
    t.text? p = some text ↔ stepsFit p = true ∧ ∃ l content, t.place? p = some l ∧
      t.find? l = some (.file content) ∧ String.fromUTF8? content = some text := by
  unfold text?
  cases hp : (t.place? p).bind t.find? with
  | none => simp_all [Option.bind_eq_none_iff]
  | some entry =>
    obtain ⟨l, hl, hf⟩ := Option.bind_eq_some_iff.mp hp
    cases entry <;> simp [hl, hf]

theorem nul_not_mem_of_text? {t : FileTree} {p : Path} {text : String}
    (h : t.text? p = some text) : '\x00' ∉ p.text.toList :=
  Path.nul_not_mem_iff.mpr (of_decide_eq_true (text?_eq_some_iff.mp h).1).1

theorem text?_of_readText {t : FileTree} {p : Path} {text : String}
    (h : t.readText p = .ok text) : t.text? p = some text := by
  obtain ⟨l, content, hr, hf, hc⟩ := readText_eq_ok_iff.mp h
  exact text?_eq_some_iff.mpr ⟨stepsFit_of_resolve hr, l, content, place?_of_resolve hr, hf, hc⟩

theorem text?_of_same {t : FileTree} {p q : Path} (h : p.same q = true) :
    t.text? p = t.text? q := by
  unfold text? stepsFit
  rw [place?_of_same h, (Path.parts_of_same h).2]

theorem exists_of_text? {t : FileTree} {p : Path} {text : String} (h : t.text? p = some text) :
    ∃ location content, (location, .file content) ∈ t.entries ∧
      String.fromUTF8? content = some text := by
  obtain ⟨-, location, content, -, hf, hc⟩ := text?_eq_some_iff.mp h
  unfold find? at hf
  split at hf
  · cases hf
  · exact ⟨location, content, Entries.mem_of_lookup hf, hc⟩

end Scaffold.FileTree
