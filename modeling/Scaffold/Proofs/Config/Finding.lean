import Scaffold.Config.Load
import Scaffold.Proofs.Except
import Scaffold.Proofs.Output.Written

/-! Where a configuration is looked for: at one candidate after the other, up to the first that is
there. It is found again as long as nothing was written to these paths. -/
namespace Scaffold.Config

open FileTree Output

variable {tree after : FileTree} {paths : List Path} {directory : Path} {schema : Schema}
  {config : Config}

/-- The paths at which a configuration is looked for among some candidates. -/
def consultedIn (tree : FileTree) (directory : Path) : List String → List Path
  | [] => []
  | candidate :: rest =>
    directory.join ⟨candidate⟩ ::
      if tree.readText (directory.join ⟨candidate⟩) = .error .notFound then
        consultedIn tree directory rest
      else []

/-- The paths at which the configuration of a project is looked for. -/
def consulted (tree : FileTree) (directory : Path) : List Path :=
  consultedIn tree directory candidates

theorem findIn_of_readText {name text : String} (rest : List String)
    (h : tree.readText (directory.join ⟨name⟩) = .ok text) :
    findIn schema tree directory (name :: rest) = read schema (directory.join ⟨name⟩) text := by
  unfold findIn
  dsimp only
  rw [h]

theorem findIn_of_notFound {name : String} (rest : List String)
    (h : tree.readText (directory.join ⟨name⟩) = .error .notFound) :
    findIn schema tree directory (name :: rest) = findIn schema tree directory rest := by
  conv_lhs => unfold findIn
  dsimp only
  rw [h]

/-- A configuration that is found is that of the first candidate, unless this one is missing. -/
theorem findIn_cons_cases {name : String} {rest : List String}
    (h : findIn schema tree directory (name :: rest) = .ok config) :
    (∃ text, tree.readText (directory.join ⟨name⟩) = .ok text ∧
        read schema (directory.join ⟨name⟩) text = .ok config) ∨
      tree.readText (directory.join ⟨name⟩) = .error .notFound ∧
        findIn schema tree directory rest = .ok config := by
  unfold findIn at h
  dsimp only at h
  split at h
  · next text ht => exact .inl ⟨text, ht, h⟩
  · next ht => exact .inr ⟨ht, h⟩
  · cases h

theorem exists_of_findIn {names : List String}
    (h : findIn schema tree directory names = .ok config) :
    ∃ name ∈ names, ∃ text, tree.readText (directory.join ⟨name⟩) = .ok text ∧
      read schema (directory.join ⟨name⟩) text = .ok config := by
  induction names with
  | nil => cases h
  | cons name rest ih =>
    rcases findIn_cons_cases h with hfirst | ⟨-, h⟩
    · exact ⟨name, List.mem_cons_self, hfirst⟩
    · obtain ⟨other, ho, htext⟩ := ih h
      exact ⟨other, List.mem_cons_of_mem _ ho, htext⟩

/-- The candidates before the one that was found are still missing, and that one is what it was. -/
theorem findIn_again {names : List String} (ht : tree.WellFormed) (hw : Written tree after paths)
    (hn : ∀ name ∈ names, '/' ∉ name.toList)
    (hu : ∀ p ∈ consultedIn tree directory names, Untouched tree after paths p)
    (h : findIn schema tree directory names = .ok config) :
    findIn schema after directory names = .ok config := by
  induction names with
  | nil => cases h
  | cons name rest ih =>
    obtain ⟨hname, hrest⟩ := List.forall_mem_cons.mp hn
    obtain ⟨hfirst, hothers⟩ := List.forall_mem_cons.mp hu
    rcases findIn_cons_cases h with ⟨text, hread, hconfig⟩ | ⟨hread, h⟩
    · rwa [findIn_of_readText rest (hw.readText ht hfirst hread)]
    · rw [if_pos hread] at hothers
      obtain ⟨other, ho, text, htext, -⟩ := exists_of_findIn h
      obtain ⟨l, hl⟩ := exists_resolve_of_readText htext
      have hmissing := hw.resolve_notFound (hrest other ho) hname hfirst hl
        (ht.resolve_of_readText hread)
      rw [findIn_of_notFound rest (readText_of_resolve_error hmissing)]
      exact ih hrest hothers h

/-- A configuration is found again when nothing was written where it was looked for. -/
theorem find_again (ht : tree.WellFormed) (hw : Written tree after paths)
    (hu : ∀ p ∈ consulted tree directory, Untouched tree after paths p)
    (h : find schema tree directory = .ok config) : find schema after directory = .ok config :=
  findIn_again ht hw (by decide) hu h

end Scaffold.Config
