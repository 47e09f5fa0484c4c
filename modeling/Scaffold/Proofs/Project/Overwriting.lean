import Scaffold.Proofs.Output.Sources
import Scaffold.Proofs.Project.Regeneration

/-! Which files a run reports as overwritten. Only the sources of the project are looked through, so
that a file is reported if its path is spelled as one of theirs, and missed if it is not. -/
namespace Scaffold.Generator

open FileTree Source Output

variable {g : Generator} {tree : FileTree} {directory p : Path} {files : List OutputFile}
  {report : Report}

theorem exists_prepare_of_run (h : g.check tree directory = .ok report ∨
    (g.generate tree directory).2 = .ok report) :
    ∃ files, g.prepare tree directory = .ok (files, report) := by
  rcases h with h | h
  · unfold check at h
    cases hp : g.prepare tree directory with
    | error e =>
      rw [hp] at h
      cases h
    | ok prepared =>
      rw [hp] at h
      exact ⟨prepared.1, by rw [← Except.ok.inj h]⟩
  · obtain ⟨files, hp, -⟩ := generate_eq_ok_iff.mp (Prod.ext rfl h)
    exact ⟨files, hp⟩

/-- Of the written paths, those are reported that are spelled as sources and lead to a file. -/
theorem overwritten_of_prepare (ht : tree.WellFormed)
    (h : g.prepare tree directory = .ok (files, report)) :
    report.overwritten =
      report.written.filter fun p => IsSource directory p ∧ holdsFile tree p := by
  obtain ⟨config, existing, backend, progress, hc, he, -, -, -, rfl⟩ := prepare_eq_ok_iff.mp h
  obtain ⟨place, hd, hplace⟩ := exists_place_of_find hc
  refine List.filter_congr fun p _ => ?_
  rw [Bool.eq_iff_iff, any_same_existingFiles ht hd hplace he, decide_eq_true_iff]

/-- A path with the extension leads to a file by its components if and only if that file can be
read, unless its text is too long. -/
theorem holdsFile_iff_read (h : EndsInExtension p) (hc : checkText p = .ok ()) :
    holdsFile tree p = true ↔ (tree.read p).isOk = true := by
  obtain ⟨before, last, hsplit, hlast⟩ := h.exists_splitOn
  have hidle : Path.isIdle last = false := not_idle_of_extension hlast
  rw [holdsFile_iff]
  constructor
  · rintro ⟨l, content, hl, hf⟩
    have hresolve := resolve_of_last hc hsplit hidle hl
    simp only [FileTree.read, hresolve, hf]
    rfl
  · intro hread
    cases hr : tree.resolve p with
    | error e =>
      rw [FileTree.read, hr] at hread
      cases hread
    | ok l =>
      simp only [FileTree.read, hr] at hread
      split at hread
      · next content hf => exact ⟨l, content, place?_of_resolve hr, hf⟩
      · cases hread
      · cases hread

/-- A run reports the written paths that are spelled as sources and lead to a file. These are all at
which there is a file if and only if no other written path leads to one. That a path leads to a file
means that the file can be read, unless the text of the path is too long, and it is not when files
have been written. -/
theorem overwritten_of_run {schema : Schema} (ht : tree.WellFormed)
    (h : check ⟨schema, .standard⟩ tree directory = .ok report ∨
      (generate ⟨schema, .standard⟩ tree directory).2 = .ok report) :
    (report.overwritten =
        report.written.filter fun p => IsSource directory p ∧ holdsFile tree p) ∧
      (report.overwritten = report.written.filter (holdsFile tree ·) ↔
        ∀ p ∈ report.written, holdsFile tree p = true → IsSource directory p) ∧
      (∀ p ∈ report.written, checkText p = .ok () →
        (holdsFile tree p = true ↔ (tree.read p).isOk = true)) ∧
      ((generate ⟨schema, .standard⟩ tree directory).2 = .ok report →
        ∀ p ∈ report.written, checkText p = .ok ()) := by
  obtain ⟨files, hp⟩ := exists_prepare_of_run h
  have hover := overwritten_of_prepare ht hp
  have hwritten : report.written = files.map (·.path) := by
    obtain ⟨_, _, _, _, _, _, _, _, _, rfl⟩ := prepare_eq_ok_iff.mp hp
    rfl
  refine ⟨hover, ⟨fun hall p hm hf => ?_, fun hall => ?_⟩, fun p hm hc => ?_, fun hg p hm => ?_⟩
  · have hin : p ∈ report.overwritten := hall ▸ List.mem_filter.mpr ⟨hm, hf⟩
    rw [hover] at hin
    exact (of_decide_eq_true (List.mem_filter.mp hin).2).1
  · rw [hover]
    refine List.filter_congr fun p hm => ?_
    rw [Bool.eq_iff_iff, decide_eq_true_iff]
    exact ⟨fun h => h.2, fun hf => ⟨hall p hm hf, hf⟩⟩
  · rw [hwritten] at hm
    obtain ⟨file, hfile, rfl⟩ := List.mem_map.mp hm
    exact holdsFile_iff_read (endsInExtension_of_prepare hp file hfile) hc
  · obtain ⟨files', hp', hw⟩ := generate_eq_ok_iff.mp (Prod.ext rfl hg)
    obtain rfl : files' = files := (Prod.mk.inj (Except.ok.inj (hp'.symm.trans hp))).1
    rw [hwritten] at hm
    obtain ⟨l, hl, -⟩ := (written_of_write ht hw).exists_place p hm
    exact checkText_of_resolve hl

private theorem check_of_find {config : Config} {existing : List Path}
    (hc : Config.find Generator.standard.schema tree directory = .ok config)
    (hs : config.services = []) (he : existingFiles tree directory = .ok existing)
    (hl : config.compilation.language = "ts")
    (hf : (Backend.typeScript.shared config.compilation.directories.controllers).mapM
      (renderFile .typeScript directory) = .ok files) :
    check .standard tree directory = .ok
      { written := files.map (·.path)
        overwritten := (files.map (·.path)).filter fun path => existing.any path.same
        generated := [], skipped := [], skippedEntries := 0 } := by
  have hbackend : Generator.standard.backends.ofName? config.compilation.language =
      some .typeScript := by
    have hlanguage : Language.ofName? "ts" = some .typeScript :=
      Config.ofName?_fileExtension .typeScript
    rw [hl, Backends.ofName?, hlanguage]
    rfl
  have hprepare := prepare_eq_ok_iff.mpr
    ⟨config, existing, .typeScript, _, hc, he, hbackend, by rw [hs]; rfl, hf, rfl⟩
  rw [check, hprepare]
  rfl

private theorem find_of_resolve {text : String} {config : Config} {l : Location}
    (hr : tree.resolve (directory.join ⟨"haku.yml"⟩) = .ok l)
    (hl : tree.find? l = some (.file text.toUTF8))
    (hc : Config.ofText Config.Constraints.schema text = .ok config) :
    Config.find Generator.standard.schema tree directory = .ok config := by
  rw [Config.find, Config.candidates, Config.findIn_of_readText _ (readText_of_resolve hr hl),
    Config.read, standard, hc]
  rfl

/-- A project with one of its files among its sources. -/
def sourceTree : FileTree :=
  ⟨[], [(["p"], .directory), (["haku.yml", "p"], .file rootedText.toUTF8),
    (["src", "p"], .directory), (["inner", "src", "p"], .directory),
    (["interfaces.ts", "inner", "src", "p"], .file "".toUTF8)]⟩

theorem overwritten_sourceTree : ∃ report, check .standard sourceTree ⟨"/p"⟩ = .ok report ∧
    report.overwritten = [⟨"/p/src/inner/interfaces.ts"⟩] ∧
    report.overwritten = report.written.filter (holdsFile sourceTree ·) := by
  have hwell : sourceTree.WellFormed := by decide
  have hresolve : sourceTree.resolve ((⟨"/p"⟩ : Path).join ⟨"haku.yml"⟩) =
      .ok ["haku.yml", "p"] := by
    decide
  have hfind := find_of_resolve hresolve rfl ofText_rootedText
  have hexisting : existingFiles sourceTree ⟨"/p"⟩ = .ok [⟨"/p/src/inner/interfaces.ts"⟩] := by
    have hbelow : filesBelow sourceTree 6 ((⟨"/p"⟩ : Path).join ⟨"src"⟩) =
        .ok [⟨"/p/src/inner/interfaces.ts"⟩] := by
      decide
    have hdepth : sourceTree.entries.length + 1 = 6 := by rfl
    rw [existingFiles_eq, hdepth, hbelow]
    simp [Except.map]
  have hfiles := mapM_renderFile_rooted ⟨"/p"⟩
  have hcheck := check_of_find hfind rfl hexisting rfl hfiles
  obtain ⟨-, hall, -⟩ := overwritten_of_run hwell (.inl hcheck)
  rw [paths_of_renderFiles hfiles] at hcheck hall
  refine ⟨_, hcheck, by decide, hall.mpr ?_⟩
  decide

/-- The text of a configuration without services, with controllers outside of the sources. -/
def outsideText : String :=
  "version: 1.0.0\ncompilation: \x7blanguage: ts, engine: \x7blib: express\x7d, directories: " ++
    "\x7brouting: r, controllers: lib, useCases: u\x7d\x7d\nservices: \x7b\x7d\n"

def outsideConfig : Config :=
  ⟨"1.0.0", ⟨"ts", "express", ⟨⟨"r"⟩, ⟨"lib"⟩, ⟨"u"⟩⟩⟩, []⟩

/-- A project with a file where its controllers go, outside of its sources. -/
def outsideTree : FileTree :=
  ⟨[], [(["p"], .directory), (["haku.yml", "p"], .file outsideText.toUTF8),
    (["lib", "p"], .directory), (["interfaces.ts", "lib", "p"], .file "".toUTF8)]⟩

/-- That file is there and would be written, but it is not reported, as it lies outside of the
sources. -/
theorem overwritten_outsideTree : outsideTree.WellFormed ∧
    check .standard outsideTree ⟨"p"⟩ = .ok
      { written := [⟨"p/lib/interfaces.ts"⟩, ⟨"p/lib/validation.ts"⟩], overwritten := []
        generated := [], skipped := [], skippedEntries := 0 } ∧
    (outsideTree.read ⟨"p/lib/interfaces.ts"⟩).isOk = true := by
  obtain ⟨hexisting, hconfig, hrendered⟩ : existingFiles outsideTree ⟨"p"⟩ = .ok [] ∧
      Config.ofText Config.Constraints.schema outsideText = .ok outsideConfig ∧
      ((Backend.typeScript.shared ⟨"lib"⟩).mapM (renderFile .typeScript ⟨"p"⟩)).isOk = true := by
    decide +kernel
  have hresolve : outsideTree.resolve ((⟨"p"⟩ : Path).join ⟨"haku.yml"⟩) =
      .ok ["haku.yml", "p"] := by
    decide
  have hfind := find_of_resolve hresolve rfl hconfig
  cases hfiles : (Backend.typeScript.shared ⟨"lib"⟩).mapM (renderFile .typeScript ⟨"p"⟩) with
  | error e =>
    rw [hfiles] at hrendered
    cases hrendered
  | ok files =>
    have hcheck := check_of_find hfind rfl hexisting rfl hfiles
    rw [paths_of_renderFiles hfiles] at hcheck
    exact ⟨by decide, hcheck, by decide⟩

end Scaffold.Generator
