import Scaffold.CommandLine
import Scaffold.Proofs.Path.Stripping
import Scaffold.Proofs.Project.Confinement
import Scaffold.Proofs.Project.Overwriting
import Scaffold.Proofs.TypeScript.Controllers

/-! What is listed of a run. The lines can be read back: each written path is found again from the
directory of the project, with a mark if there was a source before, and the services add up to those
of the configuration. -/
namespace Scaffold.CommandLine

open Generator Text

/-- The word in front of the paths that an action lists. -/
def Action.verb : Action → String
  | .generate => "Wrote"
  | .check => "Would write"

/-- What an action reports on the project in a directory. -/
def Action.report (action : Action) (g : Generator) (tree : FileTree) (directory : Path) :
    Except GenerationError Report :=
  match action with
  | .generate => (g.generate tree directory).2
  | .check => g.check tree directory

theorem run_action (g : Generator) (tree : FileTree) (action : Action) (directory : Option Path)
    (isVerbose : Bool) :
    (run g tree (.run action directory isVerbose)).2 =
      outcome action action.verb (directory.getD (currentDirectory tree))
        (action.report g tree (directory.getD (currentDirectory tree))) := by
  cases action <;> rfl

variable {path : Path} {verb text : String}

/-- What stands behind a path at which there was a source. -/
def mark : String := " (overwrite)"

/-- The path on a line: what stands between the verb and the mark, if there is one. -/
def shownPath (verb line : String) : Path :=
  let shown := line.toList.drop (verb.length + 1)
  ⟨String.ofList (if Ends mark line then shown.take (shown.length - mark.length) else shown)⟩

theorem drop_line (verb text : String) :
    (verb ++ " " ++ text).toList.drop (verb.length + 1) = text.toList := by
  have hlength : (verb ++ " ").toList.length = verb.length + 1 := by
    rw [String.length_toList, String.length_append]
    rfl
  rw [String.toList_append, ← hlength, List.drop_left]

/-- What is put together as a line is read from it, if the path alone does not end in a mark. -/
theorem shownPath_line (h : ¬Ends mark (verb ++ " " ++ text)) (isMarked : Bool) :
    shownPath verb (verb ++ " " ++ text ++ if isMarked then mark else "") = ⟨text⟩ ∧
      (Ends mark (verb ++ " " ++ text ++ if isMarked then mark else "") ↔ isMarked = true) := by
  unfold shownPath
  dsimp only
  cases isMarked with
  | true =>
    have hends : Ends mark (verb ++ " " ++ text ++ mark) := ends_append _ mark
    have hmark : mark.toList.length = mark.length := String.length_toList
    have hshown : (verb ++ " " ++ text ++ mark).toList.drop (verb.length + 1) =
        text.toList ++ mark.toList := by
      rw [String.append_assoc, drop_line, String.toList_append]
    refine ⟨?_, iff_of_true hends rfl⟩
    rw [if_pos rfl, if_pos hends, hshown, List.length_append, hmark, Nat.add_sub_cancel,
      List.take_left, String.ofList_toList]
  | false =>
    rw [if_neg Bool.false_ne_true, String.append_empty, if_neg h, drop_line, String.ofList_toList]
    exact ⟨rfl, iff_of_false h Bool.false_ne_true⟩

/-- A line that ends as the text of a source does, or right behind the verb, bears no mark. -/
theorem not_ends_mark (hp : path.text.toList.getLast? = some 's')
    (h : text.toList <:+ path.text.toList) : ¬Ends mark (verb ++ " " ++ text) := by
  rintro ⟨front, hfront⟩
  have hlast : (verb ++ " " ++ text).toList.getLast? = some ')' := by
    rw [← hfront, List.getLast?_append]
    rfl
  rw [String.toList_append, List.getLast?_append] at hlast
  rcases List.eq_nil_or_concat' text.toList with hn | ⟨others, c, hc⟩
  · rw [hn, String.toList_append, List.getLast?_append] at hlast
    cases hlast
  · obtain ⟨before, hbefore⟩ := h
    rw [← hbefore, List.getLast?_append, hc, List.getLast?_concat] at hp
    rw [hc, List.getLast?_concat] at hlast
    cases hp
    cases hlast

/-- What a line tells of a written path. -/
structure Tells (verb : String) (directory : Path) (report : Report) (path : Path) (line : String) :
    Prop where
  text : line = verb ++ " " ++ (shownPath verb line).text ++ if Ends mark line then mark else ""
  /-- From the directory, the path on the line leads to the written one. -/
  leads : (directory.join (shownPath verb line)).same path = true
  marked : Ends mark line ↔ path ∈ report.overwritten
  spelled : path ∈ report.overwritten ↔ report.overwritten.any path.same = true

variable {tree : FileTree} {directory : Path} {report : Report} {existing : List Path}

theorem mem_overwritten_iff
    (ho : report.overwritten = report.written.filter fun path => existing.any path.same)
    (hm : path ∈ report.written) :
    path ∈ report.overwritten ↔ report.overwritten.any path.same = true := by
  rw [ho, List.any_eq_true]
  constructor
  · exact fun h => ⟨path, h, path.same_refl⟩
  · rintro ⟨other, hother, hsame⟩
    obtain ⟨source, hs, hsource⟩ := List.any_eq_true.mp (List.mem_filter.mp hother).2
    exact List.mem_filter.mpr ⟨hm, List.any_eq_true.mpr ⟨source, hs, Path.same_trans hsame hsource⟩⟩

theorem tells_writtenLine (verb : String)
    (ho : report.overwritten = report.written.filter fun path => existing.any path.same)
    (hm : path ∈ report.written) (he : EndsInExtension path) (hj : ∃ q, path = directory.join q) :
    Tells verb directory report path (writtenLine verb directory report path) := by
  have hmem := mem_overwritten_iff ho hm
  have hlast : path.text.toList.getLast? = some 's' := by
    obtain ⟨front, hfront⟩ := he
    rw [← hfront, List.getLast?_append]
    rfl
  have hsuffix := Path.text_getD_isSuffix directory he.not_idle
  have hunmarked : ¬Ends mark (verb ++ " " ++ ((Path.stripBase? directory path).getD path).text) :=
    not_ends_mark hlast hsuffix
  have hsame : (directory.join ((Path.stripBase? directory path).getD path)).same path = true := by
    obtain ⟨q, rfl⟩ := hj
    exact Path.same_join_getD directory q
  obtain ⟨hshown, hends⟩ := shownPath_line hunmarked (report.overwritten.any path.same)
  constructor
  case text =>
    have hmarks := if_congr hends (rfl : mark = mark) (rfl : "" = "")
    exact (congrArg₂ (fun (shown : Path) note => verb ++ " " ++ shown.text ++ note) hshown
      hmarks).symm
  case leads => exact hshown.symm ▸ hsame
  case marked => exact hends.trans hmem.symm
  case spelled => exact hmem

theorem isLine_writtenLine (hv : IsLine verb) (he : EndsInExtension path) (hl : IsLine path.text) :
    IsLine (writtenLine verb directory report path) := by
  have hsuffix := Path.text_getD_isSuffix directory he.not_idle
  have hshown : IsLine ((Path.stripBase? directory path).getD path).text := fun hm =>
    hl (hsuffix.subset hm)
  have hmark : IsLine (if report.overwritten.any path.same then " (overwrite)" else "") := by
    split <;> decide
  unfold writtenLine
  simp only [isLine_append]
  exact ⟨⟨⟨hv, by decide⟩, hshown⟩, hmark⟩

theorem isLine_skippedLine {name : String} (h : IsLine name) : IsLine (skippedLine name) := by
  unfold skippedLine
  simp only [isLine_append]
  exact ⟨⟨by decide, h⟩, by decide⟩

theorem isLine_countLine (report : Report) : IsLine (countLine report) := by
  unfold countLine
  simp only [isLine_append]
  exact ⟨⟨⟨isLine_toString _, by decide⟩, isLine_toString _⟩, by decide⟩

theorem isLine_of_mem_listing (hv : IsLine verb)
    (he : ∀ path ∈ report.written, EndsInExtension path)
    (hpaths : ∀ path ∈ report.written, IsLine path.text)
    (hnames : ∀ name ∈ report.skipped, IsLine name) :
    ∀ line ∈ listing verb directory report, IsLine line := by
  unfold listing
  refine List.forall_mem_append.mpr ⟨List.forall_mem_append.mpr ⟨?_, ?_⟩, ?_⟩
  · exact List.forall_mem_map.mpr fun path hm => isLine_writtenLine hv (he path hm) (hpaths path hm)
  · exact List.forall_mem_map.mpr fun name hm => isLine_skippedLine (hnames name hm)
  · exact List.forall_mem_singleton.mpr (isLine_countLine report)

/-- What a report of a run says: where the files go, which of them were there, and that each service
of the configuration was generated or skipped. -/
theorem exists_config_of_report {schema : Schema} {action : Action}
    (h : action.report ⟨schema, .standard⟩ tree directory = .ok report) :
    ∃ (config : Config) (existing : List Path),
      Config.find schema tree directory = .ok config ∧
      report.generated.length + report.skipped.length = config.services.length ∧
      (report.overwritten = report.written.filter fun path => existing.any path.same) ∧
      ∀ path ∈ report.written, EndsInExtension path ∧ ∃ q, path = directory.join q := by
  have hrun : check ⟨schema, .standard⟩ tree directory = .ok report ∨
      (generate ⟨schema, .standard⟩ tree directory).2 = .ok report := by
    cases action with
    | generate => exact .inr h
    | check => exact .inl h
  obtain ⟨files, hprepare⟩ := exists_prepare_of_run hrun
  have hloaded := hprepare
  obtain ⟨config, hconfig, hsummary⟩ := exists_summary_of_prepareWith hloaded
  obtain ⟨_, existing, _, _, _, _, _, _, _, hreport⟩ := prepare_eq_ok_iff.mp hprepare
  refine ⟨config, existing, hconfig, ?_, ?_, fun path hm => ⟨?_, ?_⟩⟩
  · rw [hsummary.generated, hsummary.skipped, List.length_map, List.length_map]
    exact (List.length_eq_length_filter_add _).symm
  · rw [hreport]
  · rw [hsummary.written] at hm
    obtain ⟨file, hfile, rfl⟩ := List.mem_map.mp hm
    exact endsInExtension_of_prepare hprepare file hfile
  · rw [hsummary.paths] at hm
    obtain ⟨name, -, rfl⟩ := List.mem_map.mp hm
    exact ⟨_, rfl⟩

/-- A run that succeeds lists each written path, each skipped service and the numbers of services, a
line for each. -/
theorem output_lines_of_run {schema : Schema} {action : Action} {asked : Option Path}
    (isVerbose : Bool) (hd : asked.getD (currentDirectory tree) = directory)
    (h : action.report ⟨schema, .standard⟩ tree directory = .ok report)
    (hpaths : ∀ path ∈ report.written, IsLine path.text)
    (hnames : ∀ name ∈ report.skipped, IsLine name) :
    ∃ config output found, Config.find schema tree directory = .ok config ∧
      (run ⟨schema, .standard⟩ tree (.run action asked isVerbose)).2 = ⟨0, output, none⟩ ∧
      lines output = found ++ report.skipped.map skippedLine ++
        [toString report.generated.length ++ " controller(s) from " ++
          toString config.services.length ++ " service(s)", ""] ∧
      List.Forall₂ (Tells action.verb directory report) report.written found := by
  obtain ⟨config, existing, hconfig, hcount, hover, hwritten⟩ := exists_config_of_report h
  have hrun := run_action ⟨schema, .standard⟩ tree action asked isVerbose
  rw [hd, h] at hrun
  have hverb : IsLine action.verb := by cases action <;> decide
  have hlisting : ∀ line ∈ listing action.verb directory report, IsLine line :=
    isLine_of_mem_listing hverb (fun path hm => (hwritten path hm).1) hpaths hnames
  refine ⟨config, _, report.written.map (writtenLine action.verb directory report), hconfig, hrun,
    ?_, ?_⟩
  · rw [lines_ended hlisting, listing, countLine, hcount, List.append_assoc]
    rfl
  · rw [List.forall₂_map_right_iff, List.forall₂_same]
    intro path hm
    obtain ⟨hextension, hjoin⟩ := hwritten path hm
    exact tells_writtenLine action.verb hover hm hextension hjoin

/-- A project with a source where its first file goes, and a service without operations. The
directory of its controllers is written from the root. -/
def listedTree : FileTree :=
  ⟨[], [(["p"], .directory), (["haku.yml", "p"], .file (
      "version: 1.0.0\ncompilation: \x7blanguage: ts, engine: \x7blib: x\x7d, directories: " ++
        "\x7brouting: r, controllers: /p/./src//c, useCases: u\x7d\x7d\n" ++
        "services: \x7ba: \x7bspecPath: a.json\x7d\x7d\n").toUTF8),
    (["a.json", "p"], .file ("\x7b\"openapi\":\"3.0.0\",\"info\":\x7b\"title\":\"t\"," ++
      "\"version\":\"v\"\x7d,\"paths\":\x7b\x7d\x7d").toUTF8),
    (["src", "p"], .directory), (["c", "src", "p"], .directory),
    (["interfaces.ts", "c", "src", "p"], .file "".toUTF8)]⟩

def listedReport : Report where
  written := [⟨"/p/./src//c/interfaces.ts"⟩, ⟨"/p/./src//c/validation.ts"⟩]
  overwritten := [⟨"/p/./src//c/interfaces.ts"⟩]
  generated := []
  skipped := ["a"]
  skippedEntries := 0

theorem output_lines_listedTree :
    Action.check.report .standard listedTree ⟨"/p/"⟩ = .ok listedReport ∧
    (∀ path ∈ listedReport.written, IsLine path.text) ∧
    (∀ name ∈ listedReport.skipped, IsLine name) ∧
    ∃ output found,
      (run .standard listedTree (.run .check (some ⟨"/p/"⟩) false)).2 = ⟨0, output, none⟩ ∧
      lines output = found ++ ["Skipped service 'a': no operations declared",
        "0 controller(s) from 1 service(s)", ""] ∧
      List.Forall₂ (Tells "Would write" ⟨"/p/"⟩ listedReport) listedReport.written found := by
  have hsome : (Action.check.report .standard listedTree ⟨"/p/"⟩).toOption = some listedReport := by
    decide +kernel
  have hreport : Action.check.report .standard listedTree ⟨"/p/"⟩ = .ok listedReport := by
    cases hr : Action.check.report .standard listedTree ⟨"/p/"⟩ with
    | error e =>
      rw [hr] at hsome
      cases hsome
    | ok report =>
      rw [hr] at hsome
      rw [Option.some.inj hsome]
  have hpaths : ∀ path ∈ listedReport.written, IsLine path.text := by decide
  have hnames : ∀ name ∈ listedReport.skipped, IsLine name := by decide
  have hasked : (some ⟨"/p/"⟩ : Option Path).getD (currentDirectory listedTree) = ⟨"/p/"⟩ := rfl
  obtain ⟨config, output, found, hconfig, hrun, hlines, htells⟩ :=
    output_lines_of_run false hasked hreport hpaths hnames
  obtain ⟨other, -, hother, hservices, -, -⟩ := exists_config_of_report hreport
  have hcount : config.services.length = 1 := by
    rw [Except.ok.inj (hconfig.symm.trans hother), ← hservices]
    rfl
  have hlast : listedReport.skipped.map skippedLine ++
      [toString listedReport.generated.length ++ " controller(s) from " ++ toString 1 ++
        " service(s)", ""] =
      ["Skipped service 'a': no operations declared", "0 controller(s) from 1 service(s)", ""] := by
    decide +kernel
  rw [hcount, List.append_assoc, hlast] at hlines
  exact ⟨hreport, hpaths, hnames, output, found, hrun, hlines, htells⟩

end Scaffold.CommandLine
