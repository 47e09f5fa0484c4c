import Scaffold.Proofs.Output.Scanning
import Scaffold.Proofs.Output.Written

/-! Looking through the sources of a project once files have been written. A directory that was made
for a path that is spelled from the directory of the project is come to by a path that is no longer
than that one. -/
namespace Scaffold.Output

open FileTree

variable {tree after : FileTree} {paths : List Path} {root : Path} {place : Location}
  {names : List String}

theorem startOf_of_mem_ancestors {p q : Path} (h : p ∈ (directoryOf q).ancestors)
    (hsteps : p.steps ≠ []) : after.startOf p = after.startOf q := by
  have hempty : p.isEmpty = false := by
    by_contra he
    have htext : p = ⟨""⟩ := congrArg Path.mk (by simpa [Path.isEmpty] using he)
    exact hsteps (htext ▸ rfl)
  obtain ⟨hfront, habs⟩ := (Path.front_of_mem_ancestors h).2 hempty
  have hne : (directoryOf q).steps ≠ [] := fun hn => hsteps (List.prefix_nil.mp (hn ▸ hfront))
  unfold startOf
  rw [habs, isAbsolute_directoryOf hne]

/-- A path that leads to something new has steps: where it starts, a directory always was. -/
theorem steps_ne_nil_of_new {p : Path} {l : Location} (ht : tree.WellFormed)
    (hd : tree.DirectoriesIn after) (hr : after.resolve p = .ok l) (hnew : tree.find? l = none) :
    p.steps ≠ [] := by
  intro hnil
  have hwalk := place?_eq_some.mp (place?_of_resolve hr)
  rw [hnil, hd.startOf] at hwalk
  have hstart := ht.find?_isSome_of_startOf p
  rw [Except.ok.inj hwalk, hnew] at hstart
  cases hstart

/-- Steps to something new go on behind the steps to a directory that was there. -/
theorem prefix_of_walk_new {start l : Location} {front steps more : List (List Char)}
    (ht : tree.WellFormed) (hw : Written tree after paths) (hstart : (tree.find? start).isSome)
    (hfront : tree.walk start front = .ok place) (hsteps : after.walk start steps = .ok l)
    (hnew : tree.find? l = none) (hp : steps <+: front ++ more) : front <+: steps := by
  refine (List.prefix_or_prefix_of_prefix hp (List.prefix_append _ _)).resolve_left ?_
  rintro ⟨rest, rfl⟩
  obtain ⟨m, hm, -⟩ := walk_append_eq_ok.mp hfront
  have hsome := ht.find?_isSome_of_walk hstart hm
  have hwalk := hw.directoriesIn.walk hm (hw.find?_isSome hsome)
  obtain rfl := Except.ok.inj (hwalk.symm.trans hsteps)
  rw [hnew] at hsome
  cases hsome

/-- Names that stand in a path one after the other make a path with no more text. -/
theorem text_descend_sublist {rel : Path} {name : String} (hrel : rel.isAbsolute = false)
    (hn : ∀ other ∈ name :: names, IsName other)
    (hs : ((name :: names).map String.toList).Sublist (rel.text.toList.splitOn '/')) :
    (descend (root.join ⟨name⟩) names).text.toList.Sublist (root.join rel).text.toList := by
  have htext := text_descend root hn (List.cons_ne_nil _ _)
  rw [descend, List.foldl_cons, ← descend] at htext
  have hjoined := Text.intercalate_sublist '/' hs
  rw [List.intercalate_splitOn] at hjoined
  rw [htext, Path.text_join root hrel]
  exact (List.Sublist.refl _).append hjoined

/-- A directory below the sources that was made has been made for some path. If that is spelled from
the directory of the project, a scan comes to the directory by a path that fits. -/
theorem exists_of_new_directory (ht : tree.WellFormed) (hw : Written tree after paths)
    (hd : tree.place? root = some place) (hplace : tree.isDirectoryAt place)
    (hdir : after.isDirectoryAt (names.reverse ++ "src" :: place))
    (hnew : tree.find? (names.reverse ++ "src" :: place) = none) :
    ∃ q ∈ paths, ∀ rel : Path, rel.isAbsolute = false → q = root.join rel →
      checkText (descend (root.join ⟨"src"⟩) names) = .ok () := by
  obtain ⟨q, hq, p, hp, hlies⟩ := hw.exists_liesAt_of_made hdir hnew
  refine ⟨q, hq, fun rel hrel hspelled => ?_⟩
  have hwalk := place?_eq_some.mp (place?_of_resolve hlies.resolve)
  have hsteps := steps_ne_nil_of_new ht hw.directoriesIn hlies.resolve hnew
  have hfront := steps_of_mem_ancestors hp (isEmpty_of_liesAt hlies)
  rw [startOf_of_mem_ancestors hp hsteps, hspelled, startOf_join hrel,
    hw.directoriesIn.startOf] at hwalk
  rw [hspelled, Path.steps_join hrel] at hfront
  have hroot := place?_eq_some.mp hd
  obtain ⟨steps, hsplit⟩ : root.steps <+: p.steps :=
    prefix_of_walk_new ht hw (ht.find?_isSome_of_startOf root) hroot hwalk hnew hfront
  rw [← hsplit] at hwalk hfront
  rw [walk_append_of_ok (hw.walk_of_isDirectoryAt hroot hplace)] at hwalk
  -- The names are among the steps behind the root, and these among the components of the path.
  have hsublist : (("src" :: names).map String.toList).Sublist steps := by
    have hend : after.walk place steps = .ok ((names.reverse ++ ["src"]) ++ place) := by
      simpa using hwalk
    simpa using sublist_of_walk hend le_rfl
  have hbehind : steps.Sublist (rel.text.toList.splitOn '/') := by
    have hrest := ((List.prefix_append_right_inj _).mp hfront).sublist
    rw [← rel.filter_splitOn] at hrest
    exact hrest.trans List.filter_sublist
  have hnames : ∀ name ∈ "src" :: names, IsName name := fun name hm =>
    hw.wellFormed.names _
      (List.mem_map_of_mem (mem_of_find? (isDirectoryAt_iff.mp hdir) (by simp))) name <| by
        rcases List.mem_cons.mp hm with rfl | hm <;> simp [*]
  obtain ⟨l, hl, -⟩ := hw.exists_place q hq
  rw [hspelled] at hl
  refine checkText_of_sublist (text_descend_sublist hrel hnames (hsublist.trans hbehind)) ?_
    (checkText_of_resolve hl)
  exact descend_isEmpty (isName_src.join_isEmpty root) fun name hm =>
    hnames name (List.mem_cons_of_mem _ hm)

/-- Once files have been written, the sources can be looked through again, unless a directory among
them is come to by a path that is too long. Such a directory was made for a path that is not spelled
from the directory of the project. -/
theorem existingFiles_of_written (ht : tree.WellFormed) (hw : Written tree after paths)
    (hd : tree.place? root = some place) (hplace : tree.isDirectoryAt place)
    (hsrc : ∀ q ∈ paths, after.resolve q ≠ .ok ("src" :: place))
    {files : List Path} (h : existingFiles tree root = .ok files) :
    (∃ files', existingFiles after root = .ok files' ∧
        ∀ names, after.isDirectoryAt (names.reverse ++ "src" :: place) →
          (descend (root.join ⟨"src"⟩) names).text.utf8ByteSize ≤ pathLimit) ∨
      ∃ names, after.isDirectoryAt (names.reverse ++ "src" :: place) ∧
        pathLimit < (descend (root.join ⟨"src"⟩) names).text.utf8ByteSize ∧
        existingFiles after root = .error ⟨descend (root.join ⟨"src"⟩) names, .nameTooLong⟩ ∧
        ∃ q ∈ paths, ∀ rel : Path, rel.isAbsolute = false → q ≠ root.join rel := by
  obtain ⟨hc, hfile, hfits⟩ := fits_of_existingFiles ht hd hplace h
  have hd' := hw.directoriesIn.place? hd hplace
  have hplace' := hw.directoriesIn.isDirectoryAt _ hplace
  cases he : existingFiles after root with
  | ok files' =>
    obtain ⟨-, -, hall⟩ := fits_of_existingFiles hw.wellFormed hd' hplace' he
    exact .inl ⟨files', rfl, fun names hdir => (checkText_eq_ok_iff.mp (hall names hdir)).2.2⟩
  | error e =>
    have hfile' : ∀ content, after.find? ("src" :: place) ≠ some (.file content) := by
      intro content hf
      rcases hw.new _ _ hf with hold | ⟨q, hq, hres⟩ | ⟨hdir, -⟩
      · exact hfile content hold
      · exact hsrc q hq hres
      · cases hdir
    obtain ⟨names, hdir, rfl, hlong⟩ :=
      exists_of_existingFiles_eq_error hw.wellFormed hd' hplace' hc hfile' he
    have hnot : checkText (descend (root.join ⟨"src"⟩) names) ≠ .ok () :=
      fun hfit => Nat.not_le.mpr hlong (checkText_eq_ok_iff.mp hfit).2.2
    have hnew : tree.find? (names.reverse ++ "src" :: place) = none :=
      (hw.isDirectoryAt_or_find?_eq_none hdir).resolve_left fun hold => hnot (hfits names hold)
    obtain ⟨q, hq, hspelled⟩ := exists_of_new_directory ht hw hd hplace hdir hnew
    exact .inr ⟨names, hdir, hlong, rfl, q, hq, fun rel hrel he => hnot (hspelled rel hrel he)⟩

end Scaffold.Output
