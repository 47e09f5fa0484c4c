import Mathlib.Data.List.Nodup
import Scaffold.Output.Scan
import Scaffold.Proofs.Except
import Scaffold.Proofs.FileTree.Joining

/-! Looking through the sources of a project. It fails only at a directory whose path is written
with too long a text; all directories below the sources are come to, and the depth is always
enough. -/
namespace Scaffold.Output

open FileTree

variable {t : FileTree} {d : Path} {l m : Location} {name : String} {names : List String}

/-- The path to which names lead from a directory. -/
def descend (d : Path) (names : List String) : Path :=
  names.foldl (fun d name => d.join ⟨name⟩) d

theorem mem_childrenAt {e : Entry} : (name, e) ∈ t.childrenAt l ↔ (name :: l, e) ∈ t.entries := by
  unfold childrenAt
  rw [List.mem_filterMap]
  constructor
  · rintro ⟨⟨place, entry⟩, hm, h⟩
    cases place with
    | nil => cases h
    | cons first parent =>
      dsimp only at h
      split at h
      · next hp =>
        obtain ⟨rfl, rfl⟩ := Prod.mk.inj (Option.some.inj h)
        exact hp ▸ hm
      · cases h
  · intro hm
    exact ⟨_, hm, if_pos rfl⟩

section FilesAmong

variable {below : Path → Except ScanError (List Path)} {children : List (String × Entry)}

theorem filesAmong_cons (name : String) (entry : Entry) :
    filesAmong below d ((name, entry) :: children) =
      (match entry with
        | .file _ => .ok [d.join ⟨name⟩]
        | .directory => below (d.join ⟨name⟩)) >>= fun here =>
          filesAmong below d children >>= fun others => .ok (here ++ others) := by
  cases entry <;> rfl

theorem exists_of_filesAmong_eq_error {e : ScanError} (h : filesAmong below d children = .error e) :
    ∃ name, (name, .directory) ∈ children ∧ below (d.join ⟨name⟩) = .error e := by
  induction children with
  | nil => cases h
  | cons child rest ih =>
    obtain ⟨name, entry⟩ := child
    rw [filesAmong_cons] at h
    rcases Except.exists_of_bind_eq_error h with h | ⟨here, -, h⟩
    · cases entry with
      | file content => cases h
      | directory => exact ⟨name, List.mem_cons_self, h⟩
    · rcases Except.exists_of_bind_eq_error h with h | ⟨others, -, h⟩
      · obtain ⟨other, ho, he⟩ := ih h
        exact ⟨other, List.mem_cons_of_mem _ ho, he⟩
      · cases h

theorem exists_of_filesAmong_eq_ok {files : List Path} (h : filesAmong below d children = .ok files)
    (hm : (name, .directory) ∈ children) : ∃ here, below (d.join ⟨name⟩) = .ok here := by
  induction children generalizing files with
  | nil => cases hm
  | cons child rest ih =>
    obtain ⟨first, entry⟩ := child
    rw [filesAmong_cons] at h
    obtain ⟨here, hhere, h⟩ := Except.exists_of_bind_eq_ok h
    obtain ⟨others, hothers, -⟩ := Except.exists_of_bind_eq_ok h
    rcases List.mem_cons.mp hm with heq | hm
    · obtain ⟨rfl, rfl⟩ := Prod.mk.inj heq
      exact ⟨here, hhere⟩
    · exact ih hothers hm

end FilesAmong

/-- A path leads to a directory, unless it is written with too long a text. -/
structure Leads (t : FileTree) (d : Path) (l : Location) : Prop where
  no_nul : '\x00' ∉ d.text.toList
  isEmpty : d.isEmpty = false
  isDirectoryAt : t.isDirectoryAt l
  resolve : checkText d = .ok () → t.resolve d = .ok l

namespace Leads

theorem list (h : Leads t d l) : t.list d = if pathLimit < d.text.utf8ByteSize
    then .error .nameTooLong else .ok (t.childrenAt l) := by
  have hc := checkText_of_isEmpty h.no_nul h.isEmpty
  unfold FileTree.list
  split at hc
  · next hlong => rw [FileTree.resolve, hc, if_pos hlong]
  · next hfits =>
    rw [h.resolve hc, if_neg hfits]
    simp [h.isDirectoryAt]

theorem of_join (ht : t.WellFormed) (hd : t.place? d = some l) (hl : t.isDirectoryAt l)
    (hname : IsName name) (hn : t.isDirectoryAt (name :: l)) :
    Leads t (d.join ⟨name⟩) (name :: l) := by
  have hnul := hname.nul_not_mem_join (ht.nul_not_mem_of_place? hd)
  refine ⟨hnul, hname.join_isEmpty d, hn, fun hjoin => ?_⟩
  rw [resolve_join hd hl hname.no_slash hjoin]
  exact step_of_isName hname hl (by rw [isDirectoryAt_iff.mp hn]; rfl)

theorem join (ht : t.WellFormed) (h : Leads t d l) (hc : checkText d = .ok ())
    (hn : t.isDirectoryAt (name :: l)) : Leads t (d.join ⟨name⟩) (name :: l) := by
  have hmem := mem_of_find? (isDirectoryAt_iff.mp hn) (List.cons_ne_nil _ _)
  have hname := ht.names _ (List.mem_map_of_mem hmem) name List.mem_cons_self
  exact of_join ht (place?_of_resolve (h.resolve hc)) h.isDirectoryAt hname hn

theorem of_mem_childrenAt (ht : t.WellFormed) (h : Leads t d l) (hc : checkText d = .ok ())
    (hm : (name, .directory) ∈ t.childrenAt l) : Leads t (d.join ⟨name⟩) (name :: l) :=
  h.join ht hc (isDirectoryAt_iff.mpr (ht.find?_of_mem (mem_childrenAt.mp hm)))

/-- Below a directory, the files of its children are looked for, unless its path is too long. -/
theorem filesBelow_cases (h : Leads t d l) (depth : Nat) :
    (checkText d = .ok () ∧ filesBelow t (depth + 1) d =
        filesAmong (filesBelow t depth) d (t.childrenAt l)) ∨
      (pathLimit < d.text.utf8ByteSize ∧
        filesBelow t (depth + 1) d = .error ⟨d, .nameTooLong⟩) := by
  rw [filesBelow, h.list]
  by_cases hlong : pathLimit < d.text.utf8ByteSize
  · exact .inr ⟨hlong, by rw [if_pos hlong]⟩
  · refine .inl ⟨checkText_eq_ok_iff.mpr ⟨h.no_nul, h.isEmpty, Nat.not_lt.mp hlong⟩, ?_⟩
    rw [if_neg hlong]

/-- When the files below a directory are told, its path fits and they are those of its children. -/
theorem of_filesBelow_eq_ok {depth : Nat} {files : List Path} (h : Leads t d l)
    (hfiles : filesBelow t (depth + 1) d = .ok files) :
    checkText d = .ok () ∧ filesAmong (filesBelow t depth) d (t.childrenAt l) = .ok files := by
  rcases h.filesBelow_cases depth with ⟨hc, heq⟩ | ⟨-, heq⟩
  · exact ⟨hc, heq ▸ hfiles⟩
  · rw [heq] at hfiles
    cases hfiles

end Leads

/-- When the files below a directory cannot be told, the path of some directory there is too
long. -/
theorem exists_of_filesBelow_eq_error {depth : Nat} {e : ScanError} (ht : t.WellFormed)
    (hd : Leads t d l) (h : filesBelow t depth d = .error e) :
    ∃ names, t.isDirectoryAt (names.reverse ++ l) ∧ e = ⟨descend d names, .nameTooLong⟩ ∧
      pathLimit < (descend d names).text.utf8ByteSize := by
  induction depth generalizing d l with
  | zero => cases h
  | succ depth ih =>
    rcases hd.filesBelow_cases depth with ⟨hc, heq⟩ | ⟨hlong, heq⟩ <;> rw [heq] at h
    · obtain ⟨name, hm, he⟩ := exists_of_filesAmong_eq_error h
      obtain ⟨names, hdir, hrest⟩ := ih (hd.of_mem_childrenAt ht hc hm) he
      exact ⟨name :: names, by simpa using hdir, hrest⟩
    · exact ⟨[], hd.isDirectoryAt, (Except.error.inj h).symm, hlong⟩

/-- When the files below a directory are told, the paths of all directories there fit. -/
theorem checkText_of_filesBelow_eq_ok {depth : Nat} {files : List Path} (ht : t.WellFormed)
    (hd : Leads t d l) (h : filesBelow t depth d = .ok files) (hn : names.length < depth)
    (hdir : t.isDirectoryAt (names.reverse ++ l)) : checkText (descend d names) = .ok () := by
  induction depth generalizing d l names files with
  | zero => cases hn
  | succ depth ih =>
    obtain ⟨hc, h⟩ := hd.of_filesBelow_eq_ok h
    cases names with
    | nil => exact hc
    | cons name rest =>
      rw [List.reverse_cons, List.append_assoc, List.singleton_append] at hdir
      have hname : t.isDirectoryAt (name :: l) :=
        ht.isDirectoryAt_above hdir (List.suffix_append _ _)
      have hchild :=
        mem_childrenAt.mpr (mem_of_find? (isDirectoryAt_iff.mp hname) (List.cons_ne_nil _ _))
      obtain ⟨here, hhere⟩ := exists_of_filesAmong_eq_ok h hchild
      change checkText (descend (d.join ⟨name⟩) rest) = _
      exact ih (hd.join ht hc hname) hhere (by simpa using hn) hdir

theorem length_le_entries (ht : t.WellFormed) (hl : (t.find? l).isSome) :
    l.length ≤ t.entries.length := by
  have hnodup : ((List.range l.length).map fun i => l.drop i).Nodup := by
    refine List.Nodup.map_on (fun i hi j hj he => ?_) List.nodup_range
    have hlen := congrArg List.length he
    rw [List.length_drop, List.length_drop] at hlen
    have := List.mem_range.mp hi
    have := List.mem_range.mp hj
    omega
  have hsubset : ((List.range l.length).map fun i => l.drop i) ⊆ t.entries.map Prod.fst := by
    intro m hm
    obtain ⟨i, hi, rfl⟩ := List.mem_map.mp hm
    have hne : l.drop i ≠ [] := by simpa using List.mem_range.mp hi
    have hsome := ht.find?_isSome_of_suffix hl (List.drop_suffix i l)
    obtain ⟨e, he⟩ := Option.isSome_iff_exists.mp hsome
    exact List.mem_map.mpr ⟨_, mem_of_find? he hne, rfl⟩
  simpa using hnodup.length_le_of_subset hsubset

theorem descend_isEmpty (hd : d.isEmpty = false) (hn : ∀ name ∈ names, IsName name) :
    (descend d names).isEmpty = false := by
  induction names generalizing d with
  | nil => exact hd
  | cons name rest ih =>
    obtain ⟨hname, hrest⟩ := List.forall_mem_cons.mp hn
    exact ih (hname.join_isEmpty d) hrest

/-- Names behind a directory stand in the text of the path to which they lead, with one slash
between any two. -/
theorem text_descend (d : Path) (hn : ∀ name ∈ names, IsName name) (hne : names ≠ []) :
    (descend d names).text.toList =
      d.text.toList ++ d.separator ++ ['/'].intercalate (names.map String.toList) := by
  induction names generalizing d with
  | nil => exact absurd rfl hne
  | cons name rest ih =>
    obtain ⟨hname, hrest⟩ := List.forall_mem_cons.mp hn
    have hfirst := Path.text_join d (Path.not_isAbsolute hname.no_slash)
    cases rest with
    | nil =>
      rw [List.map_singleton, List.intercalate_singleton]
      exact hfirst
    | cons next others =>
      have hseparator : (d.join ⟨name⟩).separator = ['/'] := by
        have hlast : (d.join ⟨name⟩).text.toList.getLast? ≠ some '/' := by
          rw [hfirst, List.getLast?_append_of_ne_nil _ hname.toList_ne_nil]
          exact fun h => hname.no_slash (List.mem_of_getLast? h)
        simp [Path.separator, hname.join_isEmpty d, hlast]
      have hdescend := ih (d.join ⟨name⟩) hrest (List.cons_ne_nil _ _)
      rw [hseparator, hfirst] at hdescend
      rw [descend, List.foldl_cons, ← descend, hdescend]
      simp

theorem descend_eq_join {p : Path} (d : Path) (hn : ∀ name ∈ names, IsName name) (hne : names ≠ [])
    (hp : p.isAbsolute = false) (h : p.text.toList = ['/'].intercalate (names.map String.toList)) :
    descend d names = d.join p := by
  have htext := text_descend d hn hne
  rw [← h, ← Path.text_join d hp] at htext
  exact congrArg Path.mk (String.toList_inj.mp htext)

section Sources

variable {place : Location} {root : Path}

theorem isName_src : IsName "src" := by decide

theorem existingFiles_eq (t : FileTree) (root : Path) :
    existingFiles t root = (filesBelow t (t.entries.length + 1) (root.join ⟨"src"⟩)).map
      fun files => files.mergeSort fun p q => !q.before p := by
  unfold existingFiles
  cases filesBelow t (t.entries.length + 1) (root.join ⟨"src"⟩) <;> rfl

theorem existingFiles_eq_ok_iff {files : List Path} : existingFiles t root = .ok files ↔
    ∃ listed, filesBelow t (t.entries.length + 1) (root.join ⟨"src"⟩) = .ok listed ∧
      listed.mergeSort (fun p q => !q.before p) = files := by
  rw [existingFiles_eq]
  cases filesBelow t (t.entries.length + 1) (root.join ⟨"src"⟩) <;> simp [Except.map]

theorem filesBelow_of_missing (hd : t.place? root = some place) (hplace : t.isDirectoryAt place)
    (hc : checkText (root.join ⟨"src"⟩) = .ok ()) (hf : t.find? ("src" :: place) = none)
    (depth : Nat) : filesBelow t (depth + 1) (root.join ⟨"src"⟩) = .ok [] := by
  have hstep := resolve_join hd hplace isName_src.no_slash hc
  have hmissing : t.step place "src".toList = .error .notFound := by
    simp [step, hplace, hf, Path.isIdle, Nat.not_lt.mpr isName_src.fits]
  rw [filesBelow, FileTree.list, hstep, hmissing]

/-- The sources of a project have been looked through: they are no file, and the path of each
directory of theirs fits. -/
theorem fits_of_existingFiles (ht : t.WellFormed) (hd : t.place? root = some place)
    (hplace : t.isDirectoryAt place) {files : List Path} (h : existingFiles t root = .ok files) :
    checkText (root.join ⟨"src"⟩) = .ok () ∧
      (∀ content, t.find? ("src" :: place) ≠ some (.file content)) ∧
      ∀ names, t.isDirectoryAt (names.reverse ++ "src" :: place) →
        checkText (descend (root.join ⟨"src"⟩) names) = .ok () := by
  obtain ⟨listed, hb, -⟩ := existingFiles_eq_ok_iff.mp h
  have hc : checkText (root.join ⟨"src"⟩) = .ok () := by
    have hnul := isName_src.nul_not_mem_join (ht.nul_not_mem_of_place? hd)
    have hcheck := checkText_of_isEmpty hnul (isName_src.join_isEmpty root)
    rw [hcheck]
    split
    · next hlong => simp [filesBelow, FileTree.list, FileTree.resolve, hcheck, hlong] at hb
    · rfl
  refine ⟨hc, fun content hf => ?_, fun names hdir => ?_⟩
  · have hstep := resolve_join hd hplace isName_src.no_slash hc
    rw [step_of_isName isName_src hplace (by simp [hf])] at hstep
    simp [filesBelow, FileTree.list, hstep, isDirectoryAt, hf] at hb
  · have hsome : (t.find? (names.reverse ++ "src" :: place)).isSome := by
      rw [isDirectoryAt_iff.mp hdir]
      rfl
    have hsrc : t.isDirectoryAt ("src" :: place) :=
      ht.isDirectoryAt_above hdir (List.suffix_append _ _)
    have hlength := length_le_entries ht hsome
    rw [List.length_append, List.length_reverse] at hlength
    exact checkText_of_filesBelow_eq_ok ht (.of_join ht hd hplace isName_src hsrc) hb (by omega)
      hdir

/-- The sources of a project can be looked through unless they are a file, or the path of a
directory of theirs is too long. -/
theorem exists_of_existingFiles_eq_error (ht : t.WellFormed) (hd : t.place? root = some place)
    (hplace : t.isDirectoryAt place) (hc : checkText (root.join ⟨"src"⟩) = .ok ())
    (hfile : ∀ content, t.find? ("src" :: place) ≠ some (.file content)) {e : ScanError}
    (h : existingFiles t root = .error e) :
    ∃ names, t.isDirectoryAt (names.reverse ++ "src" :: place) ∧
      e = ⟨descend (root.join ⟨"src"⟩) names, .nameTooLong⟩ ∧
      pathLimit < (descend (root.join ⟨"src"⟩) names).text.utf8ByteSize := by
  rw [existingFiles_eq] at h
  cases hf : t.find? ("src" :: place) with
  | none =>
    rw [filesBelow_of_missing hd hplace hc hf] at h
    cases h
  | some entry =>
    cases entry with
    | file content => exact absurd hf (hfile content)
    | directory =>
      have hleads := Leads.of_join ht hd hplace isName_src (isDirectoryAt_iff.mpr hf)
      cases hb : filesBelow t (t.entries.length + 1) (root.join ⟨"src"⟩) with
      | error e' =>
        rw [hb] at h
        exact Except.error.inj h ▸ exists_of_filesBelow_eq_error ht hleads hb
      | ok found => simp [hb, Except.map] at h

end Sources

end Scaffold.Output
