/-
The file picker (`FilePicker` in `gui/mod.rs`, `draw/file_picker.rs`): a listing of one directory, in which the user goes
up and down and picks a file for one of the two fields.

The file system is an input: what it answers may be another thing at every reading, and reading may fail. Paths are those
of Unix, as the texts between their slashes. The path bar and the widgets are left out.

Results, for every file system, every start and every sequence of frames:
- `refresh_listing`: a listing is the visible files with an extension of the filter, sorted, and then the visible
  directories, sorted.
- `picker_session`: the selection is a file of the listing, and the path that is picked names a file of it, for the
  field the picker was opened for. It is not blank, which `GuiState` takes for granted of a listed path.
- `picker_way_back`: as many steps up as into directories lead back to where they started.
-/
import Mathlib.Data.List.DropRight
import Mathlib.Data.String.Basic
import MumbledFlight.Plugin.Gui

namespace MumbledFlight

/-! ## Paths -/

/-- what the operating system may name a file -/
abbrev FileName := { name : String // name ≠ "" ∧ '/' ∉ name.toList }

/-- a path, split at its slashes; the first part is empty in an absolute path -/
structure PathBuf where
  first : String
  rest : List String
deriving DecidableEq

/-- the parts that are not components: repeated slashes and dots -/
def skippedPart (part : String) : Bool := part = "" || part = "."

namespace PathBuf

def display (p : PathBuf) : String := "/".intercalate (p.first :: p.rest)

def root : PathBuf := ⟨"", [""]⟩

/-- no slash is put after one that is there, nor before a name alone -/
def join (p : PathBuf) (name : FileName) : PathBuf :=
  match p.rest.getLast? with
  | none => if p.first = "" then ⟨name, []⟩ else ⟨p.first, [name.1]⟩
  | some last => ⟨p.first, (if last = "" then p.rest.dropLast else p.rest) ++ [name.1]⟩

/-- the path without its last component -/
def parent (p : PathBuf) : Option PathBuf :=
  let body := p.rest.rdropWhile skippedPart
  if body = [] then if p.first = "" then none else some ⟨"", []⟩
  else
    let up := body.dropLast.rdropWhile skippedPart
    if up = [] then some (if p.first = "" then root else ⟨p.first, []⟩) else some ⟨p.first, up⟩

end PathBuf

/-! ## The picker -/

/-- an entry that reading a directory yields -/
structure DirEntry where
  name : FileName
  isDir : Bool

/-- reading directories: an answer may be missing, and so may any entry of it -/
abbrev ReadDir := PathBuf → Option (List (Option DirEntry))

structure FileEntry where
  name : FileName
  isDir : Bool
deriving DecidableEq

structure FilePicker where
  currentDir : PathBuf
  entries : List FileEntry
  selected : Option ℕ
  target : FilePickTarget
  filterExts : List String

def hidden (name : FileName) : Bool := name.1.toList.head? = some '.'

/-- the filter takes the name -/
def matchesExt (exts : List String) (name : FileName) : Bool :=
  exts.isEmpty || exts.any fun ext => ("." ++ ext).toList.isSuffixOf name.1.toList

def sortByName (entries : List FileEntry) : List FileEntry := entries.mergeSort fun a b => a.name.1 ≤ b.name.1

/-- the entries of a directory, files first -/
def listing (exts : List String) (found : List (Option DirEntry)) : List FileEntry :=
  let visible := (found.filterMap id).filter fun e => !hidden e.name
  let files := (visible.filter fun e => !e.isDir && matchesExt exts e.name).map fun e => ⟨e.name, false⟩
  let dirs := (visible.filter DirEntry.isDir).map fun e => ⟨e.name, true⟩
  sortByName files ++ sortByName dirs

namespace FilePicker

def refresh (p : FilePicker) (read : ReadDir) : FilePicker :=
  { p with selected := none, entries := ((read p.currentDir).map (listing p.filterExts)).getD [] }

def new (start : PathBuf) (target : FilePickTarget) (filterExts : List String) (read : ReadDir) : FilePicker :=
  refresh ⟨start, [], none, target, filterExts⟩ read

def up (p : FilePicker) (read : ReadDir) : FilePicker :=
  match p.currentDir.parent with
  | some parent => { p with currentDir := parent }.refresh read
  | none => p

def selectedPath (p : FilePicker) : Option PathBuf :=
  p.selected.bind fun i => p.entries[i]?.bind fun e => if e.isDir then none else some (p.currentDir.join e.name)

end FilePicker

/-- the clicks of a frame, and the file system as it is then -/
structure PickerFrame where
  clicked : ℕ → Bool
  doubleClicked : ℕ → Bool
  cancel : Bool
  select : Bool
  goUp : Bool
  read : ReadDir

inductive FilePickResult where
  | open
  | closed
  | selected (target : FilePickTarget) (path : String)
deriving DecidableEq

/-- what the entry list of a frame collects -/
structure EntryClicks where
  navigateTo : Option PathBuf
  newSelected : Option ℕ
  doubleClickPath : Option String

namespace FilePicker

/-- one entry of the list -/
def entry (dir : PathBuf) (f : PickerFrame) (acc : EntryClicks) (e : FileEntry × ℕ) : EntryClicks :=
  let acc := if f.clicked e.2 then
      if e.1.isDir then { acc with navigateTo := some (dir.join e.1.name) } else { acc with newSelected := some e.2 }
    else acc
  if f.doubleClicked e.2 then
    if e.1.isDir then { acc with navigateTo := some (dir.join e.1.name) }
    else { acc with doubleClickPath := some (dir.join e.1.name).display }
  else acc

def entryClicks (p : FilePicker) (f : PickerFrame) : EntryClicks :=
  p.entries.zipIdx.foldl (entry p.currentDir f) ⟨none, p.selected, none⟩

/-- the picker after the entries and the Up button -/
def moved (p : FilePicker) (f : PickerFrame) : FilePicker :=
  let clicks := p.entryClicks f
  if f.goUp then p.up f.read
  else
    match clicks.navigateTo with
    | some dir => { p with currentDir := dir }.refresh f.read
    | none => { p with selected := clicks.newSelected }

/-- the path a frame picks, unless it is cancelled: a double click wins over the selection -/
def picked (p : FilePicker) (f : PickerFrame) : Option String :=
  let doubleClickPath := (p.entryClicks f).doubleClickPath
  -- the Select button is disabled while there is nothing to select
  let canSelect := p.selectedPath.isSome || doubleClickPath.isSome
  doubleClickPath.or (if f.select && canSelect then (p.moved f).selectedPath.map PathBuf.display else none)

/-- `file_picker_content` -/
def content (p : FilePicker) (f : PickerFrame) : FilePicker × FilePickResult :=
  (p.moved f,
    if f.cancel then .closed
    else
      match p.picked f with
      | some path => .selected (p.moved f).target path
      | none => .open)

/-- `render_fp_overlay`: the picker if it stays open, and what was picked -/
def render (p : FilePicker) (f : PickerFrame) : Option FilePicker × Option (FilePickTarget × String) :=
  let r := p.content f
  match r.2 with
  | .open => (some r.1, none)
  | .closed => (none, none)
  | .selected target path => (none, some (target, path))

end FilePicker

/-- the files each field takes -/
def FilePickTarget.filterExts : FilePickTarget → List String
  | .userCert => ["p12", "pfx"]
  | .serverCa => ["pem", "der", "crt"]

/-! ## Paths of listed files -/

theorem skippedPart_of_visible {name : FileName} (h : hidden name = false) : skippedPart name.1 = false := by
  unfold skippedPart
  rw [Bool.or_eq_false_iff, decide_eq_false_iff_not, decide_eq_false_iff_not]
  refine ⟨name.2.1, ?_⟩
  intro hdot
  rw [hidden, hdot] at h
  revert h
  decide

namespace PathBuf

/-- nothing but a component stands at the end -/
def Trimmed (p : PathBuf) : Prop :=
  p.rest = [] ∨ p = root ∨ ∃ up last, p.rest = up ++ [last] ∧ skippedPart last = false

theorem trimmed_append (first : String) (up : List String) {last : String} (h : skippedPart last = false) :
    Trimmed ⟨first, up ++ [last]⟩ := Or.inr (Or.inr ⟨up, last, rfl, h⟩)

theorem join_trimmed (p : PathBuf) {name : FileName} (h : hidden name = false) : (p.join name).Trimmed := by
  unfold join
  split
  · split_ifs
    · exact Or.inl rfl
    · exact trimmed_append p.first [] (skippedPart_of_visible h)
  · exact trimmed_append p.first _ (skippedPart_of_visible h)

theorem parent_trimmed {p q : PathBuf} (h : p.parent = some q) : q.Trimmed := by
  unfold parent at h
  dsimp only at h
  split_ifs at h with hbody hfirst hup hroot
  · cases h
    exact Or.inl rfl
  · cases h
    exact Or.inr (Or.inl rfl)
  · cases h
    exact Or.inl rfl
  · cases h
    have hlast := List.rdropWhile_last_not skippedPart _ hup
    exact Or.inr (Or.inr ⟨_, _, (List.dropLast_append_getLast hup).symm, by simpa using hlast⟩)

/-- Up leads back out of a directory -/
theorem parent_join {p : PathBuf} (hp : p.Trimmed) {name : FileName} (h : hidden name = false) :
    (p.join name).parent = some p := by
  have hname := skippedPart_of_visible h
  have hkeep : ∀ up : List String, (up ++ [name.1]).rdropWhile skippedPart = up ++ [name.1] :=
    fun up => List.rdropWhile_concat_neg _ _ _ (by simp [hname])
  obtain ⟨first, rest⟩ := p
  rcases hp with hrest | hroot | ⟨up, last, hrest, hlast⟩
  · obtain rfl : rest = [] := hrest
    by_cases hfirst : first = ""
    · simp [join, parent, hfirst, name.2.1]
    · have hparts : List.rdropWhile skippedPart [name.1] = [name.1] := hkeep []
      simp [join, parent, hfirst, hparts]
  · obtain ⟨rfl, rfl⟩ := PathBuf.mk.inj hroot
    have hparts : List.rdropWhile skippedPart [name.1] = [name.1] := hkeep []
    simp [join, parent, hparts, root]
  · obtain rfl : rest = up ++ [last] := hrest
    have hne : last ≠ "" := by
      rintro rfl
      revert hlast
      decide
    have hback : (up ++ [last]).rdropWhile skippedPart = up ++ [last] :=
      List.rdropWhile_concat_neg _ _ _ (by simp [hlast])
    have hjoin : (⟨first, up ++ [last]⟩ : PathBuf).join name = ⟨first, (up ++ [last]) ++ [name.1]⟩ := by
      simp [join, hne]
    rw [hjoin, parent]
    simp only [hkeep, List.dropLast_concat, hback]
    simp

theorem intercalate_append_singleton (sep : String) (parts : List String) (last : String) :
    ∃ before, sep.intercalate (parts ++ [last]) = before ++ last := by
  induction parts with
  | nil => exact ⟨"", by simp⟩
  | cons part parts ih =>
    obtain ⟨before, hbefore⟩ := ih
    cases parts with
    | nil =>
      refine ⟨part ++ sep, ?_⟩
      rw [List.cons_append, List.nil_append, String.intercalate_cons_cons, String.intercalate_singleton]
    | cons part' parts =>
      refine ⟨part ++ sep ++ before, ?_⟩
      rw [List.cons_append, List.cons_append, String.intercalate_cons_cons, ← List.cons_append, hbefore]
      simp only [String.append_assoc]

theorem display_join (p : PathBuf) (name : FileName) : ∃ before, (p.join name).display = before ++ name.1 := by
  unfold join
  split
  · split_ifs
    · exact intercalate_append_singleton "/" [] name.1
    · exact intercalate_append_singleton "/" [p.first] name.1
  · exact intercalate_append_singleton "/" (p.first :: _) name.1

end PathBuf

theorem not_blank_of_mem {s : String} {c : Char} (hc : c ∈ s.toList) (hspace : isWhiteSpace c = false) : ¬Blank s := by
  intro hblank
  have hnil : (s.toList.dropWhile isWhiteSpace).rdropWhile isWhiteSpace = [] :=
    String.ofList_injective (hblank.trans String.ofList_nil.symm)
  rw [List.rdropWhile_eq_nil_iff] at hnil
  rcases List.mem_append.1 (List.takeWhile_append_dropWhile (p := isWhiteSpace) (l := s.toList) ▸ hc) with h | h
  · exact absurd (List.mem_takeWhile_imp h) (by simp [hspace])
  · exact absurd (hnil c h) (by simp [hspace])

/-- the directory of the file in the field, or that of the plugin -/
def startDir (isDir : PathBuf → Bool) (current pluginDir : PathBuf) : PathBuf :=
  match current.parent.filter isDir with
  | some dir => dir
  | none => pluginDir

def pluginDir (isDir : PathBuf → Bool) (configPath : PathBuf) : PathBuf := (configPath.parent.filter isDir).getD .root

/-- a Browse button opens the picker -/
def FilePicker.browse (target : FilePickTarget) (isDir : PathBuf → Bool) (current configPath : PathBuf) (read : ReadDir) :
    FilePicker :=
  .new (startDir isDir current (pluginDir isDir configPath)) target target.filterExts read

/-! ## Listings -/

theorem sortByName_perm (entries : List FileEntry) : (sortByName entries).Perm entries := List.mergeSort_perm _ _

theorem sortByName_sorted (entries : List FileEntry) : (sortByName entries).Pairwise fun a b => a.name.1 ≤ b.name.1 := by
  have hsorted : (entries.mergeSort fun a b => decide (a.name.1 ≤ b.name.1)).Pairwise
      fun a b => decide (a.name.1 ≤ b.name.1) = true :=
    List.pairwise_mergeSort (fun a b c => by simpa using le_trans) (fun a b => by simpa using le_total a.name.1 b.name.1)
      entries
  simpa [sortByName] using hsorted

/-- an entry that is listed: it is visible, and a file has an extension of the filter -/
def isListed (exts : List String) (e : FileEntry) : Bool := !hidden e.name && (e.isDir || matchesExt exts e.name)

def DirEntry.toFileEntry (e : DirEntry) : FileEntry := ⟨e.name, e.isDir⟩

/-- the entries that are listed, in the order they were found -/
def offered (exts : List String) (found : List (Option DirEntry)) : List FileEntry :=
  ((found.filterMap id).map DirEntry.toFileEntry).filter (isListed exts)

/-- one half of a listing, before it is sorted -/
theorem filter_offered (exts : List String) (found : List (Option DirEntry)) (dir : Bool) {half : DirEntry → Bool}
    (hhalf : ∀ e : DirEntry, half e = (e.isDir == dir && (e.isDir || matchesExt exts e.name))) :
    ((((found.filterMap id).filter fun e => !hidden e.name).filter half).map fun e => (⟨e.name, dir⟩ : FileEntry)) =
      (offered exts found).filter fun e => e.isDir == dir := by
  have hsame : ∀ e ∈ found.filterMap id, (half e && !hidden e.name) =
      ((e.toFileEntry.isDir == dir) && isListed exts e.toFileEntry) := by
    intro e _
    rw [hhalf, isListed, DirEntry.toFileEntry, Bool.and_assoc, Bool.and_comm (e.isDir || _)]
  rw [offered, List.filter_filter, List.filter_filter, List.filter_map, List.filter_congr hsame]
  refine List.map_congr_left fun e he => ?_
  have hdir : e.isDir = dir := beq_iff_eq.1 (Bool.and_eq_true_iff.1 (List.mem_filter.1 he).2).1
  rw [DirEntry.toFileEntry, hdir]

/-- the two halves of a listing: what is in them, as often as it was found -/
theorem refresh_listing (exts : List String) (found : List (Option DirEntry)) : ∃ files dirs : List FileEntry,
    listing exts found = files ++ dirs ∧ (files.Pairwise fun a b => a.name.1 ≤ b.name.1) ∧
    (dirs.Pairwise fun a b => a.name.1 ≤ b.name.1) ∧ (∀ e ∈ files, e.isDir = false) ∧ (∀ e ∈ dirs, e.isDir = true) ∧
    (files ++ dirs).Perm (offered exts found) := by
  refine ⟨_, _, rfl, sortByName_sorted _, sortByName_sorted _, ?_, ?_, ?_⟩
  · intro e he
    obtain ⟨d, -, rfl⟩ := List.mem_map.1 ((sortByName_perm _).mem_iff.1 he)
    rfl
  · intro e he
    obtain ⟨d, -, rfl⟩ := List.mem_map.1 ((sortByName_perm _).mem_iff.1 he)
    rfl
  · refine ((sortByName_perm _).append (sortByName_perm _)).trans ?_
    rw [filter_offered exts found false fun e => by cases e.isDir <;> simp,
      filter_offered exts found true fun e => by cases e.isDir <;> simp]
    have hneg : (offered exts found).filter (fun e => e.isDir == false) =
        (offered exts found).filter fun e => !(e.isDir == true) :=
      List.filter_congr fun e _ => by cases e.isDir <;> rfl
    rw [hneg]
    exact List.perm_append_comm.trans (List.filter_append_perm _ _)

theorem isListed_of_mem_listing {exts : List String} {found : List (Option DirEntry)} {e : FileEntry}
    (h : e ∈ listing exts found) : isListed exts e = true := by
  obtain ⟨files, dirs, hlisting, -, -, -, -, hperm⟩ := refresh_listing exts found
  rw [hlisting, hperm.mem_iff] at h
  exact (List.mem_filter.1 h).2

/-! ## A session -/

namespace FilePicker

/-- the entries are a listing of the current directory -/
def Shows (p : FilePicker) (read : ReadDir) : Prop :=
  p.entries = ((read p.currentDir).map (listing p.filterExts)).getD []

structure Inv (target : FilePickTarget) (reads : List ReadDir) (p : FilePicker) : Prop where
  hasTarget : p.target = target
  hasExts : p.filterExts = target.filterExts
  trimmed : p.currentDir.Trimmed
  shows : ∃ read ∈ reads, p.Shows read
  /-- a file is selected, or nothing -/
  selected : ∀ i, p.selected = some i → ∃ e, p.entries[i]? = some e ∧ e.isDir = false

variable {target : FilePickTarget} {reads : List ReadDir} {p : FilePicker}

theorem Inv.listed (h : p.Inv target reads) {e : FileEntry} (he : e ∈ p.entries) :
    isListed target.filterExts e = true := by
  obtain ⟨read, -, hshows⟩ := h.shows
  rw [hshows, h.hasExts] at he
  cases hread : read p.currentDir with
  | none => simp [hread] at he
  | some found =>
    rw [hread] at he
    exact isListed_of_mem_listing he

/-- what is listed is not hidden -/
theorem Inv.visible (h : p.Inv target reads) {e : FileEntry} (he : e ∈ p.entries) : hidden e.name = false := by
  have hlisted := h.listed he
  rw [isListed, Bool.and_eq_true, Bool.not_eq_true'] at hlisted
  exact hlisted.1

theorem Inv.mono (h : p.Inv target reads) (more : List ReadDir) : p.Inv target (more ++ reads) := by
  obtain ⟨read, hread, hshows⟩ := h.shows
  exact { h with shows := ⟨read, List.mem_append_right _ hread, hshows⟩ }

/-- whatever directory is shown next -/
theorem inv_refresh (htarget : p.target = target) (hexts : p.filterExts = target.filterExts)
    (htrimmed : p.currentDir.Trimmed) {read : ReadDir} (hread : read ∈ reads) :
    (p.refresh read).Inv target reads where
  hasTarget := htarget
  hasExts := hexts
  trimmed := htrimmed
  shows := ⟨read, hread, rfl⟩
  selected := by
    intro i hi
    cases hi

theorem inv_up (h : p.Inv target reads) {read : ReadDir} (hread : read ∈ reads) : (p.up read).Inv target reads := by
  unfold up
  split
  · rename_i parent hparent
    exact inv_refresh (p := { p with currentDir := parent }) h.hasTarget h.hasExts (PathBuf.parent_trimmed hparent) hread
  · exact h

/-- what the clicks on the entries come to -/
structure EntryClicks.Good (p : FilePicker) (acc : EntryClicks) : Prop where
  navigateTo : ∀ dir, acc.navigateTo = some dir → ∃ e ∈ p.entries, e.isDir = true ∧ dir = p.currentDir.join e.name
  newSelected : ∀ i, acc.newSelected = some i → ∃ e, p.entries[i]? = some e ∧ e.isDir = false
  doubleClickPath : ∀ path, acc.doubleClickPath = some path →
    ∃ e ∈ p.entries, e.isDir = false ∧ path = (p.currentDir.join e.name).display

theorem good_entry {acc : EntryClicks} (h : EntryClicks.Good p acc) {e : FileEntry × ℕ}
    (he : p.entries[e.2]? = some e.1) (f : PickerFrame) : EntryClicks.Good p (entry p.currentDir f acc e) := by
  have hmem := List.mem_of_getElem? he
  have hclick : EntryClicks.Good p (if f.clicked e.2 then
      if e.1.isDir then { acc with navigateTo := some (p.currentDir.join e.1.name) }
      else { acc with newSelected := some e.2 } else acc) := by
    split_ifs with hclicked hdir
    · exact { h with navigateTo := by rintro _ ⟨⟩; exact ⟨e.1, hmem, hdir, rfl⟩ }
    · exact { h with newSelected := by rintro _ ⟨⟩; exact ⟨e.1, he, by simpa using hdir⟩ }
    · exact h
  unfold entry
  generalize (if f.clicked e.2 then _ else acc : EntryClicks) = acc' at hclick
  dsimp only
  split_ifs with hdouble hdir
  · exact { hclick with navigateTo := by rintro _ ⟨⟩; exact ⟨e.1, hmem, hdir, rfl⟩ }
  · exact { hclick with doubleClickPath := by rintro _ ⟨⟩; exact ⟨e.1, hmem, by simpa using hdir, rfl⟩ }
  · exact hclick

theorem good_entryClicks (h : p.Inv target reads) (f : PickerFrame) : EntryClicks.Good p (p.entryClicks f) := by
  have hfold : ∀ es : List (FileEntry × ℕ), (∀ e ∈ es, p.entries[e.2]? = some e.1) → ∀ acc,
      EntryClicks.Good p acc → EntryClicks.Good p (es.foldl (entry p.currentDir f) acc) := by
    intro es
    induction es with
    | nil => exact fun _ acc hacc => hacc
    | cons e es ih =>
      intro hes acc hacc
      exact ih (fun e' he' => hes e' (List.mem_cons_of_mem e he')) _ (good_entry hacc (hes e List.mem_cons_self) f)
  refine hfold _ (fun e he => List.mem_zipIdx_iff_getElem?.1 he) _ ⟨?_, h.selected, ?_⟩
  · intro dir hdir
    cases hdir
  · intro path hpath
    cases hpath

theorem inv_moved (h : p.Inv target reads) {f : PickerFrame} (hread : f.read ∈ reads) : (p.moved f).Inv target reads := by
  have hgood := good_entryClicks h f
  unfold moved
  dsimp only
  split_ifs
  · exact inv_up h hread
  · split
    · rename_i dir hdir
      obtain ⟨e, he, -, rfl⟩ := hgood.navigateTo dir hdir
      exact inv_refresh (p := { p with currentDir := p.currentDir.join e.name }) h.hasTarget h.hasExts
        (PathBuf.join_trimmed _ (h.visible he)) hread
    · exact { h with selected := hgood.newSelected }

/-- a frame, with what it reads -/
theorem inv_frame (h : p.Inv target reads) (f : PickerFrame) : (p.moved f).Inv target (f.read :: reads) :=
  inv_moved (h.mono [f.read]) List.mem_cons_self

/-- a frame after which something is selected stays in its directory -/
theorem moved_selected {f : PickerFrame} {path : PathBuf} (h : (p.moved f).selectedPath = some path) :
    (p.moved f).currentDir = p.currentDir ∧ (p.moved f).entries = p.entries := by
  have hrefresh : ∀ (q : FilePicker) (read : ReadDir), (q.refresh read).selectedPath = none := fun _ _ => rfl
  unfold moved at h ⊢
  dsimp only at h ⊢
  split_ifs at h ⊢
  · unfold up at h ⊢
    split at h
    · rw [hrefresh] at h
      cases h
    · exact ⟨rfl, rfl⟩
  · split at h
    · rw [hrefresh] at h
      cases h
    · exact ⟨rfl, rfl⟩

/-- what is picked is a file of the listing -/
theorem picked_listed (h : p.Inv target reads) {f : PickerFrame} (hread : f.read ∈ reads) {path : String}
    (hpicked : p.picked f = some path) :
    ∃ e ∈ p.entries, e.isDir = false ∧ path = (p.currentDir.join e.name).display := by
  unfold picked at hpicked
  rcases Option.or_eq_some_iff.1 hpicked with hdouble | ⟨-, hselect⟩
  · exact (good_entryClicks h f).doubleClickPath path hdouble
  · split_ifs at hselect
    obtain ⟨selected, hselected, rfl⟩ := Option.map_eq_some_iff.1 hselect
    obtain ⟨hdir, hentries⟩ := moved_selected hselected
    obtain ⟨i, hi, hpath⟩ := Option.bind_eq_some_iff.1 hselected
    obtain ⟨e, he, hfile⟩ := (inv_moved h hread).selected i hi
    rw [he, Option.bind_some, hfile] at hpath
    obtain rfl := Option.some.inj hpath
    rw [hentries] at he
    exact ⟨e, List.mem_of_getElem? he, hfile, by rw [hdir]⟩

/-- a file that is listed has an extension of the filter, and its path is not blank -/
theorem Inv.file (h : p.Inv target reads) {e : FileEntry} (he : e ∈ p.entries) (hfile : e.isDir = false) :
    hidden e.name = false ∧ (∃ ext ∈ target.filterExts, ("." ++ ext).toList <:+ e.name.1.toList) ∧
    ¬Blank (p.currentDir.join e.name).display := by
  have hlisted := h.listed he
  rw [isListed, hfile, Bool.false_or, Bool.and_eq_true, matchesExt] at hlisted
  obtain ⟨-, hmatches⟩ := hlisted
  have hext : ∃ ext ∈ target.filterExts, ("." ++ ext).toList <:+ e.name.1.toList := by
    have hsome : target.filterExts.isEmpty = false := by cases target <;> rfl
    rw [hsome, Bool.false_or, List.any_eq_true] at hmatches
    obtain ⟨ext, hext, hsuffix⟩ := hmatches
    exact ⟨ext, hext, by simpa using hsuffix⟩
  refine ⟨h.visible he, hext, ?_⟩
  obtain ⟨ext, -, hsuffix⟩ := hext
  obtain ⟨before, hdisplay⟩ := PathBuf.display_join p.currentDir e.name
  have hdot : '.' ∈ e.name.1.toList := hsuffix.subset (by simp)
  refine not_blank_of_mem (c := '.') ?_ (by decide)
  rw [hdisplay, String.toList_append]
  exact List.mem_append_right _ hdot

theorem startDir_trimmed (isDir : PathBuf → Bool) (current configPath : PathBuf) :
    (startDir isDir current (pluginDir isDir configPath)).Trimmed := by
  have hfiltered : ∀ {q dir : PathBuf}, q.parent.filter isDir = some dir → dir.Trimmed := by
    intro q dir h
    exact PathBuf.parent_trimmed (Option.filter_eq_some_iff.1 h).1
  unfold startDir
  split
  · rename_i dir hdir
    exact hfiltered hdir
  · unfold pluginDir
    cases hplugin : configPath.parent.filter isDir with
    | none => exact Or.inr (Or.inl rfl)
    | some dir => exact hfiltered hplugin

/-- the picker after some frames -/
def run (p : FilePicker) (fs : List PickerFrame) : FilePicker := Runs.run (fun p f => (p.content f).1) p fs

theorem inv_run (h : p.Inv target reads) (fs : List PickerFrame) :
    (p.run fs).Inv target (fs.map PickerFrame.read ++ reads) := by
  induction fs generalizing p reads with
  | nil => exact h
  | cons f fs ih =>
    have hrest := ih (inv_frame h f)
    refine { hrest with shows := ?_ }
    obtain ⟨read, hread, hshows⟩ := hrest.shows
    refine ⟨read, ?_, hshows⟩
    simp only [List.mem_append, List.mem_cons, List.map_cons, List.cons_append] at hread ⊢
    tauto

theorem inv_browse (target : FilePickTarget) (isDir : PathBuf → Bool) (current configPath : PathBuf) (read : ReadDir) :
    (browse target isDir current configPath read).Inv target [read] :=
  inv_refresh (p := ⟨startDir isDir current (pluginDir isDir configPath), [], none, target, target.filterExts⟩) rfl rfl
    (startDir_trimmed isDir current configPath) List.mem_cons_self

/-- a frame that enters a directory -/
def Enters (p : FilePicker) (f : PickerFrame) : Prop := f.goUp = false ∧ (p.entryClicks f).navigateTo.isSome = true

theorem moved_of_enters (h : p.Inv target reads) {f : PickerFrame} (hf : p.Enters f) :
    ∃ e ∈ p.entries, e.isDir = true ∧ (p.moved f).currentDir = p.currentDir.join e.name := by
  obtain ⟨hstay, hsome⟩ := hf
  obtain ⟨dir, hdir⟩ := Option.isSome_iff_exists.1 hsome
  obtain ⟨e, he, hisDir, rfl⟩ := (good_entryClicks h f).navigateTo dir hdir
  refine ⟨e, he, hisDir, ?_⟩
  unfold moved
  simp only [hstay, hdir]
  rfl

theorem moved_of_goUp {p : FilePicker} {f : PickerFrame} (hf : f.goUp = true) {dir : PathBuf}
    (hdir : p.currentDir.parent = some dir) : (p.moved f).currentDir = dir := by
  unfold moved up
  rw [if_pos hf, hdir]
  rfl

theorem up_run_snoc (p : FilePicker) (fs : List PickerFrame) (f : PickerFrame) :
    p.run (fs ++ [f]) = (p.run fs).moved f := Runs.run_snoc p fs f

/-- as many frames up as down lead back -/
theorem way_back (h : p.Inv target reads) {downs ups : List PickerFrame}
    (hdowns : Runs.Meets (fun p f => (content p f).1) Enters p downs) (hups : ∀ f ∈ ups, f.goUp = true)
    (hlength : ups.length = downs.length) : ((p.run downs).run ups).currentDir = p.currentDir := by
  induction downs generalizing p reads ups with
  | nil =>
    obtain rfl : ups = [] := List.length_eq_zero_iff.1 hlength
    rfl
  | cons f downs ih =>
    obtain ⟨e, he, -, hdir⟩ := moved_of_enters h hdowns.1
    -- all Ups but the last one lead back to the directory entered first
    obtain ⟨before, last, rfl⟩ : ∃ before last, ups = before ++ [last] := by
      refine ⟨_, _, (List.dropLast_append_getLast (l := ups) ?_).symm⟩
      rintro rfl
      simp at hlength
    have hentered : (((p.moved f).run downs).run before).currentDir = p.currentDir.join e.name := by
      rw [← hdir]
      exact ih (inv_frame h f) hdowns.2 (fun f' hf' => hups f' (List.mem_append_left _ hf')) (by simpa using hlength)
    have hrun : (p.run (f :: downs)).run (before ++ [last]) = (((p.moved f).run downs).run before).moved last :=
      up_run_snoc _ before last
    rw [hrun]
    refine moved_of_goUp (hups last (by simp)) ?_
    rw [hentered, PathBuf.parent_join h.trimmed (h.visible he)]

end FilePicker

open FilePicker GuiState

/-- A session of the picker. However the file system answers, the entries are a listing of the current directory as it
was read at some frame, and a file of it is selected or nothing is. What a frame picks is the path of a file of the
listing, visible and with an extension for the field the picker was opened for; to the window the frame is one of the
three it knows of, with a path that is not blank. -/
theorem picker_session (target : FilePickTarget) (isDir : PathBuf → Bool) (current configPath : PathBuf)
    (read : ReadDir) (fs : List PickerFrame) :
    let p := (browse target isDir current configPath read).run fs
    (∃ read' ∈ fs.map PickerFrame.read ++ [read],
      p.entries = ((read' p.currentDir).map (listing target.filterExts)).getD []) ∧
    (∀ i, p.selected = some i → ∃ e, p.entries[i]? = some e ∧ e.isDir = false) ∧
    ∀ f, (∀ t path, (p.render f).2 = some (t, path) → t = target ∧
        ∃ e ∈ p.entries, e.isDir = false ∧ path = (p.currentDir.join e.name).display ∧ hidden e.name = false ∧
          ∃ ext ∈ target.filterExts, ("." ++ ext).toList <:+ e.name.1.toList) ∧
      ∃ pick, (p.render f).1.map FilePicker.target = (pickFile (some target) pick).1 ∧
        (p.render f).2 = (pickFile (some target) pick).2.map fun x => (x.1, x.2.1) := by
  intro p
  have h : p.Inv target (fs.map PickerFrame.read ++ [read]) :=
    inv_run (inv_browse target isDir current configPath read) fs
  obtain ⟨read', hread', hshows⟩ := h.shows
  refine ⟨⟨read', hread', by rw [← h.hasExts]; exact hshows⟩, h.selected, ?_⟩
  intro f
  have hmoved : (p.moved f).target = target := (inv_frame h f).hasTarget
  have hpicked : ∀ path, p.picked f = some path →
      ∃ e ∈ p.entries, e.isDir = false ∧ path = (p.currentDir.join e.name).display :=
    fun _ => picked_listed (h.mono [f.read]) List.mem_cons_self
  unfold render content
  dsimp only
  by_cases hcancel : f.cancel = true
  · simp only [hcancel, if_true]
    refine ⟨?_, .closed, rfl, rfl⟩
    intro t path hpick
    cases hpick
  cases hpick : p.picked f with
  | none =>
    simp only [hcancel]
    refine ⟨?_, .stay, congrArg some hmoved, rfl⟩
    intro t path hnone
    cases hnone
  | some path =>
    obtain ⟨e, he, hfile, rfl⟩ := hpicked path hpick
    obtain ⟨hvisible, hext, hblank⟩ := h.file he hfile
    simp only [hcancel]
    refine ⟨?_, .selected ⟨_, hblank⟩, rfl, ?_⟩
    · intro t path hsome
      cases hsome
      exact ⟨hmoved, e, he, hfile, rfl, hvisible, hext⟩
    · simp [pickFile, hmoved]

/-- The way back. From every state of a session, as many frames up as frames that enter a directory lead back to where
they began, whatever the file system answers in between. The directory always is the root, a single name, or ends in a
component. -/
theorem picker_way_back (target : FilePickTarget) (isDir : PathBuf → Bool) (current configPath : PathBuf)
    (read : ReadDir) (fs downs ups : List PickerFrame) :
    let p := (browse target isDir current configPath read).run fs
    (Runs.Meets (fun p f => (content p f).1) Enters p downs ∧ (∀ f ∈ ups, f.goUp = true) ∧
      ups.length = downs.length → ((p.run downs).run ups).currentDir = p.currentDir) ∧
    p.currentDir.Trimmed := by
  intro p
  have h : p.Inv target (fs.map PickerFrame.read ++ [read]) :=
    inv_run (inv_browse target isDir current configPath read) fs
  exact ⟨fun ⟨hdowns, hups, hlength⟩ => way_back h hdowns hups hlength, h.trimmed⟩

/-- the root has a directory `home`, with a directory `alice` in it -/
def homes : ReadDir := fun dir =>
  if dir = .root then some [some ⟨⟨"home", by decide⟩, true⟩]
  else if dir = ⟨"", ["home"]⟩ then some [some ⟨⟨"alice", by decide⟩, true⟩]
  else none

/-- the first entry is clicked -/
def enterFirst : PickerFrame := ⟨fun i => i = 0, fun _ => false, false, false, false, homes⟩

/-- Up is clicked, and no directory can be read any more -/
def goUpUnreadable : PickerFrame := ⟨fun _ => false, fun _ => false, false, false, true, fun _ => none⟩

/-- from the root into /home/alice, and back with nothing readable on the way -/
theorem picker_way_back_home :
    let p := browse .userCert (fun _ => true) .root .root homes
    (p.run [enterFirst, enterFirst]).currentDir = ⟨"", ["home", "alice"]⟩ ∧
      ((p.run [enterFirst, enterFirst]).run [goUpUnreadable, goUpUnreadable]).currentDir = .root := by
  intro p
  have henters : Runs.Meets (fun p f => (content p f).1) Enters p [enterFirst, enterFirst] :=
    ⟨⟨rfl, by decide +kernel⟩, ⟨rfl, by decide +kernel⟩, trivial⟩
  have hups : ∀ f ∈ [goUpUnreadable, goUpUnreadable], f.goUp = true := by decide
  have hback := (picker_way_back .userCert (fun _ => true) .root .root homes [] [enterFirst, enterFirst]
    [goUpUnreadable, goUpUnreadable]).1 ⟨henters, hups, rfl⟩
  exact ⟨by decide +kernel, hback⟩

end MumbledFlight
