import LintRepair.Settings.Cascade
import Mathlib.Data.List.Basic

/-! # What the search for settings files finds

The search looks into the directories of the chain of parents up to the first root. It finds what
these hold, file by file, and then what the home directory holds; nothing else can change the result.
-/

namespace LintRepair.Files.FilePath

/-- The directory that lies so many parents above a path, if there are that many. -/
def parentAt (p : FilePath) : Nat → Option FilePath
  | 0 => some p
  | n + 1 => (p.parentAt n).bind parent?

theorem parentAt_succ (p : FilePath) (n : Nat) :
    p.parentAt (n + 1) = p.parent?.bind (parentAt · n) := by
  induction n with
  | zero => cases h : p.parent? <;> simp [parentAt, h]
  | succ n ih =>
    rw [parentAt, ih]
    cases p.parent? <;> rfl

theorem parentAt_eq_none_of_le {p : FilePath} {i j : Nat} (le : i ≤ j) (h : p.parentAt i = none) :
    p.parentAt j = none := by
  induction le with
  | refl => exact h
  | step _ ih => rw [parentAt, ih, Option.bind_none]

/-- The ancestors are the whole chain of parents. -/
theorem getElem?_ancestors (p : FilePath) (i : Nat) : p.ancestors[i]? = p.parentAt i := by
  induction p using ancestors.induct generalizing i with
  | case1 p h =>
    rw [ancestors_of_none h]
    cases i with
    | zero => rfl
    | succ i => simp [parentAt_succ, h]
  | case2 p q h ih =>
    rw [ancestors_of_some h]
    cases i with
    | zero => rfl
    | succ i => rw [List.getElem?_cons_succ, ih, parentAt_succ, h, Option.bind_some]

/-- A path is the nearest of its ancestors. -/
theorem exists_ancestors (p : FilePath) : ∃ dirs, p.ancestors = p :: dirs := by
  cases parent : p.parent? with
  | none => exact ⟨[], ancestors_of_none parent⟩
  | some q => exact ⟨q.ancestors, ancestors_of_some parent⟩

end LintRepair.Files.FilePath

namespace LintRepair.Workspace

open LintRepair.Files

variable {w w' : Workspace} {start dir : FilePath} {dirs : List FilePath} {r : Nat}

/-- The settings file at a path, if there is one that can be used. -/
def usableAt? (w : Workspace) (path : FilePath) : Option LoadedSettings :=
  match w.settings? path with
  | some (.ok s) => some ⟨path, s⟩
  | _ => none

theorem path_of_usableAt? {path : FilePath} {l : LoadedSettings} (h : w.usableAt? path = some l) :
    l.path = path := by
  rw [usableAt?] at h
  split at h
  · rw [← Option.some.inj h]
  · cases h

/-- What is wrong with the settings file at a path, if there is one that cannot be used. -/
def faultAt? (w : Workspace) (path : FilePath) : Option Fault :=
  match w.settings? path with
  | some (.error f) => some f
  | _ => none

/-- Whether the settings file of a directory says that it is the root. -/
def isRoot (w : Workspace) (dir : FilePath) : Bool :=
  match w.settings? (dir.file settingsFile) with
  | some (.ok s) => s.root
  | _ => false

/-- The directories that are looked into: up to the first root, or all. -/
def visited (w : Workspace) : List FilePath → List FilePath
  | [] => []
  | dir :: dirs => if w.isRoot dir then [dir] else dir :: w.visited dirs

theorem isRoot_of_none (h : w.settings? (dir.file settingsFile) = none) : w.isRoot dir = false := by
  simp [isRoot, h]

theorem isRoot_of_error {f : Fault} (h : w.settings? (dir.file settingsFile) = some (.error f)) :
    w.isRoot dir = false := by
  simp [isRoot, h]

theorem isRoot_of_ok {s : Settings} (h : w.settings? (dir.file settingsFile) = some (.ok s)) :
    w.isRoot dir = s.root := by
  simp [isRoot, h]

theorem visited_of_root (h : w.isRoot dir = true) : w.visited (dir :: dirs) = [dir] := by
  simp [visited, h]

theorem visited_of_not_root (h : w.isRoot dir = false) :
    w.visited (dir :: dirs) = dir :: w.visited dirs := by
  simp [visited, h]

/-- The search collects, in the order of the visited directories, what their files hold. -/
theorem search_eq (w : Workspace) (dirs : List FilePath) : w.search dirs =
    ⟨(w.visited dirs).filterMap fun dir => w.usableAt? (dir.file settingsFile),
      (w.visited dirs).filterMap fun dir => w.faultAt? (dir.file settingsFile)⟩ := by
  induction dirs with
  | nil => rfl
  | cons dir dirs ih =>
    cases h : w.settings? (dir.file settingsFile) with
    | none =>
      rw [visited_of_not_root (isRoot_of_none h)]
      simp [search, ih, usableAt?, faultAt?, h]
    | some result =>
      cases result with
      | error f =>
        rw [visited_of_not_root (isRoot_of_error h)]
        simp [search, ih, usableAt?, faultAt?, h, Cascade.after]
      | ok s =>
        have hs := isRoot_of_ok h
        cases hroot : s.root with
        | true =>
          rw [visited_of_root (hs.trans hroot)]
          simp [search, usableAt?, faultAt?, h, hroot, Cascade.below, Cascade.empty]
        | false =>
          rw [visited_of_not_root (hs.trans hroot)]
          simp [search, ih, usableAt?, faultAt?, h, hroot, Cascade.below]

/-- The roots decide which directories are looked into. -/
theorem visited_eq_of_isRoot (h : ∀ dir ∈ w.visited dirs, w'.isRoot dir = w.isRoot dir) :
    w'.visited dirs = w.visited dirs := by
  induction dirs with
  | nil => rfl
  | cons dir dirs ih =>
    cases hroot : w.isRoot dir with
    | true =>
      rw [visited_of_root hroot] at h
      have hroot' := (h dir (List.mem_singleton_self dir)).trans hroot
      rw [visited_of_root hroot, visited_of_root hroot']
    | false =>
      rw [visited_of_not_root hroot] at h
      have hroot' := (h dir List.mem_cons_self).trans hroot
      have rest := ih fun d hd => h d (List.mem_cons_of_mem _ hd)
      rw [visited_of_not_root hroot, visited_of_not_root hroot', rest]

/-- The index of the last directory that is looked into: the least one with a root, or else the last
    of the chain. -/
structure StopsAt (w : Workspace) (start : FilePath) (r : Nat) : Prop where
  reached : ∃ dir, start.parentAt r = some dir
  earlier : ∀ i < r, ∀ dir, start.parentAt i = some dir → w.isRoot dir = false
  stop : (∃ dir, start.parentAt r = some dir ∧ w.isRoot dir = true) ∨ start.parentAt (r + 1) = none

/-- The directories from the start up to an index of the chain. -/
def chain (start : FilePath) (r : Nat) : List FilePath :=
  (List.range (r + 1)).filterMap start.parentAt

theorem chain_eq_take (start : FilePath) (r : Nat) :
    chain start r = start.ancestors.take (r + 1) := by
  unfold chain
  induction r with
  | zero =>
    rw [List.take_add_one, start.getElem?_ancestors]
    rfl
  | succ r ih =>
    rw [List.range_succ, List.filterMap_append, ih, List.take_add_one (i := r + 1),
      start.getElem?_ancestors]
    cases h : start.parentAt (r + 1) <;> simp [h]

/-- What is visited is the beginning of a list, up to its first root or to its end. -/
theorem visited_eq_take (w : Workspace) (dir : FilePath) (dirs : List FilePath) :
    ∃ r, w.visited (dir :: dirs) = (dir :: dirs).take (r + 1) ∧
      (∃ d, (dir :: dirs)[r]? = some d) ∧
      (∀ i < r, ∀ d, (dir :: dirs)[i]? = some d → w.isRoot d = false) ∧
      ((∃ d, (dir :: dirs)[r]? = some d ∧ w.isRoot d = true) ∨ (dir :: dirs)[r + 1]? = none) := by
  induction dirs generalizing dir with
  | nil =>
    refine ⟨0, ?_, ⟨dir, rfl⟩, ?_, .inr rfl⟩
    · cases hroot : w.isRoot dir with
      | true => rw [visited_of_root hroot]; rfl
      | false => rw [visited_of_not_root hroot]; rfl
    · intro i hi
      omega
  | cons next dirs ih =>
    cases hroot : w.isRoot dir with
    | true =>
      refine ⟨0, ?_, ⟨dir, rfl⟩, ?_, .inl ⟨dir, rfl, hroot⟩⟩
      · rw [visited_of_root hroot]
        rfl
      · intro i hi
        omega
    | false =>
      obtain ⟨r, htake, hreached, hearlier, hstop⟩ := ih next
      refine ⟨r + 1, ?_, hreached, ?_, hstop⟩
      · rw [visited_of_not_root hroot, htake]
        rfl
      · intro i hi d hd
        cases i with
        | zero =>
          obtain rfl : dir = d := by simpa using hd
          exact hroot
        | succ i => exact hearlier i (by omega) d hd

/-- The search ends at an index of the chain, and what it looks into is the chain up to there. -/
theorem exists_stopsAt (w : Workspace) (start : FilePath) :
    ∃ r, w.StopsAt start r ∧ w.visited start.ancestors = chain start r := by
  obtain ⟨dirs, hdirs⟩ := start.exists_ancestors
  obtain ⟨r, htake, hreached, hearlier, hstop⟩ := w.visited_eq_take start dirs
  rw [← hdirs] at htake hreached hearlier hstop
  simp only [FilePath.getElem?_ancestors] at hreached hearlier hstop
  exact ⟨r, ⟨hreached, hearlier, hstop⟩, htake.trans (chain_eq_take start r).symm⟩

theorem StopsAt.le {r' : Nat} (h : w.StopsAt start r) (h' : w.StopsAt start r') : r' ≤ r := by
  refine Nat.le_of_not_lt fun hlt => ?_
  have beyond : start.parentAt (r + 1) = none := by
    cases h.stop with
    | inl hroot =>
      obtain ⟨dir, hdir, hroot⟩ := hroot
      rw [h'.earlier r hlt dir hdir] at hroot
      cases hroot
    | inr hnone => exact hnone
  obtain ⟨dir, hdir⟩ := h'.reached
  rw [FilePath.parentAt_eq_none_of_le hlt beyond] at hdir
  cases hdir

theorem StopsAt.unique {r' : Nat} (h : w.StopsAt start r) (h' : w.StopsAt start r') : r = r' :=
  Nat.le_antisymm (h'.le h) (h.le h')

/-- What the home directory adds to the settings that have been found. -/
def homeLoaded (w : Workspace) (found : List LoadedSettings) : List LoadedSettings :=
  match w.homeFile? with
  | none => []
  | some path => if found.any (·.path.same path) then [] else (w.usableAt? path).toList

/-- What is wrong with the settings file of the home directory, unless it has been found already. -/
def homeFaults (w : Workspace) (found : List LoadedSettings) : List Fault :=
  match w.homeFile? with
  | none => []
  | some path => if found.any (·.path.same path) then [] else (w.faultAt? path).toList

theorem withHome_eq (w : Workspace) (c : Cascade) : w.withHome c =
    ⟨c.loaded ++ w.homeLoaded c.loaded, c.faults ++ w.homeFaults c.loaded⟩ := by
  unfold withHome homeLoaded homeFaults
  cases w.homeFile? with
  | none => simp
  | some path =>
    cases found : c.loaded.any (·.path.same path) with
    | true => simp [found]
    | false =>
      simp only [found, Bool.false_eq_true, if_false, usableAt?, faultAt?]
      cases w.settings? path with
      | none => simp
      | some result => cases result <;> simp

end LintRepair.Workspace
