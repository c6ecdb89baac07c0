import LintRepair.Proofs.Files.Component
import LintRepair.Proofs.Settings.Broken
import Mathlib.Data.Finset.Card

/-! # How often settings files count

The directories that the search looks into have different settings files, so each of these counts
once. That of the home directory may be one of them. It is left out then if it has been loaded, but if
it cannot be used, it is tried and reported once more.
-/

namespace LintRepair.Workspace

open LintRepair.Files

variable {w : Workspace} {start path other : FilePath} {paths : List FilePath}
  {keep : FilePath → Bool} {cs : List Component}

/-- The different paths with a property among those at which settings files are looked for. Paths with
    the same components are the same. -/
def different (w : Workspace) (start : FilePath) (keep : FilePath → Bool) :
    Finset (List Component) :=
  (((w.lookedFor start).filter keep).map FilePath.components).toFinset

/-- Whether the settings file of the home directory cannot be used and has been met already. -/
def rereadsHome (w : Workspace) (start : FilePath) : Bool :=
  w.homeFile?.any fun path =>
    w.isBroken path && ((w.walked start).filter w.isBroken).any (·.same path)

/-- Spellings of one path are usable together: they name the same place. -/
theorem not_isBroken_of_same (same : path.same other = true) (usable : w.isUsable path = true) :
    w.isBroken other = false := by
  rw [isUsable, usableAt?, settings?_eq] at usable
  rw [isBroken, faultAt?, settings?_eq]
  cases hp : w.tree.resolve w.cwd path with
  | error cause => simp [hp, Except.toOption] at usable
  | ok found =>
    cases ho : w.tree.resolve w.cwd other with
    | error cause => rfl
    | ok there =>
      obtain rfl := FileTree.resolve_eq_of_same same hp ho
      cases held : Settings.ofNode path (w.tree.node? found) with
      | error f => simp [hp, held, Except.toOption] at usable
      | ok s => simp [Except.toOption, Settings.ofNode_path held]

theorem exists?_eq (w : Workspace) (path : FilePath) :
    w.tree.exists? w.cwd path = (w.isUsable path || w.isBroken path) := by
  rw [isUsable, isBroken, usableAt?, faultAt?, settings?]
  cases w.tree.exists? w.cwd path with
  | false => rfl
  | true => cases Settings.load w.tree w.cwd path <;> rfl

theorem visited_sublist (w : Workspace) (dirs : List FilePath) : (w.visited dirs).Sublist dirs := by
  induction dirs with
  | nil => exact .slnil
  | cons dir dirs ih =>
    rw [visited]
    split
    · exact .cons_cons dir (List.nil_sublist dirs)
    · exact .cons_cons dir ih

theorem components_settingsFile (dir : FilePath) : (dir.file settingsFile).components =
    dir.components ++ [.ofSegment settingsFile.toList] :=
  FilePath.components_file (by decide) (by decide) dir

/-- No two directories that are looked into have the same settings file. -/
theorem nodup_walked (w : Workspace) (start : FilePath) :
    ((w.walked start).map FilePath.components).Nodup := by
  have decreasing := start.ancestors_decreasing.sublist (w.visited_sublist start.ancestors)
  rw [walked, List.map_map, List.Nodup, List.pairwise_map]
  refine decreasing.imp fun {near far} fewer same => ?_
  rw [Function.comp_apply, Function.comp_apply, components_settingsFile, components_settingsFile,
    List.append_left_inj] at same
  rw [same] at fewer
  exact Nat.lt_irrefl _ fewer

theorem mem_map_components_iff :
    path.components ∈ paths.map FilePath.components ↔ paths.any (·.same path) = true := by
  simp [FilePath.same]

theorem mem_different_iff : cs ∈ w.different start keep ↔
    ∃ path ∈ w.lookedFor start, keep path = true ∧ path.components = cs := by
  simp [different, and_assoc]

/-- There are as many different paths as on the walk, and one more if the home directory adds one. -/
theorem card_different (w : Workspace) (start : FilePath) (keep : FilePath → Bool) :
    (w.different start keep).card = ((w.walked start).filter keep).length +
      (w.homeFile?.any fun path =>
        keep path && !((w.walked start).filter keep).any (·.same path)).toNat := by
  have distinct : (((w.walked start).filter keep).map FilePath.components).Nodup :=
    (w.nodup_walked start).sublist (List.filter_sublist.map _)
  have alone : (((w.walked start).filter keep).map FilePath.components).toFinset.card =
      ((w.walked start).filter keep).length := by
    rw [List.toFinset_card_of_nodup distinct, List.length_map]
  rw [different, lookedFor, List.filter_append, List.map_append, List.toFinset_append]
  cases w.homeFile? with
  | none => simpa using alone
  | some path =>
    cases kept : keep path with
    | false => simpa [kept] using alone
    | true =>
      have home : (([path].filter keep).map FilePath.components).toFinset = {path.components} := by
        simp [kept]
      rw [Option.toList_some, home, Finset.union_singleton, Finset.card_insert_eq_ite, alone,
        Option.any_some, kept, Bool.true_and]
      cases met : ((w.walked start).filter keep).any (·.same path) with
      | true =>
        rw [if_pos (List.mem_toFinset.mpr (mem_map_components_iff.mpr met))]
        rfl
      | false =>
        have new : path.components ∉
            (((w.walked start).filter keep).map FilePath.components).toFinset := by
          rw [List.mem_toFinset, mem_map_components_iff, met]
          exact Bool.false_ne_true
        rw [if_neg new]
        rfl

theorem map_path_usable (paths : List FilePath) :
    (paths.filterMap w.usableAt?).map (·.path) = paths.filter w.isUsable := by
  induction paths with
  | nil => rfl
  | cons path paths ih =>
    cases found : w.usableAt? path with
    | none =>
      rw [List.filterMap_cons_none found, ih, List.filter_cons_of_neg (by simp [isUsable, found])]
    | some l =>
      rw [List.filterMap_cons_some found, List.map_cons, ih, path_of_usableAt? found,
        List.filter_cons_of_pos (by simp [isUsable, found])]

theorem length_faults (paths : List FilePath) :
    (paths.filterMap w.faultAt?).length = (paths.filter w.isBroken).length := by
  rw [List.length_filterMap_eq_countP, List.countP_eq_length_filter]
  rfl

/-- The search tries the settings files of the walk and then that of the home directory. -/
theorem cascade_eq_walked (w : Workspace) (start : FilePath) : w.cascade start =
    ⟨(w.walked start).filterMap w.usableAt? ++ w.homeLoaded ((w.walked start).filterMap w.usableAt?),
      (w.walked start).filterMap w.faultAt? ++
        w.homeFaults ((w.walked start).filterMap w.usableAt?)⟩ := by
  rw [cascade, search_eq, withHome_eq, walked, List.filterMap_map, List.filterMap_map]
  rfl

theorem any_path_usable (paths : List FilePath) (path : FilePath) :
    (paths.filterMap w.usableAt?).any (·.path.same path) =
      (paths.filter w.isUsable).any (·.same path) := by
  rw [← map_path_usable, List.any_map]
  rfl

theorem length_homeLoaded (w : Workspace) (paths : List FilePath) :
    (w.homeLoaded (paths.filterMap w.usableAt?)).length = (w.homeFile?.any fun path =>
      w.isUsable path && !(paths.filter w.isUsable).any (·.same path)).toNat := by
  rw [homeLoaded]
  cases w.homeFile? with
  | none => rfl
  | some path =>
    simp only [any_path_usable, Option.any_some, isUsable]
    cases (paths.filter w.isUsable).any (·.same path) <;> cases w.usableAt? path <;> rfl

/-- A settings file of the home directory that cannot be used is never left out. -/
theorem length_homeFaults (w : Workspace) (paths : List FilePath) :
    (w.homeFaults (paths.filterMap w.usableAt?)).length =
      (w.homeFile?.any w.isBroken).toNat := by
  rw [homeFaults]
  cases w.homeFile? with
  | none => rfl
  | some path =>
    simp only [any_path_usable, Option.any_some]
    cases found : (paths.filter w.isUsable).any (·.same path) with
    | false =>
      rw [isBroken]
      cases w.faultAt? path <;> rfl
    | true =>
      -- Only files that have been loaded can stand in the way of the home directory's.
      obtain ⟨other, hother, same⟩ := List.any_eq_true.mp found
      rw [not_isBroken_of_same same (List.mem_filter.mp hother).2]
      rfl

/-- What the search from a directory finds, counted. -/
structure Counts (w : Workspace) (start : FilePath) : Prop where
  loaded : (w.cascade start).loaded.length = (w.different start w.isUsable).card
  faults : (w.cascade start).faults.length =
    (w.different start w.isBroken).card + (w.rereadsHome start).toNat
  total : (w.cascade start).loaded.length + (w.cascade start).faults.length =
    (w.different start (w.tree.exists? w.cwd)).card + (w.rereadsHome start).toNat
  /-- Nothing counts twice unless the settings file of the home directory is tried twice. -/
  once : (w.cascade start).loaded.length + (w.cascade start).faults.length =
    (w.different start (w.tree.exists? w.cwd)).card ↔ w.rereadsHome start = false

theorem length_loaded (w : Workspace) (start : FilePath) :
    (w.cascade start).loaded.length = (w.different start w.isUsable).card := by
  have walked := congrArg List.length (map_path_usable (w := w) (w.walked start))
  rw [List.length_map] at walked
  rw [cascade_eq_walked, List.length_append, length_homeLoaded, walked, card_different]

theorem length_faults_cascade (w : Workspace) (start : FilePath) :
    (w.cascade start).faults.length =
      (w.different start w.isBroken).card + (w.rereadsHome start).toNat := by
  have home : (w.homeFile?.any w.isBroken).toNat =
      (w.homeFile?.any fun path => w.isBroken path &&
        !((w.walked start).filter w.isBroken).any (·.same path)).toNat +
          (w.rereadsHome start).toNat := by
    rw [rereadsHome]
    cases w.homeFile? with
    | none => rfl
    | some path =>
      simp only [Option.any_some]
      cases w.isBroken path <;> cases ((w.walked start).filter w.isBroken).any (·.same path) <;> rfl
  rw [cascade_eq_walked, List.length_append, length_faults, length_homeFaults, home,
    card_different, Nat.add_assoc]

/-- A settings file that is there can be used or not. -/
theorem card_different_exists (w : Workspace) (start : FilePath) :
    (w.different start (w.tree.exists? w.cwd)).card =
      (w.different start w.isUsable).card + (w.different start w.isBroken).card := by
  have parts : w.different start (w.tree.exists? w.cwd) =
      w.different start w.isUsable ∪ w.different start w.isBroken := by
    ext cs
    simp only [Finset.mem_union, mem_different_iff, exists?_eq, Bool.or_eq_true]
    constructor
    · rintro ⟨path, looked, usable | broken, components⟩
      · exact .inl ⟨path, looked, usable, components⟩
      · exact .inr ⟨path, looked, broken, components⟩
    · rintro (⟨path, looked, usable, components⟩ | ⟨path, looked, broken, components⟩)
      · exact ⟨path, looked, .inl usable, components⟩
      · exact ⟨path, looked, .inr broken, components⟩
  have apart : Disjoint (w.different start w.isUsable) (w.different start w.isBroken) := by
    refine Finset.disjoint_left.mpr fun cs left right => ?_
    obtain ⟨path, -, usable, rfl⟩ := mem_different_iff.mp left
    obtain ⟨other, -, broken, components⟩ := mem_different_iff.mp right
    have same : path.same other = true := beq_iff_eq.mpr components.symm
    rw [not_isBroken_of_same same usable] at broken
    cases broken
  rw [parts, Finset.card_union_of_disjoint apart]

/-- Every settings file that is there counts once, as settings or as a fault, but that of the home
    directory counts twice when it cannot be used and the search meets it on its way. -/
theorem cascade_counts (w : Workspace) (start : FilePath) : w.Counts start := by
  have total : (w.cascade start).loaded.length + (w.cascade start).faults.length =
      (w.different start (w.tree.exists? w.cwd)).card + (w.rereadsHome start).toNat := by
    rw [length_loaded, length_faults_cascade, card_different_exists, Nat.add_assoc]
  refine ⟨w.length_loaded start, w.length_faults_cascade start, total, ?_⟩
  rw [total]
  cases w.rereadsHome start <;> simp

/-- A current directory that is the home directory, with a settings file that is no document. -/
def brokenHome : Workspace :=
  ⟨⟨[(["home".toList, settingsFile.toList], .file "invalid toml [[[".toUTF8 .full)]⟩,
    ["home".toList], some ⟨"/home"⟩⟩

/-- One settings file, met on the way and again in the home directory, is reported twice. -/
theorem home_counts_twice :
    (brokenHome.cascade ⟨"/home"⟩).loaded.length + (brokenHome.cascade ⟨"/home"⟩).faults.length = 2 ∧
      (brokenHome.different ⟨"/home"⟩ (brokenHome.tree.exists? brokenHome.cwd)).card = 1 := by
  decide +kernel

end LintRepair.Workspace
