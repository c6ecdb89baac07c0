import LintRepair.Proofs.Files.Way
import LintRepair.Proofs.Repair.InPlace

/-! # What repair depends on

Repair depends on what stands on the ways of its paths, and changes nothing off them. In trees that
agree there it gives the same reports and makes the same changes, however they differ elsewhere.
-/

namespace LintRepair

open LintRepair.Files LintRepair.Text

namespace Files.FileTree

theorem readText_congr {t t' : FileTree} {cwd : Location} {path : FilePath}
    (h : ∀ q ∈ t.way cwd path, t'.node? q = t.node? q) :
    t'.readText cwd path = t.readText cwd path := by
  rw [readText, readText, read_congr h]

end Files.FileTree

namespace Pipeline

variable {t t' : FileTree} {cwd place : Location} {path : FilePath} {paths : List FilePath}

/-- A dry run reads a file and leaves the tree as it is. -/
theorem repair_dryRun (p : Pipeline) (cwd : Location) (t : FileTree) (path : FilePath) :
    p.repair .dryRun cwd t path =
      ((t.readText cwd path).map fun text => if p.apply text = text then .unchanged else .wouldFix,
        t) := by
  rw [repair]
  cases t.readText cwd path with
  | error f => rfl
  | ok text =>
    by_cases same : p.apply text = text
    · simp [same, Except.map]
    · simp [same, Except.map]

theorem outline_repair_mode (p : Pipeline) (mode : RepairMode) (cwd : Location) (t : FileTree)
    (path : FilePath) : (p.repair mode cwd t path).2.outline = t.outline := by
  cases mode with
  | write => exact outline_repair p cwd t path
  | dryRun => rw [repair_dryRun]

/-- One repair changes nothing off the way of its path. -/
theorem node?_repair_of_off (p : Pipeline) (mode : RepairMode) (off : place ∉ t.way cwd path) :
    (p.repair mode cwd t path).2.node? place = t.node? place := by
  cases mode with
  | dryRun => rw [repair_dryRun]
  | write =>
    rw [node?_repair, if_neg]
    exact fun named => off (FileTree.mem_way_of_resolve (FileTree.names_iff.mp named))

/-- One repair depends on the way of its path. -/
theorem repair_congr (p : Pipeline) (mode : RepairMode)
    (h : ∀ q ∈ t.way cwd path, t'.node? q = t.node? q) :
    (p.repair mode cwd t' path).1 = (p.repair mode cwd t path).1 ∧
      ∀ q, t'.node? q = t.node? q →
        (p.repair mode cwd t' path).2.node? q = (p.repair mode cwd t path).2.node? q := by
  cases mode with
  | dryRun =>
    rw [repair_dryRun, repair_dryRun, FileTree.readText_congr h]
    exact ⟨rfl, fun _ same => same⟩
  | write =>
    have resolves := FileTree.resolve_congr h
    constructor
    · cases resolved : t.resolve cwd path with
      | error cause =>
        rw [repair_of_unresolved p resolved, repair_of_unresolved p (resolves.trans resolved)]
      | ok found =>
        rw [(p.repaired_of_resolve resolved).outcome,
          (p.repaired_of_resolve (resolves.trans resolved)).outcome,
          h found (FileTree.mem_way_of_resolve resolved)]
    · intro q same
      have named : t'.names cwd q path = t.names cwd q path := by
        rw [FileTree.names, FileTree.names, resolves]
      rw [node?_repair, node?_repair, named, same]

/-- Repairing files changes nothing off the ways of the paths. -/
theorem node?_repairAll_of_off (p : Pipeline) (mode : RepairMode)
    (off : ∀ path ∈ paths, place ∉ t.way cwd path) :
    (p.repairAll mode cwd t paths).2.node? place = t.node? place := by
  induction paths generalizing t with
  | nil => rfl
  | cons path paths ih =>
    have outline := outline_repair_mode p mode cwd t path
    rw [repairAll_cons]
    refine (ih fun other hother => ?_).trans (p.node?_repair_of_off mode (off path List.mem_cons_self))
    rw [FileTree.way_eq_of_outline outline]
    exact off other (List.mem_cons_of_mem path hother)

/-- Repairing files depends on the ways of the paths: the reports agree, and places that agreed before
    agree afterwards. -/
theorem repairAll_congr (p : Pipeline) (mode : RepairMode) (h : t.AgreeOn t' cwd paths) :
    (p.repairAll mode cwd t' paths).1 = (p.repairAll mode cwd t paths).1 ∧
      ∀ q, t'.node? q = t.node? q →
        (p.repairAll mode cwd t' paths).2.node? q = (p.repairAll mode cwd t paths).2.node? q := by
  induction paths generalizing t t' with
  | nil => exact ⟨rfl, fun _ same => same⟩
  | cons path paths ih =>
    obtain ⟨result, after⟩ := p.repair_congr mode (h path List.mem_cons_self)
    have outline := outline_repair_mode p mode cwd t path
    have agree : (p.repair mode cwd t path).2.AgreeOn (p.repair mode cwd t' path).2 cwd paths := by
      intro other hother q hq
      rw [FileTree.way_eq_of_outline outline] at hq
      exact after q (h other (List.mem_cons_of_mem path hother) q hq)
    obtain ⟨reports, rest⟩ := ih agree
    rw [repairAll_cons, repairAll_cons, result, reports]
    exact ⟨rfl, fun q same => rest q (after q same)⟩

/-- In trees that agree on the ways of the paths, repair makes the same changes. -/
theorem sameChanges_repairAll (p : Pipeline) (mode : RepairMode) (h : t.AgreeOn t' cwd paths) :
    FileTree.SameChanges t (p.repairAll mode cwd t paths).2 t' (p.repairAll mode cwd t' paths).2 := by
  intro place node
  by_cases same : t'.node? place = t.node? place
  · rw [FileTree.Changes, FileTree.Changes, (p.repairAll_congr mode h).2 place same, same]
  · have off : ∀ path ∈ paths, place ∉ t.way cwd path := fun path hpath hway =>
      same (h path hpath place hway)
    have off' : ∀ path ∈ paths, place ∉ t'.way cwd path := fun path hpath hway =>
      same (h.symm path hpath place hway).symm
    rw [FileTree.Changes, FileTree.Changes, p.node?_repairAll_of_off mode off,
      p.node?_repairAll_of_off mode off']
    exact ⟨fun ⟨now, before⟩ => absurd now before, fun ⟨now, before⟩ => absurd now before⟩

end Pipeline

end LintRepair
