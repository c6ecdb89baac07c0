import LintRepair.Proofs.Repair.OneFile
import Mathlib.Logic.Function.Iterate

/-! # Repairing files in place

Repair does the same to a file each time that a path names it, whatever happens to other files in
between. A run over a list of paths therefore repairs each file as often as it is named, and nothing
but the bytes of files changes.
-/

namespace LintRepair

open LintRepair.Files LintRepair.Text

namespace Pipeline

section Run

variable (p : Pipeline) (cwd : Location) (t : FileTree)

theorem repairAll_cons (mode : RepairMode) (path : FilePath) (paths : List FilePath) :
    p.repairAll mode cwd t (path :: paths) =
      (⟨path, (p.repair mode cwd t path).1⟩ ::
          (p.repairAll mode cwd (p.repair mode cwd t path).2 paths).1,
        (p.repairAll mode cwd (p.repair mode cwd t path).2 paths).2) := rfl

theorem paths_repairAll (mode : RepairMode) (paths : List FilePath) :
    (p.repairAll mode cwd t paths).1.map (·.path) = paths := by
  induction paths generalizing t with
  | nil => rfl
  | cons path paths ih => rw [repairAll_cons, List.map_cons, ih]

theorem outline_repairAll (paths : List FilePath) :
    (p.repairAll .write cwd t paths).2.outline = t.outline := by
  induction paths generalizing t with
  | nil => rfl
  | cons path paths ih => rw [repairAll_cons, ih, outline_repair]

/-- A place is repaired as often as the paths name it. -/
theorem node?_repairAll (paths : List FilePath) (place : Location) :
    (p.repairAll .write cwd t paths).2.node? place =
      (t.node? place).map p.repairNode^[paths.countP (t.names cwd place)] := by
  induction paths generalizing t with
  | nil => simp [repairAll]
  | cons path paths ih =>
    have outline := outline_repair p cwd t path
    rw [repairAll_cons, ih, FileTree.names_eq_of_outline outline, node?_repair, List.countP_cons]
    cases named : t.names cwd place path with
    | false => simp
    | true => simp [Option.map_map, Function.iterate_succ]

/-- The reports on a place follow one another as its repairs do. -/
theorem reports_repairAll (paths : List FilePath) (place : Location) :
    (p.repairAll .write cwd t paths).1.filter (fun r => t.names cwd place r.path) =
      (paths.filter (t.names cwd place)).mapIdx fun i path =>
        ⟨path, p.outcomeAt path ((t.node? place).map p.repairNode^[i])⟩ := by
  induction paths generalizing t with
  | nil => rfl
  | cons path paths ih =>
    have outline := outline_repair p cwd t path
    have rest := ih (p.repair .write cwd t path).2
    rw [FileTree.names_eq_of_outline outline, node?_repair] at rest
    rw [repairAll_cons, List.filter_cons, List.filter_cons]
    cases named : t.names cwd place path with
    | false => simpa [named] using rest
    | true =>
      have outcome := (p.repaired_of_resolve (FileTree.names_iff.mp named)).outcome
      simp only [named, if_true] at rest ⊢
      rw [rest, List.mapIdx_cons, outcome]
      simp [Option.map_map, Function.iterate_succ]

theorem report_of_unresolved (paths : List FilePath) {r : Report} {cause : AccessFault}
    (h : r ∈ (p.repairAll .write cwd t paths).1) (unresolved : t.resolve cwd r.path = .error cause) :
    r.result = .error (.fileRead r.path cause) := by
  induction paths generalizing t with
  | nil => simp [repairAll] at h
  | cons path paths ih =>
    rw [repairAll_cons] at h
    cases List.mem_cons.mp h with
    | inl same =>
      subst same
      rw [repair_of_unresolved p unresolved]
    | inr h =>
      refine ih _ h ?_
      rw [FileTree.resolve_eq_of_outline (outline_repair p cwd t path), unresolved]

end Run

section Node

variable (p : Pipeline) {text : String} {bytes : ByteArray} {access : Access}

theorem repairNode_text (readable : access.canRead = true) (writable : access.canWrite = true) :
    p.repairNode (.file text.toUTF8 access) = .file (p.apply text).toUTF8 access := by
  have decoded : Utf8.decode text.toUTF8 = .ok text := Utf8.decode_eq_ok_iff.mpr rfl
  simp only [repairNode, decoded, readable, writable, Bool.and_self, if_true]

theorem repairNode_iterate (readable : access.canRead = true) (writable : access.canWrite = true)
    (n : Nat) :
    p.repairNode^[n] (.file text.toUTF8 access) = .file (p.apply^[n] text).toUTF8 access := by
  induction n with
  | zero => rfl
  | succ n ih =>
    rw [Function.iterate_succ_apply', Function.iterate_succ_apply', ih,
      p.repairNode_text readable writable]

/-- A text that the pipeline leaves as it is stays in its file. -/
theorem repairNode_of_same (same : p.apply text = text) (access : Access) :
    p.repairNode (.file text.toUTF8 access) = .file text.toUTF8 access := by
  have decoded : Utf8.decode text.toUTF8 = .ok text := Utf8.decode_eq_ok_iff.mpr rfl
  simp only [repairNode, decoded, same, ite_self]

theorem repairNode_of_fault
    (h : access.canRead = false ∨ access.canWrite = false ∨ ∀ text : String, bytes ≠ text.toUTF8) :
    p.repairNode (.file bytes access) = .file bytes access := by
  cases decoded : Utf8.decode bytes with
  | error cause => simp only [repairNode, decoded]
  | ok text =>
    have shut : (access.canRead && access.canWrite) = false := by
      rcases h with h | h | h
      · simp [h]
      · simp [h]
      · exact absurd (Utf8.decode_eq_ok_iff.mp decoded) (h text)
    simp only [repairNode, decoded, shut, Bool.false_eq_true, if_false]

end Node

/-- What repairing files in place does to a tree, and what it reports. -/
structure RepairsInPlace (p : Pipeline) (cwd : Location) (t : FileTree) (paths : List FilePath)
    (reports : List Report) (t' : FileTree) : Prop where
  /-- There is a report for each path. -/
  inOrder : reports.map (·.path) = paths
  /-- A file is repaired as often as it is named, and each report says whether that repair changed it. -/
  repaired : ∀ place (text : String) access, t.node? place = some (.file text.toUTF8 access) →
    access.canRead = true → access.canWrite = true →
      t'.node? place =
          some (.file (p.apply^[paths.countP (t.names cwd place)] text).toUTF8 access) ∧
        ∀ i (r : Report), (reports.filter fun r => t.names cwd place r.path)[i]? = some r →
          r.result = .ok (if p.apply^[i + 1] text = p.apply^[i] text then .unchanged else .fixed)
  /-- A file that cannot be read is left alone. -/
  unreadable : ∀ place bytes access, t.node? place = some (.file bytes access) →
    access.canRead = false → t'.node? place = some (.file bytes access) ∧
      ∀ r ∈ reports, t.resolve cwd r.path = .ok place →
        r.result = .error (.fileRead r.path .denied)
  /-- A file that holds no text is left alone. -/
  notText : ∀ place bytes access, t.node? place = some (.file bytes access) →
    access.canRead = true → (∀ text : String, bytes ≠ text.toUTF8) →
      t'.node? place = some (.file bytes access) ∧
        ∀ r ∈ reports, t.resolve cwd r.path = .ok place →
          ∃ cause, r.result = .error (.fileDecode r.path cause)
  /-- A file that cannot be written is left alone, which is a fault if repair would change it. -/
  unwritable : ∀ place (text : String) access, t.node? place = some (.file text.toUTF8 access) →
    access.canRead = true → access.canWrite = false →
      t'.node? place = some (.file text.toUTF8 access) ∧
        ∀ r ∈ reports, t.resolve cwd r.path = .ok place →
          r.result = if p.apply text = text then .ok .unchanged
            else .error (.fileWrite r.path .denied)
  /-- A path that names no file is a fault of reading. -/
  noFile : ∀ r ∈ reports,
    (∀ place bytes access, t.resolve cwd r.path = .ok place →
      t.node? place ≠ some (.file bytes access)) →
    ∃ cause, r.result = .error (.fileRead r.path cause)
  /-- What no path names is left alone. -/
  others : ∀ place, (∀ path ∈ paths, t.resolve cwd path ≠ .ok place) →
    t'.node? place = t.node? place
  /-- Every place keeps its kind: files stay files and directories stay directories. -/
  kinds : ∀ place, (t'.node? place).map Node.kind = (t.node? place).map Node.kind
  /-- The same places are listed. -/
  listed : t'.entries.map (·.1) = t.entries.map (·.1)

section Effect

variable (p : Pipeline) {cwd : Location} {t : FileTree} {paths : List FilePath} {r : Report}
  {place : Location} {node : Node}

theorem result_eq_outcomeAt (h : r ∈ (p.repairAll .write cwd t paths).1)
    (resolved : t.resolve cwd r.path = .ok place) :
    ∃ i, r.result = p.outcomeAt r.path ((t.node? place).map p.repairNode^[i]) := by
  have mem : r ∈ (p.repairAll .write cwd t paths).1.filter fun r => t.names cwd place r.path :=
    List.mem_filter.mpr ⟨h, FileTree.names_iff.mpr resolved⟩
  rw [reports_repairAll] at mem
  obtain ⟨i, hi, rfl⟩ := List.mem_mapIdx.mp mem
  exact ⟨i, rfl⟩

/-- What repair leaves alone once is left alone, and each report is that of the first repair. -/
theorem repairAll_of_fixed (cwd : Location) (paths : List FilePath) (h : t.node? place = some node)
    (fixed : p.repairNode node = node) :
    (p.repairAll .write cwd t paths).2.node? place = some node ∧
      ∀ r ∈ (p.repairAll .write cwd t paths).1, t.resolve cwd r.path = .ok place →
        r.result = p.outcomeAt r.path (some node) := by
  constructor
  · rw [node?_repairAll, h, Option.map_some, Function.iterate_fixed fixed]
  · intro r hr resolved
    obtain ⟨i, hi⟩ := p.result_eq_outcomeAt hr resolved
    rwa [h, Option.map_some, Function.iterate_fixed fixed] at hi

theorem result_of_noFile (h : r ∈ (p.repairAll .write cwd t paths).1)
    (none : ∀ place bytes access, t.resolve cwd r.path = .ok place →
      t.node? place ≠ some (.file bytes access)) :
    ∃ cause, r.result = .error (.fileRead r.path cause) := by
  cases resolved : t.resolve cwd r.path with
  | error cause => exact ⟨cause, p.report_of_unresolved cwd t paths h resolved⟩
  | ok place =>
    cases node : t.node? place with
    | none =>
      obtain ⟨i, hi⟩ := p.result_eq_outcomeAt h resolved
      rw [node] at hi
      exact ⟨.notFound, hi⟩
    | some n =>
      cases n with
      | directory => exact ⟨.isDirectory, (p.repairAll_of_fixed cwd paths node rfl).2 r h resolved⟩
      | file bytes access => exact absurd node (none place bytes access resolved)

end Effect

/-- Repairing files in place does this to every tree. -/
theorem repairAll_repairsInPlace (p : Pipeline) (cwd : Location) (t : FileTree)
    (paths : List FilePath) :
    RepairsInPlace p cwd t paths (p.repairAll .write cwd t paths).1
      (p.repairAll .write cwd t paths).2 where
  inOrder := paths_repairAll p cwd t .write paths
  repaired place text access node readable writable := by
    constructor
    · rw [node?_repairAll, node, Option.map_some, p.repairNode_iterate readable writable]
    · intro i r hr
      rw [reports_repairAll, List.getElem?_mapIdx, node, Option.map_some,
        p.repairNode_iterate readable writable] at hr
      obtain ⟨path, -, rfl⟩ := Option.map_eq_some_iff.mp hr
      have decoded : Utf8.decode (p.apply^[i] text).toUTF8 = .ok (p.apply^[i] text) :=
        Utf8.decode_eq_ok_iff.mpr rfl
      simp only [outcomeAt, readable, writable, decoded, if_true, Function.iterate_succ_apply']
      split <;> rfl
  unreadable place bytes access node shut := by
    obtain ⟨kept, results⟩ := p.repairAll_of_fixed cwd paths node (p.repairNode_of_fault (.inl shut))
    refine ⟨kept, fun r hr resolved => ?_⟩
    rw [results r hr resolved, outcomeAt, shut]
    rfl
  notText place bytes access node readable none := by
    obtain ⟨kept, results⟩ := p.repairAll_of_fixed cwd paths node
      (p.repairNode_of_fault (.inr (.inr none)))
    refine ⟨kept, fun r hr resolved => ?_⟩
    cases decoded : Utf8.decode bytes with
    | ok text => exact absurd (Utf8.decode_eq_ok_iff.mp decoded) (none text)
    | error cause =>
      refine ⟨cause, ?_⟩
      rw [results r hr resolved]
      simp only [outcomeAt, readable, decoded, if_true]
  unwritable place text access node readable shut := by
    obtain ⟨kept, results⟩ := p.repairAll_of_fixed cwd paths node
      (p.repairNode_of_fault (.inr (.inl shut)))
    refine ⟨kept, fun r hr resolved => ?_⟩
    have decoded : Utf8.decode text.toUTF8 = .ok text := Utf8.decode_eq_ok_iff.mpr rfl
    rw [results r hr resolved]
    simp only [outcomeAt, readable, shut, decoded, if_true, Bool.false_eq_true, if_false]
  noFile r hr none := p.result_of_noFile hr none
  others place unnamed := by
    have count : paths.countP (t.names cwd place) = 0 := by
      rw [List.countP_eq_zero]
      intro path hpath named
      exact unnamed path hpath (FileTree.names_iff.mp named)
    rw [node?_repairAll, count, Function.iterate_zero, Option.map_id_fun, id_eq]
  kinds place := by
    rw [FileTree.kind_node?, FileTree.kind_node?, outline_repairAll]
  listed := by
    have keys (t : FileTree) : t.entries.map (·.1) = t.outline.map (·.1) := by
      simp [FileTree.outline, outlineOf, Function.comp_def]
    rw [keys, keys, outline_repairAll]

end Pipeline

end LintRepair
