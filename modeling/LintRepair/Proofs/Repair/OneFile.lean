import LintRepair.Proofs.Files.Outline
import LintRepair.Proofs.Text.Decoding
import LintRepair.Repair

/-! # Repairing one file

What a repair in place does is decided by what stands at the place that the path names: what is left
there and what is reported. The tree keeps its outline and everything at other places.
-/

namespace LintRepair

open LintRepair.Files LintRepair.Text

namespace Files.FileTree

/-- Whether a path names a place. -/
def names (t : FileTree) (cwd place : Location) (path : FilePath) : Bool :=
  match t.resolve cwd path with
  | .ok found => found == place
  | .error _ => false

variable {t t' : FileTree} {cwd place : Location} {path : FilePath}

theorem names_iff : t.names cwd place path = true ↔ t.resolve cwd path = .ok place := by
  rw [names]
  cases t.resolve cwd path with
  | error cause => simp
  | ok found => simp

theorem names_eq_of_outline (h : t.outline = t'.outline) : t.names cwd place = t'.names cwd place := by
  funext path
  rw [names, names, resolve_eq_of_outline h]

end Files.FileTree

namespace Pipeline

variable (p : Pipeline) {t : FileTree} {cwd place : Location} {path : FilePath}

/-- What repair leaves at a place. -/
def repairNode : Node → Node
  | .directory => .directory
  | .file bytes access =>
    match Utf8.decode bytes with
    | .error _ => .file bytes access
    | .ok text =>
      if access.canRead && access.canWrite then .file (p.apply text).toUTF8 access
      else .file bytes access

/-- What repair reports for a path that names a place. -/
def outcomeAt (path : FilePath) : Option Node → Except Fault Outcome
  | none => .error (.fileRead path .notFound)
  | some .directory => .error (.fileRead path .isDirectory)
  | some (.file bytes access) =>
    if access.canRead then
      match Utf8.decode bytes with
      | .error cause => .error (.fileDecode path cause)
      | .ok text =>
        if p.apply text = text then .ok .unchanged
        else if access.canWrite then .ok .fixed
        else .error (.fileWrite path .denied)
    else .error (.fileRead path .denied)

/-- One repair: its report, and a tree with the same outline that differs at one place. -/
structure Repaired (t : FileTree) (path : FilePath) (place : Location)
    (result : Except Fault Outcome × FileTree) : Prop where
  outcome : result.1 = p.outcomeAt path (t.node? place)
  outline : result.2.outline = t.outline
  node : ∀ other, result.2.node? other =
    if other = place then (t.node? other).map p.repairNode else t.node? other

theorem repaired_of_same {result : Except Fault Outcome}
    (outcome : result = p.outcomeAt path (t.node? place))
    (node : (t.node? place).map p.repairNode = t.node? place) :
    p.Repaired t path place (result, t) := by
  refine ⟨outcome, rfl, fun other => ?_⟩
  by_cases h : other = place
  · rw [if_pos h, h, node]
  · rw [if_neg h]

theorem repair_of_read_error {cause : AccessFault} (h : t.read cwd path = .error cause) :
    p.repair .write cwd t path = (.error (.fileRead path cause), t) := by
  simp [repair, FileTree.readText, h]

theorem repair_of_decode_error {bytes : ByteArray} {cause : Utf8.DecodeFault}
    (read : t.read cwd path = .ok bytes) (h : Utf8.decode bytes = .error cause) :
    p.repair .write cwd t path = (.error (.fileDecode path cause), t) := by
  simp [repair, FileTree.readText, read, h]

theorem repair_of_text {bytes : ByteArray} {text : String} (read : t.read cwd path = .ok bytes)
    (h : Utf8.decode bytes = .ok text) : p.repair .write cwd t path =
      if p.apply text = text then (.ok .unchanged, t)
      else match t.write cwd path (p.apply text).toUTF8 with
        | .error cause => (.error (.fileWrite path cause), t)
        | .ok t' => (.ok .fixed, t') := by
  simp only [repair, FileTree.readText, FileTree.writeText, read, h]
  split
  · rfl
  · cases t.write cwd path (p.apply text).toUTF8 <;> rfl

/-- After a repair without a fault the file holds the repaired text. -/
theorem read_of_repair {text : String} {outcome : Outcome} {t' : FileTree}
    (read : t.read cwd path = .ok text.toUTF8)
    (h : p.repair .write cwd t path = (.ok outcome, t')) :
    t'.read cwd path = .ok (p.apply text).toUTF8 := by
  rw [repair_of_text p read (Utf8.decode_eq_ok_iff.mpr rfl)] at h
  split at h
  · rename_i same
    obtain ⟨-, rfl⟩ := Prod.mk.inj h
    rw [same, read]
  · split at h
    · cases (Prod.mk.inj h).1
    · rename_i written
      obtain ⟨-, rfl⟩ := Prod.mk.inj h
      exact FileTree.read_of_write read written

theorem repaired_of_file {bytes : ByteArray} {access : Access}
    (resolved : t.resolve cwd path = .ok place) (node : t.node? place = some (.file bytes access)) :
    p.Repaired t path place (p.repair .write cwd t path) := by
  have read := FileTree.read_of_file resolved node
  cases readable : access.canRead with
  | false =>
    rw [readable] at read
    rw [repair_of_read_error p read]
    refine p.repaired_of_same (by simp [node, outcomeAt, readable]) ?_
    cases decoded : Utf8.decode bytes <;> simp [node, repairNode, decoded, readable]
  | true =>
    rw [readable] at read
    cases decoded : Utf8.decode bytes with
    | error cause =>
      rw [repair_of_decode_error p read decoded]
      exact p.repaired_of_same (by simp [node, outcomeAt, readable, decoded])
        (by simp [node, repairNode, decoded])
    | ok text =>
      have encoded := Utf8.decode_eq_ok_iff.mp decoded
      rw [repair_of_text p read decoded]
      by_cases same : p.apply text = text
      · rw [if_pos same]
        refine p.repaired_of_same (by simp [node, outcomeAt, readable, decoded, same]) ?_
        have kept : text.toUTF8 = bytes := encoded.symm
        simp only [node, Option.map_some, repairNode, decoded, same, kept, ite_self]
      · rw [if_neg same, FileTree.write_of_file resolved node]
        cases writable : access.canWrite with
        | false =>
          exact p.repaired_of_same (by simp [node, outcomeAt, readable, decoded, same, writable])
            (by simp [node, repairNode, decoded, writable])
        | true =>
          refine ⟨by simp [node, outcomeAt, readable, decoded, same, writable],
            FileTree.outline_put node, fun other => ?_⟩
          rw [if_pos rfl]
          refine (FileTree.node?_put node).trans ?_
          by_cases h : other = place
          · simp only [h, if_true, node, Option.map_some, repairNode, decoded, readable, writable,
              Bool.and_self]
          · rw [if_neg h, if_neg h]

theorem repaired_of_resolve (resolved : t.resolve cwd path = .ok place) :
    p.Repaired t path place (p.repair .write cwd t path) := by
  cases node : t.node? place with
  | none =>
    have read : t.read cwd path = .error .notFound := by simp [FileTree.read, resolved, node]
    rw [repair_of_read_error p read]
    exact p.repaired_of_same (by simp [node, outcomeAt]) (by simp [node])
  | some n =>
    cases n with
    | directory =>
      have read : t.read cwd path = .error .isDirectory := by simp [FileTree.read, resolved, node]
      rw [repair_of_read_error p read]
      exact p.repaired_of_same (by simp [node, outcomeAt]) (by simp [node, repairNode])
    | file bytes access => exact p.repaired_of_file resolved node

theorem repair_of_unresolved {cause : AccessFault} (h : t.resolve cwd path = .error cause) :
    p.repair .write cwd t path = (.error (.fileRead path cause), t) :=
  repair_of_read_error p (by simp [FileTree.read, h])

/-- One repair changes a place if the path names it. -/
theorem node?_repair (p : Pipeline) (cwd : Location) (t : FileTree) (path : FilePath)
    (place : Location) : (p.repair .write cwd t path).2.node? place =
      if t.names cwd place path then (t.node? place).map p.repairNode else t.node? place := by
  cases resolved : t.resolve cwd path with
  | error cause => simp [repair_of_unresolved p resolved, FileTree.names, resolved]
  | ok found =>
    rw [(p.repaired_of_resolve resolved).node place]
    by_cases h : place = found
    · rw [if_pos h, if_pos (by simp [FileTree.names, resolved, h])]
    · rw [if_neg h, if_neg (by simp [FileTree.names, resolved, Ne.symm h])]

theorem outline_repair (p : Pipeline) (cwd : Location) (t : FileTree) (path : FilePath) :
    (p.repair .write cwd t path).2.outline = t.outline := by
  cases resolved : t.resolve cwd path with
  | error cause => rw [repair_of_unresolved p resolved]
  | ok found => exact (p.repaired_of_resolve resolved).outline

end Pipeline

end LintRepair
