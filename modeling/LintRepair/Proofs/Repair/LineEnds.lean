import LintRepair.Proofs.Repair.OneFile
import LintRepair.Proofs.Rule.LineByLine

/-! # Line breaks of repaired files

Repair with the built-in rules keeps the line breaks of a file, except for those in conditions on an empty
object.
-/

namespace LintRepair.Catalog

open LintRepair.Files

/-- The built-in pipeline works line by line: unless a match of the rule for conditions holds the break,
    what is before a line break and what is behind it are repaired on their own. So the file holds the
    repaired lines afterwards, and between them the same breaks. -/
theorem pipeline_keeps_line_breaks : ∃ p, pipeline = .ok p ∧
    (∀ a b : String, ¬InCondition (a ++ "\n" ++ b).toList a.toList.length →
      p.apply (a ++ "\n" ++ b) = p.apply a ++ "\n" ++ p.apply b) ∧
    ∀ lines last, Parted lines last →
      p.apply (joined lines last) = joined (lines.map (Line.repaired p)) (p.apply last) ∧
      ∀ (t t' : FileTree) (cwd : Location) (path : FilePath) (outcome : Outcome),
        t.read cwd path = .ok (joined lines last).toUTF8 →
        p.repair .write cwd t path = (.ok outcome, t') →
        t'.read cwd path = .ok (joined (lines.map (Line.repaired p)) (p.apply last)).toUTF8 := by
  obtain ⟨p, compiled, pass⟩ := exists_default_pipeline
  refine ⟨p, compiled, apply_parted pass, fun lines last parted => ?_⟩
  have repaired := apply_joined pass parted
  refine ⟨repaired, fun t t' cwd path outcome read h => ?_⟩
  rw [← repaired]
  exact p.read_of_repair read h

/-- A condition with a line break in it, and two lines that end in different ways. -/
def brokenCondition : List Line := [⟨"if (\x7b\n\x7d)", .crlf⟩, ⟨"!text", .lf⟩]

/-- A file with these lines. -/
def brokenConditionTree : FileTree := ⟨[([['a']], .file (joined brokenCondition "").toUTF8 .full)]⟩

/-- Only the break in the condition parts nothing. -/
theorem pipeline_keeps_line_breaks_outside : ∃ p, pipeline = .ok p ∧
    InCondition (joined brokenCondition "").toList "if (\x7b".toList.length ∧
    Parted brokenCondition "" ∧
    p.apply ("!text" ++ "\n" ++ "\x7b\x7d") = p.apply "!text" ++ "\n" ++ p.apply "\x7b\x7d" ∧
    ∃ outcome t', p.repair .write [] brokenConditionTree ⟨"a"⟩ = (.ok outcome, t') ∧
      t'.read [] ⟨"a"⟩ = .ok (joined [⟨p.apply "if (\x7b\n\x7d)", .crlf⟩, ⟨p.apply "!text", .lf⟩]
        (p.apply "")).toUTF8 := by
  obtain ⟨p, compiled, parts, keeps⟩ := pipeline_keeps_line_breaks
  have parted : Parted brokenCondition "" := by decide +kernel
  have read : brokenConditionTree.read [] ⟨"a"⟩ = .ok (joined brokenCondition "").toUTF8 := by rfl
  obtain ⟨outcome, t', repaired⟩ : ∃ outcome t',
      p.repair .write [] brokenConditionTree ⟨"a"⟩ = (.ok outcome, t') := by
    rw [p.repair_of_text read (Text.Utf8.decode_eq_ok_iff.mpr rfl)]
    split
    · exact ⟨_, _, rfl⟩
    · exact ⟨_, _, rfl⟩
  refine ⟨p, compiled, by decide +kernel, parted, parts _ _ (by decide +kernel), outcome, t', repaired, ?_⟩
  exact (keeps _ _ parted).2 _ _ _ _ _ read repaired

end LintRepair.Catalog
