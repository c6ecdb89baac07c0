import LintRepair.Proofs.CommandLine.Reading
import LintRepair.Proofs.CommandLine.RepairRun

/-! # Words that are files

After two dashes every word is a file. Before them the words after a file are files too as long as none
looks like an option, so the dashes are needed only for names that start with one and for a first name
that calls a subcommand.
-/

namespace LintRepair.CommandLine

variable {arg : String} {files : List String}

/-- Whether words are files without dashes in front of them. -/
structure PlainFiles (files : List String) : Prop where
  undashed : ∀ file ∈ files, file.toList.head? ≠ some '-'
  /-- Only the first word could call a subcommand. -/
  callsNothing : files.head? ≠ some "config" ∧ files.head? ≠ some "help"

theorem Word.plain_of_undashed (h : arg.toList.head? ≠ some '-') :
    Word.ofArgument arg = .plain := by
  rw [Word.ofArgument]
  split
  case h_1 dashes => simp [dashes] at h
  case h_2 long => simp [long] at h
  case h_3 short => simp [short] at h
  case h_4 => rfl

/-- Behind a file, words that are no options are files. -/
theorem Given.read_files (plain : ∀ file ∈ files, Word.ofArgument file = .plain) (g : Given) :
    g.read true files = (g.addFiles files).finishAlone := by
  induction files generalizing g with
  | nil => rfl
  | cons file files ih =>
    obtain ⟨head, tail⟩ := List.forall_mem_cons.mp plain
    rw [read_file (.inl rfl) head, ih tail, addFiles_cons]

/-- Such words are read as if two dashes stood in front of them. -/
theorem read_dashes_files (h : PlainFiles files) (nonempty : files ≠ []) :
    Request.read ("--" :: files) = Request.read files := by
  cases files with
  | nil => exact absurd rfl nonempty
  | cons file files =>
    have plain : ∀ f ∈ file :: files, Word.ofArgument f = .plain := fun f hf =>
      Word.plain_of_undashed (h.undashed f hf)
    obtain ⟨head, tail⟩ := List.forall_mem_cons.mp plain
    have unnamed : file ≠ "config" ∧ file ≠ "help" := by simpa using h.callsNothing
    rw [Request.read, Given.read_dashes, Request.read, Given.read_file (.inr unnamed) head,
      Given.read_files tail, Given.addFiles_cons]

/-- Every word after two dashes is a file to repair, in the order given and whatever the words are
    called, with the options in front of the dashes. Words that are files without the dashes make no
    other run with them. -/
theorem operands_are_files (nonempty : files ≠ []) (named : "" ∉ files) :
    ∃ builtin, Catalog.pipeline = .ok builtin ∧
      (∀ flags : List Flag, (∀ f ∈ flags, f.IsMild) → flags.Nodup → ∀ w,
        RepairRun w files (flags.contains .dryRun) (flags.contains .noConfig) builtin
          (flags.map Flag.word ++ "--" :: files)) ∧
      (PlainFiles files → ∀ w, run w files = run w ("--" :: files)) := by
  obtain ⟨builtin, compiled, -⟩ := Catalog.exists_default_pipeline
  refine ⟨builtin, compiled, fun flags mild distinct w => ?_, fun plain w => ?_⟩
  · have asked := read_options_files mild distinct nonempty
    rw [if_neg (by simpa using named)] at asked
    exact repairRun_of_read compiled asked nonempty w
  · rw [run, run, read_dashes_files plain nonempty]

/-- A file may be called like an option, like the dashes or like a subcommand. -/
theorem operands_are_files_oddly_named :
    ["--init", "--", "config"] ≠ [] ∧ "" ∉ ["--init", "--", "config"] ∧
      (∀ w, (run w ["--dry-run", "--", "--init", "--", "config"]).code = 0) ∧
      PlainFiles ["a.ts", "config"] ∧
      ∀ w, run w ["a.ts", "config"] = run w ["--", "a.ts", "config"] := by
  have plain : PlainFiles ["a.ts", "config"] := ⟨by decide, by decide⟩
  obtain ⟨_, -, odd, -⟩ := @operands_are_files ["--init", "--", "config"] (by decide) (by decide)
  obtain ⟨_, -, -, same⟩ := @operands_are_files ["a.ts", "config"] (by decide) (by decide)
  refine ⟨by decide, by decide, fun w => ?_, plain, same plain⟩
  exact (odd [.dryRun] (by simp [Flag.IsMild]) (by decide) w).code

end LintRepair.CommandLine
