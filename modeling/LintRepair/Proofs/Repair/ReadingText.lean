import LintRepair.Proofs.Repair.OneFile

/-! # Reading the text of a file

The text of a file is the one whose bytes the file holds, and writing it back changes nothing. A file
that holds no text is reported with the place where its text ends and with what stands there.
-/

namespace LintRepair

open LintRepair.Files LintRepair.Text LintRepair.Text.Utf8

namespace Files.FileTree

variable {t t' : FileTree} {cwd : Location} {path : FilePath} {bytes : ByteArray} {text : String}

/-- What reading text from a file with such bytes comes to. -/
structure ReadsText (t : FileTree) (cwd : Location) (path : FilePath) (bytes : ByteArray) : Prop where
  text : ∀ text, t.readText cwd path = .ok text ↔ text.toUTF8 = bytes
  /-- The text of a file, written to it again, leaves all files as they are. -/
  kept : ∀ text t', t.readText cwd path = .ok text → t.writeText cwd path text = .ok t' →
    t'.read cwd path = .ok bytes ∧ ∀ place, t'.node? place = t.node? place
  /-- The fault of a file without text: where the text at its beginning ends, and how much of a
      character follows. -/
  fault : (∀ text : String, text.toUTF8 ≠ bytes) → ∃ fault start n,
    t.readText cwd path = .error (.fileDecode path fault) ∧
    Longest IsText bytes.toList start ∧ Longest Begins (bytes.toList.drop start) n ∧
    (fault.message = "incomplete utf-8 byte sequence from index " ++ toString start ↔
      CutOff (bytes.toList.drop start)) ∧
    (fault.message = "invalid utf-8 sequence of " ++ toString (max 1 n) ++ " bytes from index " ++
        toString start ↔ ¬CutOff (bytes.toList.drop start))

theorem readText_of_read (read : t.read cwd path = .ok bytes) : t.readText cwd path =
    match decode bytes with
    | .error cause => .error (.fileDecode path cause)
    | .ok text => .ok text := by
  cases decoded : decode bytes <;> simp only [readText, read, decoded]

theorem wordings_differ (length place place' : String) :
    "invalid utf-8 sequence of " ++ length ++ " bytes from index " ++ place ≠
      "incomplete utf-8 byte sequence from index " ++ place' := by
  intro h
  -- The third letters differ.
  have third := congrArg (fun message => message.toList[2]?) h
  simp at third

theorem exists_fault (undecodable : ∀ text : String, text.toUTF8 ≠ bytes) :
    ∃ fault, decode bytes = .error fault ∧ fault.Describes bytes.toList := by
  cases h : decode bytes with
  | ok text => exact absurd (decode_eq_ok_iff.mp h).symm (undecodable text)
  | error fault => exact ⟨fault, rfl, (decode_eq_error_iff.mp h).2⟩

/-- Reading the text of a file is exact. -/
theorem readText_exact (read : t.read cwd path = .ok bytes) : t.ReadsText cwd path bytes where
  text text := by
    rw [readText_of_read read, eq_comm (a := text.toUTF8), ← decode_eq_ok_iff]
    cases decode bytes <;> simp
  kept text t' here written := by
    rw [readText_of_read read] at here
    cases decoded : decode bytes with
    | error cause => simp [decoded] at here
    | ok found =>
      obtain rfl : found = text := by simpa [decoded] using here
      have same : found.toUTF8 = bytes := (decode_eq_ok_iff.mp decoded).symm
      have write : t.write cwd path bytes = .ok t' := by
        rw [writeText, same] at written
        split at written
        · cases written
        · rename_i found
          cases written
          exact found
      exact ⟨read_of_write read write, fun place => node?_of_rewrite read write⟩
  fault undecodable := by
    obtain ⟨fault, decoded, describes⟩ := exists_fault undecodable
    have reported : t.readText cwd path = .error (.fileDecode path fault) := by
      rw [readText_of_read read, decoded]
    cases describes with
    | @incomplete start text cut =>
      refine ⟨_, start, _, reported, text, longest_self (begins_of_cutOff cut), ?_, ?_⟩
      · exact iff_of_true rfl cut
      · exact iff_of_false (wordings_differ _ _ _).symm (not_not_intro cut)
    | @invalid start n text uncut longest =>
      refine ⟨_, start, n, reported, text, longest, ?_, ?_⟩
      · exact iff_of_false (wordings_differ _ _ _) uncut
      · exact iff_of_true rfl uncut

/-- Files without text: a character that the end cuts off, and bytes that begin no character. -/
def textlessTree : FileTree :=
  ⟨[([['c', 'u', 't']], .file ⟨#[0x61, 0xE2, 0x82]⟩ .full),
    ([['b', 'i', 'n']], .file ⟨#[0xFF, 0xFE, 0x00, 0x80]⟩ .readOnly)]⟩

theorem readText_exact_textless :
    textlessTree.read [] ⟨"cut"⟩ = .ok ⟨#[0x61, 0xE2, 0x82]⟩ ∧
      textlessTree.ReadsText [] ⟨"cut"⟩ ⟨#[0x61, 0xE2, 0x82]⟩ ∧
      textlessTree.readText [] ⟨"cut"⟩ = .error (.fileDecode ⟨"cut"⟩ (.incomplete 1)) ∧
      textlessTree.read [] ⟨"bin"⟩ = .ok ⟨#[0xFF, 0xFE, 0x00, 0x80]⟩ ∧
      textlessTree.ReadsText [] ⟨"bin"⟩ ⟨#[0xFF, 0xFE, 0x00, 0x80]⟩ ∧
      textlessTree.readText [] ⟨"bin"⟩ = .error (.fileDecode ⟨"bin"⟩ (.invalid 1 0)) := by
  have cut : textlessTree.read [] ⟨"cut"⟩ = .ok ⟨#[0x61, 0xE2, 0x82]⟩ := by rfl
  have bin : textlessTree.read [] ⟨"bin"⟩ = .ok ⟨#[0xFF, 0xFE, 0x00, 0x80]⟩ := by rfl
  refine ⟨cut, readText_exact cut, ?_, bin, readText_exact bin, ?_⟩ <;> decide +kernel

end Files.FileTree

end LintRepair
