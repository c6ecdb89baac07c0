import LintRepair.Proofs.CommandLine.Operands
import Mathlib.Data.List.TakeDrop

/-! # How arguments are taken

Arguments that are not refused are taken from the left, each word in one of a few ways. They ask for
help, for the version, or for what has been gathered when they end.
-/

namespace LintRepair.CommandLine

variable {arg name : String} {args : List String} {f : Flag} {topic : Topic} {r : Request}

theorem Word.eq_of_long (h : Word.ofArgument arg = .long name none) : arg = "--" ++ name := by
  rw [Word.ofArgument] at h
  split at h
  · cases h
  · rename_i cs _ word
    cases parts : cs.span (· != '=') with
    | mk front rest =>
      rw [parts] at h
      cases rest with
      | cons c rest => simp at h
      | nil =>
        obtain rfl : String.ofList front = name := by simpa using h
        have all : cs = front := by
          rw [List.span_eq_takeWhile_dropWhile, Prod.mk.injEq] at parts
          rw [← List.takeWhile_append_dropWhile (l := cs) (p := (· != '=')), parts.1, parts.2,
            List.append_nil]
        rw [← String.toList_inj, word, all]
        simp
  · cases h
  · cases h

theorem Flag.word_of_long (h : Word.ofArgument arg = .long name none)
    (known : ofName? name = some f) : arg = f.word := by
  have named : f.name = name := by simpa using List.find?_some known
  rw [word, named, Word.eq_of_long h]

theorem Word.eq_dashes (h : Word.ofArgument arg = .dashes) : arg = "--" := by
  rw [Word.ofArgument] at h
  split at h
  case h_1 dashes => rw [← String.toList_inj, dashes]; rfl
  case h_2 => split at h <;> cases h
  case h_3 => cases h
  case h_4 => cases h

/-! Only help is asked for by the words after a subcommand, unless they look at settings. -/

theorem Topic.help_of_find (h : Topic.find topic args = .ok r) : ∃ topic, r = .help topic := by
  fun_induction Topic.find topic args with
  | case1 topic =>
    cases h
    exact ⟨topic, rfl⟩
  | case2 args ih => exact ih h
  | case3 args ih => exact ih h
  | case4 args ih => exact ih h
  | case5 args ih => exact ih h
  | case6 args ih => exact ih h
  | case7 => cases h

theorem help_of_helpOr {unknown : Refusal} (h : helpOr topic arg unknown = .ok r) :
    ∃ topic, r = .help topic := by
  rw [helpOr] at h
  split at h
  · cases h
    exact ⟨topic, rfl⟩
  · cases h
  · cases h
  · cases h
    exact ⟨topic, rfl⟩
  · cases h
  · cases h

theorem settings_of_leaf {command : SettingsCommand} (h : leaf topic command args = .ok r) :
    (∃ topic, r = .help topic) ∨ r = .settings command := by
  unfold leaf at h
  split at h
  · cases h
    exact .inr rfl
  · cases h
    exact .inr rfl
  · cases h
  · exact .inl (help_of_helpOr h)

theorem settings_of_configWords (h : configWords args = .ok r) :
    (∃ topic, r = .help topic) ∨ ∃ command, r = .settings command := by
  unfold configWords at h
  split at h
  · cases h
  · exact (settings_of_leaf h).imp id fun h => ⟨_, h⟩
  · exact (settings_of_leaf h).imp id fun h => ⟨_, h⟩
  · exact .inl (Topic.help_of_find h)
  · cases h
  · split at h <;> cases h
  · exact .inl (help_of_helpOr h)

/-- Whether a request asks for a text of the program itself. -/
def Request.Informs : Request → Prop
  | .help _ => True
  | .version => True
  | _ => False

namespace Given

variable {g g' : Given} {command : Option SettingsCommand} {afterFile : Bool}

/-- How words are taken that are not refused. -/
inductive Takes : Given → Bool → List String → Request → Prop where
  | done {g : Given} {afterFile : Bool} {r : Request} (finished : g.finishAlone = .ok r) :
      Takes g afterFile [] r
  | inform {g : Given} {afterFile : Bool} {arg : String} {args : List String} {r : Request}
      (informs : r.Informs) : Takes g afterFile (arg :: args) r
  | settings {g : Given} {args : List String} {r : Request} (command : SettingsCommand)
      (called : configWords args = .ok (.settings command))
      (finished : g.finish (some command) = .ok r) : Takes g false ("config" :: args) r
  | dashes {g : Given} {afterFile : Bool} {args : List String} {r : Request}
      (finished : (g.addFiles args).finishAlone = .ok r) : Takes g afterFile ("--" :: args) r
  | file {g : Given} {afterFile : Bool} {arg : String} {args : List String} {r : Request}
      (free : afterFile = true ∨ arg ≠ "config" ∧ arg ≠ "help")
      (plain : Word.ofArgument arg = .plain) (rest : Takes (g.addFile arg) true args r) :
      Takes g afterFile (arg :: args) r
  | flag {g : Given} {afterFile : Bool} {args : List String} {r : Request} (f : Flag)
      (named : g.files.contains "" = false) (fresh : g.has (.flag f) = false)
      (rest : Takes (g.add (.flag f)) false args r) : Takes g afterFile (f.word :: args) r

theorem takes_of_withConfig (h : g.withConfig args = .ok r) : g.Takes false ("config" :: args) r := by
  rw [withConfig] at h
  split at h
  case h_1 command called => exact .settings command called h
  case h_2 other =>
    rcases settings_of_configWords h with ⟨topic, rfl⟩ | ⟨command, rfl⟩
    · exact .inform trivial
    · exact (other command h).elim

theorem eq_of_answer {r' : Request} (h : g.answer r' = .ok r) : r = r' := by
  rw [answer] at h
  split at h
  · cases h
  · cases h
    rfl

theorem takeFlag_eq_ok (h : g.takeFlag f = .ok g') :
    g.files.contains "" = false ∧ g.has (.flag f) = false ∧ g' = g.add (.flag f) := by
  rw [takeFlag] at h
  split at h
  · cases h
  · rename_i named
    split at h
    · cases h
    · rename_i fresh
      exact ⟨by simpa using named, by simpa using fresh, by simpa using h.symm⟩

theorem takes_of_read (h : g.read afterFile args = .ok r) : g.Takes afterFile args r := by
  induction args generalizing g afterFile with
  | nil => exact .done h
  | cons arg args ih =>
    rw [read] at h
    split at h
    case isTrue first =>
      obtain ⟨rfl, rfl⟩ : afterFile = false ∧ arg = "config" := by simpa using first
      exact takes_of_withConfig h
    case isFalse noConfig =>
    split at h
    case isTrue =>
      obtain ⟨topic, rfl⟩ := Topic.help_of_find h
      exact .inform trivial
    case isFalse noHelp =>
    split at h
    case h_1 dashes =>
      obtain rfl := Word.eq_dashes dashes
      exact .dashes h
    case h_2 plain =>
      have free : afterFile = true ∨ arg ≠ "config" ∧ arg ≠ "help" := by
        cases afterFile with
        | true => exact .inl rfl
        | false => exact .inr ⟨by simpa using noConfig, by simpa using noHelp⟩
      exact .file free plain (ih h)
    case h_3 => exact eq_of_answer h ▸ .inform trivial
    case h_4 => exact eq_of_answer h ▸ .inform trivial
    case h_5 => cases h
    case h_6 => exact eq_of_answer h ▸ .inform trivial
    case h_7 => exact eq_of_answer h ▸ .inform trivial
    case h_8 name value _ _ word =>
      split at h
      case h_1 f known _ _ =>
        obtain rfl := Flag.word_of_long word known
        cases taken : g.takeFlag f with
        | error refusal =>
          rw [taken] at h
          cases h
        | ok g' =>
          rw [taken] at h
          obtain ⟨named, fresh, rfl⟩ := takeFlag_eq_ok taken
          exact .flag f named fresh (ih h)
      case h_2 => cases h
      case h_3 => split at h <;> cases h
      case h_4 => cases h

/-- A word that is no option and calls nothing is a file. -/
theorem read_file (free : afterFile = true ∨ arg ≠ "config" ∧ arg ≠ "help")
    (plain : Word.ofArgument arg = .plain) :
    g.read afterFile (arg :: args) = (g.addFile arg).read true args := by
  rw [read]
  rcases free with rfl | ⟨config, help⟩ <;> simp [*]

theorem finish_eq_ok_iff : g.finish command = .ok r ↔ g.fault? = none ∧ g.request command = r := by
  rw [finish]
  cases g.fault? <;> simp

theorem finishAlone_eq_ok_iff : g.finishAlone = .ok r ↔
    g.files.contains "" = false ∧ g.items.isEmpty = false ∧ g.fault? = none ∧
      g.request none = r := by
  rw [finishAlone, ← finish_eq_ok_iff]
  cases g.files.contains "" with
  | true => simp
  | false => cases g.items.isEmpty <;> simp

/-! What items and a subcommand ask for -/

theorem request_eq_init {force : Bool} (h : g.request command = .init force) :
    g.has (.flag .init) = true ∧ g.has (.flag .force) = force := by
  unfold request at h
  split at h
  · cases h
    exact ⟨by assumption, rfl⟩
  · split at h
    · cases h
    · split at h <;> cases h

theorem request_some (g : Given) (command : SettingsCommand) :
    (∃ force, g.request (some command) = .init force) ∨
      g.request (some command) = .settings command := by
  rw [request]
  split
  · exact .inl ⟨_, rfl⟩
  · exact .inr rfl

theorem request_eq_repair_iff {files : List String} {dryRun noConfig : Bool} :
    g.request command = .repair files dryRun noConfig ↔
      g.has (.flag .init) = false ∧ command = none ∧ g.has (.flag .listRules) = false ∧
        g.files = files ∧ g.has (.flag .dryRun) = dryRun ∧ g.has (.flag .noConfig) = noConfig := by
  unfold request
  cases g.has (.flag .init) with
  | true => simp
  | false =>
    cases command with
    | some command => simp
    | none => cases g.has (.flag .listRules) <;> simp

end Given

end LintRepair.CommandLine
