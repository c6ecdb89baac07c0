import LintRepair.Proofs.Rule.Realization
import LintRepair.Rule.Catalog
import Mathlib.Data.List.Forall2

/-! # The edits of the fixed rules

A lookup is rewritten behind a word, and what names an unused value is rewritten in front of a word;
in both cases the rule matches the word as well and puts it back.
-/

namespace LintRepair.Catalog

open LintRepair.Text LintRepair.Files LintRepair.Pattern LintRepair.Replacement

/-- The lookup of a key with a default, behind a word. -/
def lookup (key : List Char) : Edit :=
  .replace ⟨Word, '[' :: key ++ "] ||".toList, fun _ => True⟩ "[name] ??".toList

/-- Conditions on an empty object, whatever white space stands in them. -/
def emptyCondition : Edit where
  sought f := ∃ a b c d, (∀ x ∈ a ++ b ++ c ++ d, whiteSpace.contains x = true) ∧
    f = .plain ('i' :: 'f' :: (a ++ '(' :: (b ++ '{' :: (c ++ '}' :: (d ++ [')'])))))
  put := "if (false)".toList

/-- Calls that write to the log. -/
def consoleLog : Edit := .replace (.plain "console.log(".toList) "console.warn(".toList

/-- The word that marks unused values, at the start of a longer word. -/
def unusedPrefix : Edit :=
  .replace ⟨fun c => ¬ Word c, "unused".toList, Word⟩ "_".toList

namespace Pieces

open Core

/-- Any amount of white space. -/
def blanks : Core := .star true (.set whiteSpace)

/-- A word. -/
def letters : Core := .plus true (.set wordChars)

def boundary : Core := .look (.boundary .unicode)

end Pieces

open Core Pieces

variable {rule : Rule} {source : Option FilePath} {before old after new key put : List Char}

section Words

variable {w rest x : List Char}

theorem word_head?_append (nonempty : w ≠ []) (members : ∀ c ∈ w, Word (some c)) :
    Word (w ++ rest).head? := by
  rw [head?_append_of_ne_nil nonempty, List.head?_eq_some_head nonempty]
  exact members _ (List.head_mem nonempty)

theorem word_getLast?_append (nonempty : w ≠ []) (members : ∀ c ∈ w, Word (some c)) :
    Word (x ++ w).getLast? := by
  rw [getLast?_append_of_ne_nil nonempty, List.getLast?_eq_some_getLast nonempty]
  exact members _ (List.getLast_mem nonempty)

/-- A text that starts with a word character starts with a whole word. -/
theorem exists_word (h : Word rest.head?) : ∃ w rest', rest = w ++ rest' ∧ w ≠ [] ∧
    (∀ c ∈ w, Word (some c)) ∧ ¬ Word rest'.head? := by
  induction rest with
  | nil => exact absurd h not_word_none
  | cons c rest ih =>
    by_cases hrest : Word rest.head?
    · obtain ⟨w, rest', rfl, -, members, stop⟩ := ih hrest
      exact ⟨c :: w, rest', rfl, List.cons_ne_nil _ _, List.forall_mem_cons.mpr ⟨h, members⟩, stop⟩
    · exact ⟨[c], rest, rfl, List.cons_ne_nil _ _, List.forall_mem_cons.mpr ⟨h, by simp⟩, hrest⟩

end Words

theorem reads_word_iff {read : List Char} {s s' : Slots} :
    (Core.group 1 letters).Reads before read after s s' ↔
      read ≠ [] ∧ (∀ c ∈ read, Word (some c)) ∧
        s' = (3, (before ++ read).length) :: (2, before.length) :: s := by
  rw [reads_group_iff]
  simp only [letters, reads_plus_set_iff]
  constructor
  · intro h
    obtain ⟨_, ⟨nonempty, members, rfl⟩, rfl⟩ := h
    exact ⟨nonempty, members, rfl⟩
  · intro h
    obtain ⟨nonempty, members, rfl⟩ := h
    exact ⟨_, ⟨nonempty, members, rfl⟩, rfl⟩

/-- A word and a text behind it are replaced, and the word is put back. -/
def wordThen (key put : List Char) : Hits := fun _ old _ new =>
  ∃ w, w ≠ [] ∧ (∀ c ∈ w, Word (some c)) ∧ old = w ++ key ∧ new = w ++ put

theorem hit_wordThen_iff
    (template : parts rule.replacement.toList =
      [].map .char ++ .group (.byNumber 1) :: put.map .char) :
    CompiledRule.Hit ⟨rule, ⟨sequence (.group 1 letters :: spelling key), []⟩, source⟩
        before old after new ↔ wordThen key put before old after new := by
  have filled (w : List Char) :
      CompiledRule.fill ⟨rule, ⟨sequence (.group 1 letters :: spelling key), []⟩, source⟩
        (before ++ (w ++ key ++ after)) ⟨before.length, (before ++ (w ++ key)).length,
          [(3, (before ++ w).length), (2, before.length)]⟩ = w ++ put := by
    rw [List.append_assoc w]
    exact CompiledRule.fill_eq_of_group template Nat.one_ne_zero rfl
  constructor
  · intro h
    obtain ⟨s, reads, rfl⟩ := h
    obtain ⟨w, rest, s₁, rfl, head, tail⟩ := reads_sequence_cons_iff.mp reads
    obtain ⟨nonempty, members, rfl⟩ := reads_word_iff.mp head
    obtain ⟨rfl, rfl⟩ := reads_spelling_iff.mp tail
    exact ⟨w, nonempty, members, rfl, filled w⟩
  · intro h
    obtain ⟨w, nonempty, members, rfl, rfl⟩ := h
    exact ⟨_, reads_sequence_cons_iff.mpr ⟨w, key, _, rfl,
      reads_word_iff.mpr ⟨nonempty, members, rfl⟩, reads_spelling_iff.mpr ⟨rfl, rfl⟩⟩,
      (filled w).symm⟩

/-- The word in front can be left out of what is replaced. -/
theorem trims_wordThen (hhead : ∀ rest, ¬ Word (key ++ rest).head?)
    (hlast : ∀ x, ¬ Word (x ++ key).getLast?) :
    Trims (wordThen key put) (Edit.replace ⟨Word, key, fun _ => True⟩ put).hits := by
  refine ⟨?_, ?_, ?_⟩
  · intro before old after new h
    obtain ⟨w, nonempty, members, rfl, rfl⟩ := h
    have last : Word (before ++ w).getLast? := word_getLast?_append nonempty members
    refine ⟨w, key, [], put, by simp, by simp, Edit.hits_replace_iff.mpr ⟨⟨last, trivial⟩, rfl, rfl⟩,
      fun u v hw hv starts => ?_, .nil⟩
    obtain ⟨rest, hrest, -⟩ := Edit.starts_replace_iff.mp starts
    have members' : ∀ c ∈ v, Word (some c) := fun c hc => members c (by simp [hw, hc])
    exact hhead rest (hrest ▸ word_head?_append hv members')
  · intro before rest starts
    obtain ⟨after, rfl, left, -⟩ := Edit.starts_replace_iff.mp starts
    rcases List.eq_nil_or_concat before with rfl | ⟨b, c, rfl⟩
    · exact absurd left not_word_none
    rw [List.concat_eq_append] at left ⊢
    have word : Word (some c) := by simpa using left
    exact .inr ⟨b, c, rfl, c :: key, after, c :: put, rfl, [c], by simp, by simpa using word, rfl, rfl⟩
  · intro before old after new hit starts
    obtain ⟨w, -, -, rfl, -⟩ := hit
    obtain ⟨-, -, left, -⟩ := Edit.starts_replace_iff.mp starts
    rw [← List.append_assoc] at left
    exact absurd left (hlast _)

theorem solid_wordThen (hkey : key ≠ []) : Solid (wordThen key put) := by
  intro before after new h
  obtain ⟨w, -, -, hold, -⟩ := h
  exact hkey (List.append_eq_nil_iff.mp hold.symm).2

theorem trims_lookup :
    Trims (wordThen ('[' :: key ++ "] ||".toList) "[name] ??".toList) (lookup key).hits := by
  refine trims_wordThen ?_ ?_
  · intro rest
    exact show ¬ Word (some '[') by decide
  · intro x
    rw [show x ++ ('[' :: key ++ "] ||".toList) = (x ++ '[' :: key ++ "] |".toList) ++ ['|'] by simp,
      List.getLast?_concat]
    decide

theorem realizes_lookup (compiled : Regex.compile rule.pattern =
      .ok ⟨sequence (.group 1 letters :: spelling ('[' :: key ++ "] ||".toList)), []⟩)
    (template : parts rule.replacement.toList =
      [].map .char ++ .group (.byNumber 1) :: "[name] ??".toList.map .char) : rule.Realizes (lookup key) :=
  Rule.realizes_of_trims (Rule.eq_of_compile compiled) (fun _ _ _ _ _ => hit_wordThen_iff template)
    (solid_wordThen (List.cons_ne_nil _ _)) (Edit.solid_replace (List.cons_ne_nil _ _)) trims_lookup

set_option maxRecDepth 8000 in
theorem compile_leading : leading.map (fun rule => Regex.compile rule.pattern) =
    [.ok ⟨sequence (.group 1 letters :: spelling ('[' :: "name".toList ++ "] ||".toList)), []⟩,
      .ok ⟨sequence (.group 1 letters :: spelling ('[' :: "value".toList ++ "] ||".toList)), []⟩] :=
  rfl

theorem realizes_leading :
    List.Forall₂ Rule.Realizes leading [lookup "name".toList, lookup "value".toList] := by
  obtain ⟨name, rest⟩ := List.cons.inj compile_leading
  obtain ⟨value, -⟩ := List.cons.inj rest
  exact .cons (realizes_lookup name (by decide)) (.cons (realizes_lookup value (by decide)) .nil)

theorem reads_blanks_cons_iff {es : List Core} {read : List Char} {s s' : Slots} :
    Reads (sequence (blanks :: es)) before read after s s' ↔
      ∃ a rest, read = a ++ rest ∧ (∀ c ∈ a, whiteSpace.contains c = true) ∧
        Reads (sequence es) (before ++ a) rest after s s' := by
  rw [reads_sequence_cons_iff]
  simp only [blanks, reads_star_set_iff]
  constructor
  · intro h
    obtain ⟨a, rest, _, rfl, ⟨members, rfl⟩, tail⟩ := h
    exact ⟨a, rest, rfl, members, tail⟩
  · intro h
    obtain ⟨a, rest, rfl, members, tail⟩ := h
    exact ⟨a, rest, s, rfl, ⟨members, rfl⟩, tail⟩

theorem reads_boundary_cons_iff {es : List Core} {read : List Char} {s s' : Slots} :
    Reads (sequence (boundary :: es)) before read after s s' ↔
      (Word before.getLast? ↔ ¬ Word (read ++ after).head?) ∧
        Reads (sequence es) before read after s s' := by
  rw [reads_sequence_cons_iff]
  simp only [boundary, reads_look_iff]
  have between (b a : Option Char) :
      (Look.boundary .unicode).between b a = true ↔ (Word b ↔ ¬ Word a) := by
    simp only [Look.between, Word]
    cases Alphabet.unicode.isWord b <;> cases Alphabet.unicode.isWord a <;> decide
  constructor
  · intro h
    obtain ⟨_, rest, _, rfl, ⟨holds, rfl, rfl⟩, tail⟩ := h
    exact ⟨(between ..).mp holds, by simpa using tail⟩
  · intro h
    obtain ⟨holds, tail⟩ := h
    exact ⟨[], read, s, rfl, ⟨(between ..).mpr holds, rfl, rfl⟩, by simpa using tail⟩

/-- The parts of a pattern for a condition on an empty object. -/
def conditionParts : List Core :=
  spelling "if".toList ++ blanks :: (spelling ['('] ++ blanks :: (spelling ['{'] ++
    blanks :: (spelling ['}'] ++ blanks :: spelling [')'])))

theorem hit_emptyCondition_iff
    (template : parts rule.replacement.toList = "if (false)".toList.map .char) :
    CompiledRule.Hit ⟨rule, ⟨sequence conditionParts, []⟩, source⟩ before old after new ↔
      emptyCondition.hits before old after new := by
  simp only [CompiledRule.Hit, CompiledRule.fill_eq_of_chars template, conditionParts,
    reads_spelling_append_iff, reads_blanks_cons_iff, reads_spelling_iff]
  constructor
  · rintro ⟨_, ⟨_, rfl, a, _, rfl, ha, _, rfl, b, _, rfl, hb, _, rfl, c, _, rfl, hc, _, rfl, d, _, rfl,
      hd, rfl, rfl⟩, rfl⟩
    refine ⟨_, ⟨a, b, c, d, fun x hx => ?_, rfl⟩, ⟨trivial, trivial⟩, by simp [Phrase.plain], rfl⟩
    simp only [List.mem_append] at hx
    rcases hx with ((hx | hx) | hx) | hx
    · exact ha x hx
    · exact hb x hx
    · exact hc x hx
    · exact hd x hx
  · intro h
    obtain ⟨_, ⟨a, b, c, d, members, rfl⟩, -, rfl, rfl⟩ := h
    have white (w : List Char) (hw : ∀ x ∈ w, x ∈ a ++ b ++ c ++ d) :
        ∀ x ∈ w, whiteSpace.contains x = true := fun x hx => members x (hw x hx)
    refine ⟨[], ⟨_, ?_, a, _, rfl, white a (by simp +contextual), _, rfl, b, _, rfl,
      white b (by simp +contextual), _, rfl, c, _, rfl, white c (by simp +contextual), _, rfl, d, _,
      rfl, white d (by simp +contextual), rfl, rfl⟩, rfl⟩
    simp [Phrase.plain]

theorem realizes_emptyCondition (compiled : Regex.compile rule.pattern =
      .ok ⟨sequence conditionParts, []⟩)
    (template : parts rule.replacement.toList = "if (false)".toList.map .char) :
    rule.Realizes emptyCondition :=
  Rule.realizes_of_hits (Rule.eq_of_compile compiled) (fun _ _ _ _ _ => hit_emptyCondition_iff template)
    fun _ _ => id

theorem hit_plain_iff {chars : List Char} (template : parts rule.replacement.toList = put.map .char) :
    CompiledRule.Hit ⟨rule, ⟨sequence (spelling chars), []⟩, source⟩ before old after new ↔
      (Edit.replace (.plain chars) put).hits before old after new := by
  simp only [CompiledRule.Hit, CompiledRule.fill_eq_of_chars template, reads_spelling_iff,
    Edit.hits_replace_iff]
  constructor
  · intro h
    obtain ⟨_, ⟨rfl, rfl⟩, rfl⟩ := h
    exact ⟨⟨trivial, trivial⟩, rfl, rfl⟩
  · intro h
    obtain ⟨-, rfl, rfl⟩ := h
    exact ⟨[], ⟨rfl, rfl⟩, rfl⟩

theorem realizes_plain {chars : List Char}
    (compiled : Regex.compile rule.pattern = .ok ⟨sequence (spelling chars), []⟩)
    (template : parts rule.replacement.toList = put.map .char) :
    rule.Realizes (.replace (.plain chars) put) :=
  Rule.realizes_of_hits (Rule.eq_of_compile compiled) (fun _ _ _ _ _ => hit_plain_iff template)
    fun _ _ => id

/-- A whole word with a mark in front is replaced, and what follows the mark is put back. -/
def markedWord (mark put : List Char) : Hits := fun before old after new =>
  ¬ Word before.getLast? ∧ ¬ Word after.head? ∧ ∃ w, w ≠ [] ∧ (∀ c ∈ w, Word (some c)) ∧
    old = mark ++ w ∧ new = put ++ w

theorem hit_markedWord_iff {mark : List Char} (hmark : ∀ rest, Word (mark ++ rest).head?)
    (template : parts rule.replacement.toList =
      put.map .char ++ .group (.byNumber 1) :: [].map .char) :
    CompiledRule.Hit ⟨rule, ⟨sequence (boundary :: (spelling mark ++ [.group 1 letters, boundary])),
          []⟩, source⟩ before old after new ↔ markedWord mark put before old after new := by
  have filled (w : List Char) :
      CompiledRule.fill ⟨rule, ⟨sequence (boundary ::
          (spelling mark ++ [.group 1 letters, boundary])), []⟩, source⟩
        (before ++ (mark ++ w ++ after)) ⟨before.length, (before ++ (mark ++ w)).length,
          [(3, (before ++ mark ++ w).length), (2, (before ++ mark).length)]⟩ = put ++ w := by
    have text : before ++ (mark ++ w ++ after) = before ++ mark ++ (w ++ after) := by simp
    have none : put ++ w = put ++ (w ++ []) := by simp
    rw [text, none]
    exact CompiledRule.fill_eq_of_group template Nat.one_ne_zero rfl
  have ends {w : List Char} {s s' : Slots} (word : Word (before ++ mark ++ w).getLast?) :
      Reads (sequence [boundary]) (before ++ mark ++ w) [] after s s' ↔
        ¬ Word after.head? ∧ s' = s := by
    rw [reads_boundary_cons_iff, reads_sequence_nil_iff]
    exact ⟨fun h => ⟨h.1.mp word, h.2.2⟩, fun h => ⟨⟨fun _ => h.1, fun _ => word⟩, rfl, h.2⟩⟩
  constructor
  · intro h
    obtain ⟨s, reads, rfl⟩ := h
    obtain ⟨first, reads₁⟩ := reads_boundary_cons_iff.mp reads
    obtain ⟨_, rfl, reads₂⟩ := reads_spelling_append_iff.mp reads₁
    obtain ⟨w, rest, _, rfl, head, reads₃⟩ := reads_sequence_cons_iff.mp reads₂
    obtain ⟨nonempty, members, rfl⟩ := reads_word_iff.mp head
    obtain rfl : rest = [] := (reads_sequence_nil_iff.mp (reads_boundary_cons_iff.mp reads₃).2).1
    obtain ⟨stop, rfl⟩ := (ends (word_getLast?_append nonempty members)).mp reads₃
    rw [List.append_nil] at first ⊢
    have start : ¬ Word before.getLast? := fun h =>
      first.mp h (by rw [List.append_assoc]; exact hmark _)
    exact ⟨start, stop, w, nonempty, members, rfl, filled w⟩
  · intro h
    obtain ⟨start, stop, w, nonempty, members, rfl, rfl⟩ := h
    have reads : Reads (sequence [.group 1 letters, boundary]) (before ++ mark) w after []
        [(3, (before ++ mark ++ w).length), (2, (before ++ mark).length)] :=
      reads_sequence_cons_iff.mpr ⟨w, [], _, (List.append_nil w).symm,
        reads_word_iff.mpr ⟨nonempty, members, rfl⟩, (ends (word_getLast?_append nonempty members)).mpr ⟨stop, rfl⟩⟩
    refine ⟨_, reads_boundary_cons_iff.mpr ⟨⟨fun h => absurd h start, fun h => absurd ?_ h⟩,
      reads_spelling_append_iff.mpr ⟨w, rfl, reads⟩⟩, (filled w).symm⟩
    rw [List.append_assoc]
    exact hmark _

/-- The word after the mark can be left out of what is replaced. -/
theorem trims_markedWord {mark : List Char} (hlast : ∀ x, Word (x ++ mark).getLast?) :
    Trims (markedWord mark put) (Edit.replace ⟨fun c => ¬ Word c, mark, Word⟩ put).hits := by
  have same_starts (before rest : List Char)
      (starts : Starts (Edit.replace ⟨fun c => ¬ Word c, mark, Word⟩ put).hits before rest) :
      Starts (markedWord mark put) before rest := by
    obtain ⟨after, rfl, left, right⟩ := Edit.starts_replace_iff.mp starts
    obtain ⟨w, after, rfl, nonempty, members, stop⟩ := exists_word right
    exact ⟨mark ++ w, after, put ++ w, by simp, left, stop, w, nonempty, members, rfl, rfl⟩
  refine ⟨?_, fun before rest starts => .inl (same_starts before rest starts),
    fun before old after new _ => same_starts (before ++ old) after⟩
  intro before old after new h
  obtain ⟨start, -, w, nonempty, members, rfl, rfl⟩ := h
  refine ⟨[], mark, w, put, rfl, rfl, ?_, .nil, fun u v hw hv starts => ?_⟩
  · rw [List.append_nil]
    exact Edit.hits_replace_iff.mpr ⟨⟨start, word_head?_append nonempty members⟩, rfl, rfl⟩
  · obtain ⟨-, -, left, -⟩ := Edit.starts_replace_iff.mp starts
    refine left ?_
    by_cases hu : u = []
    · subst hu
      simpa using hlast before
    · exact word_getLast?_append hu fun c hc => members c (by simp [hw, hc])

theorem word_unused : ∀ c ∈ "unused".toList, Word (some c) := word_of_all (by decide)

theorem word_head?_unused (rest : List Char) : Word ("unused".toList ++ rest).head? :=
  word_head?_append (by decide) word_unused

theorem trims_unusedPrefix : Trims (markedWord "unused".toList "_".toList) unusedPrefix.hits :=
  trims_markedWord fun _ => word_getLast?_append (by decide) word_unused

theorem realizes_unusedPrefix (compiled : Regex.compile rule.pattern =
      .ok ⟨sequence (boundary :: (spelling "unused".toList ++ [.group 1 letters, boundary])), []⟩)
    (template : parts rule.replacement.toList =
      "_".toList.map .char ++ .group (.byNumber 1) :: [].map .char) :
    rule.Realizes unusedPrefix := by
  refine Rule.realizes_of_trims (Rule.eq_of_compile compiled)
    (fun _ _ _ _ _ => hit_markedWord_iff word_head?_unused template) ?_
    (Edit.solid_replace (by decide)) trims_unusedPrefix
  intro before after new h
  obtain ⟨-, -, w, -, -, hold, -⟩ := h
  simp at hold

set_option maxRecDepth 8000 in
theorem compile_trailing : trailing.map (fun rule => Regex.compile rule.pattern) =
    [.ok ⟨sequence conditionParts, []⟩, .ok ⟨sequence (spelling "console.log(".toList), []⟩,
      .ok ⟨sequence (boundary :: (spelling "unused".toList ++ [.group 1 letters, boundary])), []⟩] :=
  rfl

theorem realizes_trailing :
    List.Forall₂ Rule.Realizes trailing [emptyCondition, consoleLog, unusedPrefix] := by
  obtain ⟨condition, rest⟩ := List.cons.inj compile_trailing
  obtain ⟨log, rest⟩ := List.cons.inj rest
  obtain ⟨unused, -⟩ := List.cons.inj rest
  exact .cons (realizes_emptyCondition condition (by decide))
    (.cons (realizes_plain log (by decide)) (.cons (realizes_unusedPrefix unused (by decide)) .nil))

theorem exists_compile_fixed {rule : Rule} (h : rule ∈ leading ++ trailing) :
    ∃ regex, Regex.compile rule.pattern = .ok regex := by
  have mapped : Regex.compile rule.pattern ∈
      (leading ++ trailing).map fun rule => Regex.compile rule.pattern := List.mem_map_of_mem h
  rw [List.map_append, compile_leading, compile_trailing] at mapped
  simp only [List.mem_append, List.mem_cons, List.not_mem_nil, or_false] at mapped
  rcases mapped with (h | h) | h | h | h
  all_goals exact ⟨_, h⟩

end LintRepair.Catalog
