import LintRepair.Proofs.Replacement.Scanner
import LintRepair.Proofs.Rule.Interaction
import Mathlib.Data.List.TakeWhile

/-! # The built-in rules as scanners

What a built-in rule does can be said without patterns. The rules for identifiers look for the identifier
itself, whatever characters it has, and each of the fixed rules replaces every part of a text that its
scanner finds.
-/

namespace LintRepair.Catalog

open LintRepair.Text LintRepair.Files LintRepair.Pattern LintRepair.Replacement

variable {rest text : List Char} {last : Option Char} {size : Nat}

/-! The scanner of a rule for an identifier -/

/-- Looks for an exclamation mark and an identifier behind it, where one of the last character of the
    identifier and the character behind it makes up words and the other does not. -/
def negationScanner (cs : List Char) : Scanner :=
  .between (fun _ => True) ('!' :: cs) (fun next => Word cs.getLast? ↔ ¬ Word next)
    (cs ++ " == null".toList)

theorem makes_negation {cs : List Char} (nonempty : cs ≠ []) :
    (negationScanner cs).Makes (negation cs) := by
  have ends : (['!'] ++ cs).getLast? = cs.getLast? := getLast?_append_of_ne_nil nonempty
  rw [negation, ← List.singleton_append, ends]
  exact Scanner.makes_between

/-- Compiled, the rule for an identifier goes through a text as the scanner for the identifier does. -/
theorem nullCheck_scans {id : String} (nonempty : id ≠ "") {source : Option FilePath}
    {r : CompiledRule} (compiled : (nullCheck id).compile source = .ok r) (d : Document) :
    (r.apply d).toList = (negationScanner id.toList).run d.toList := by
  have chars : id.toList ≠ [] := by simpa using nonempty
  exact (makes_negation chars).eq_run (solid_negation id.toList)
    (realizes_nullCheck id source r compiled d)

/-- The identifier ends in a mark of its own, so only the second negation ends at a word boundary. -/
theorem nullCheck_scans_mark_at_end : "a!" ≠ "" ∧ ∃ r, (nullCheck "a!").compile none = .ok r ∧
    (r.apply "!a!!a!b".toList.toArray).toList = "!a!a! == nullb".toList := by
  have small : (negationExpr "a!".toList).cost ≤ Expr.costLimit := by decide
  have compiled : (nullCheck "a!").compile none = .ok ⟨nullCheck "a!", negationRegex "a!".toList, none⟩ :=
    Rule.compile_eq_ok_iff.mpr ⟨_, (compile_nullCheck "a!").trans (if_pos small), rfl⟩
  refine ⟨by decide, _, compiled, ?_⟩
  rw [nullCheck_scans (by decide) compiled]
  decide

/-! The scanners of the fixed rules -/

/-- Looks for the lookup of a key with a default, directly behind a word character. -/
def lookupScanner (key : List Char) : Scanner :=
  .between Word ('[' :: key ++ "] ||".toList) (fun _ => True) "[name] ??".toList

/-- Looks for calls that write to the log. -/
def consoleLogScanner : Scanner :=
  .between (fun _ => True) "console.log(".toList (fun _ => True) "console.warn(".toList

/-- The text behind characters that stand at the beginning of a text in their order, with any white space
    before each. -/
def behind? : List Char → List Char → Option (List Char)
  | [], text => some text
  | mark :: marks, text =>
    match text.dropWhile isWhiteSpace with
    | c :: rest => if c = mark then behind? marks rest else none
    | [] => none

/-- Looks for conditions on an empty object. -/
def emptyConditionScanner : Scanner where
  size? _ text :=
    if "if".toList <+: text then
      (behind? "(\x7b\x7d)".toList (text.drop 2)).map fun rest => text.length - rest.length
    else none
  put := "if (false)".toList

/-- Looks for whole words that start with the mark of unused values and have more characters, and finds
    the mark. -/
def unusedPrefixScanner : Scanner where
  size? last text :=
    let word := text.takeWhile isWordChar
    if ¬ Word last ∧ "unused".toList <+: word ∧ "unused".toList.length < word.length then
      some "unused".toList.length
    else none
  put := "_".toList

theorem makes_lookup (key : List Char) : (lookupScanner key).Makes (lookup key) :=
  Scanner.makes_between

theorem separates_lookup {key : List Char} (h : '[' ∉ key) : (lookupScanner key).Separates :=
  have once : '[' ∉ key ++ "] ||".toList := by simp [h]
  Scanner.separates_between rfl once

theorem makes_consoleLog : consoleLogScanner.Makes consoleLog := Scanner.makes_between

theorem separates_consoleLog : consoleLogScanner.Separates :=
  have once : 'c' ∉ "onsole.log(".toList := by decide
  Scanner.separates_between rfl once

theorem behind?_cons_eq_some_iff {mark : Char} {marks : List Char}
    (loud : isWhiteSpace mark = false) : behind? (mark :: marks) text = some rest ↔
      ∃ blanks text', (∀ x ∈ blanks, isWhiteSpace x = true) ∧ text = blanks ++ mark :: text' ∧
        behind? marks text' = some rest := by
  rw [behind?]
  constructor
  · intro h
    have split := List.takeWhile_append_dropWhile (p := isWhiteSpace) (l := text)
    cases behind : text.dropWhile isWhiteSpace with
    | nil => simp [behind] at h
    | cons c text' =>
      rw [behind] at h split
      obtain ⟨rfl, more⟩ : c = mark ∧ behind? marks text' = some rest := by simpa using h
      exact ⟨_, text', fun x hx => List.mem_takeWhile_imp hx, split.symm, more⟩
  · rintro ⟨blanks, text', blank, rfl, more⟩
    rw [List.dropWhile_append_of_pos blank, List.dropWhile_cons_of_neg (by simp [loud])]
    simpa using more

theorem behind?_braces_eq_some_iff : behind? "(\x7b\x7d)".toList text = some rest ↔
    ∃ a b c d, (∀ x ∈ a ++ b ++ c ++ d, isWhiteSpace x = true) ∧
      text = a ++ '(' :: (b ++ '{' :: (c ++ '}' :: (d ++ ')' :: rest))) := by
  have marks : "(\x7b\x7d)".toList = ['(', '{', '}', ')'] := rfl
  have opened : isWhiteSpace '(' = false := by decide
  have left : isWhiteSpace '{' = false := by decide
  have right : isWhiteSpace '}' = false := by decide
  have closed : isWhiteSpace ')' = false := by decide
  simp only [marks, behind?_cons_eq_some_iff opened, behind?_cons_eq_some_iff left,
    behind?_cons_eq_some_iff right, behind?_cons_eq_some_iff closed]
  constructor
  · rintro ⟨a, _, ha, rfl, b, _, hb, rfl, c, _, hc, rfl, d, _, hd, rfl, done⟩
    obtain rfl := Option.some_inj.mp done
    refine ⟨a, b, c, d, fun x hx => ?_, rfl⟩
    simp only [List.mem_append] at hx
    rcases hx with ((hx | hx) | hx) | hx
    · exact ha x hx
    · exact hb x hx
    · exact hc x hx
    · exact hd x hx
  · rintro ⟨a, b, c, d, blank, rfl⟩
    simp only [List.mem_append, or_imp, forall_and] at blank
    obtain ⟨⟨⟨ha, hb⟩, hc⟩, hd⟩ := blank
    exact ⟨a, _, ha, rfl, b, _, hb, rfl, c, _, hc, rfl, d, _, hd, rfl, rfl⟩

theorem size?_emptyCondition_eq_some_iff : emptyConditionScanner.size? last text = some size ↔
    ∃ f after, emptyCondition.sought f ∧ text = f.chars ++ after ∧ size = f.chars.length := by
  simp only [emptyConditionScanner, Option.ite_none_right_eq_some, Option.map_eq_some_iff,
    behind?_braces_eq_some_iff]
  constructor
  · rintro ⟨⟨text', rfl⟩, rest, ⟨a, b, c, d, blank, split⟩, rfl⟩
    obtain rfl : text' = a ++ '(' :: (b ++ '{' :: (c ++ '}' :: (d ++ ')' :: rest))) := split
    have parts : "if".toList ++ (a ++ '(' :: (b ++ '{' :: (c ++ '}' :: (d ++ ')' :: rest)))) =
        'i' :: 'f' :: (a ++ '(' :: (b ++ '{' :: (c ++ '}' :: (d ++ [')'])))) ++ rest := by simp
    refine ⟨_, rest, ⟨a, b, c, d, blank, rfl⟩, parts, ?_⟩
    rw [parts, List.length_append, Nat.add_sub_cancel]
    rfl
  · rintro ⟨_, rest, ⟨a, b, c, d, blank, rfl⟩, rfl, rfl⟩
    refine ⟨⟨_, rfl⟩, rest, ⟨a, b, c, d, blank, by simp [Phrase.plain]⟩, ?_⟩
    rw [List.length_append, Nat.add_sub_cancel]

theorem makes_emptyCondition : emptyConditionScanner.Makes emptyCondition := by
  refine ⟨rfl, fun before text size => ?_⟩
  rw [size?_emptyCondition_eq_some_iff]
  constructor
  · rintro ⟨f, after, sought, split, length⟩
    obtain ⟨a, b, c, d, -, rfl⟩ := id sought
    exact ⟨_, after, sought, split, ⟨trivial, trivial⟩, length⟩
  · rintro ⟨f, after, sought, split, -, length⟩
    exact ⟨f, after, sought, split, length⟩

theorem separates_emptyCondition : emptyConditionScanner.Separates := by
  refine Scanner.separates_of_first (c := 'i') (fun last text size found => ?_)
    fun before old after found => ?_
  · obtain ⟨_, after, ⟨a, b, c, d, -, rfl⟩, rfl, -⟩ := size?_emptyCondition_eq_some_iff.mp found
    rfl
  · obtain ⟨_, after, ⟨a, b, c, d, blank, rfl⟩, same, length⟩ :=
      size?_emptyCondition_eq_some_iff.mp found
    have absent (w : List Char) (hw : ∀ x ∈ w, isWhiteSpace x = true) : 'i' ∉ w := fun h =>
      absurd (hw 'i' h) (by decide)
    simp only [List.mem_append, or_imp, forall_and] at blank
    obtain ⟨⟨⟨ha, hb⟩, hc⟩, hd⟩ := blank
    rw [(List.append_inj same length).1]
    simp [Phrase.plain, absent a ha, absent b hb, absent c hc, absent d hd]

theorem size?_unusedPrefix_eq_some_iff : unusedPrefixScanner.size? last text = some size ↔
    ∃ after, text = "unused".toList ++ after ∧ ¬ Word last ∧ Word after.head? ∧
      size = "unused".toList.length := by
  have mark : ∀ c ∈ "unused".toList, isWordChar c = true := List.all_eq_true.mp (by decide)
  simp only [unusedPrefixScanner, Option.ite_none_right_eq_some, Option.some.injEq]
  constructor
  · rintro ⟨⟨start, ⟨w, whole⟩, longer⟩, rfl⟩
    have split := List.takeWhile_append_dropWhile (p := isWordChar) (l := text)
    rw [← whole] at split longer
    have nonempty : w ≠ [] := by
      rintro rfl
      exact absurd longer (by decide)
    refine ⟨w ++ text.dropWhile isWordChar, by rw [← List.append_assoc, split], start, ?_, rfl⟩
    refine word_head?_append nonempty fun c hc => ?_
    have among : c ∈ text.takeWhile isWordChar := whole ▸ List.mem_append_right _ hc
    exact List.mem_takeWhile_imp (p := isWordChar) among
  · rintro ⟨after, rfl, start, more, rfl⟩
    obtain ⟨w, rest, rfl, nonempty, word, -⟩ := exists_word more
    have inWord : ∀ c ∈ w, isWordChar c = true := word
    rw [List.takeWhile_append_of_pos mark, List.takeWhile_append_of_pos inWord]
    refine ⟨⟨start, List.prefix_append _ _, ?_⟩, rfl⟩
    have := List.length_pos_iff.mpr nonempty
    simp only [List.length_append]
    omega

theorem makes_unusedPrefix : unusedPrefixScanner.Makes unusedPrefix := by
  refine ⟨rfl, fun before text size => ?_⟩
  rw [size?_unusedPrefix_eq_some_iff]
  constructor
  · rintro ⟨after, rfl, start, more, rfl⟩
    exact ⟨_, after, rfl, rfl, ⟨start, more⟩, rfl⟩
  · rintro ⟨_, after, rfl, rfl, ⟨start, more⟩, rfl⟩
    exact ⟨after, rfl, start, more, rfl⟩

theorem separates_unusedPrefix : unusedPrefixScanner.Separates := by
  intro before old after found front back split frontNonempty _
  refine Option.eq_none_iff_forall_ne_some.mpr fun size again => ?_
  obtain ⟨_, same, -, -, length⟩ := size?_unusedPrefix_eq_some_iff.mp found
  obtain ⟨_, -, start, -⟩ := size?_unusedPrefix_eq_some_iff.mp again
  obtain rfl := (List.append_inj same length).1
  have mark : ∀ c ∈ "unused".toList, Word (some c) := word_of_all (by decide)
  exact start (word_getLast?_append frontNonempty fun c hc =>
    mark c (split ▸ List.mem_append_left _ hc))

theorem scannable_negation {cs : List Char} (nonempty : cs ≠ []) : (negation cs).Scannable :=
  ⟨solid_negation cs, _, makes_negation nonempty⟩

theorem scannable_fixed : ∀ e ∈ leadingEdits ++ trailingEdits, e.Scannable := by
  intro e he
  rcases List.mem_append.mp he with he | he
  · obtain ⟨key, -, rfl⟩ := List.mem_map.mp he
    exact ⟨solid_lookup key, _, makes_lookup key⟩
  · simp only [trailingEdits, List.mem_cons, List.not_mem_nil, or_false] at he
    rcases he with rfl | rfl | rfl
    · exact ⟨solid_emptyCondition, _, makes_emptyCondition⟩
    · exact ⟨solid_consoleLog, _, makes_consoleLog⟩
    · exact ⟨solid_unusedPrefix, _, makes_unusedPrefix⟩

/-- The fixed rules by their names, without patterns. -/
def fixedScanners : List (String × Scanner) :=
  [("nullish-name", lookupScanner "name".toList), ("nullish-value", lookupScanner "value".toList),
   ("empty-object-condition", emptyConditionScanner), ("console-log-to-warn", consoleLogScanner),
   ("unused-prefix", unusedPrefixScanner)]

/-- Whether a rule can be compiled and then does what a scanner does, which replaces all that it looks
    for. -/
structure ScansAs (rule : Rule) (s : Scanner) : Prop where
  separates : s.Separates
  compiles : ∃ regex, ∀ source, rule.compile source = .ok ⟨rule, regex, source⟩
  scans : ∀ source r, rule.compile source = .ok r →
    ∀ d : Document, (r.apply d).toList = s.run d.toList

theorem scansAs_of_realizes {rule : Rule} {s : Scanner} {e : Edit} (realizes : rule.Realizes e)
    (fixed : rule ∈ leading ++ trailing) (solid : e.Solid) (makes : s.Makes e)
    (separates : s.Separates) : ScansAs rule s := by
  obtain ⟨regex, compiled⟩ := exists_compile_fixed fixed
  exact ⟨separates, ⟨regex, fun _ => Rule.compile_eq_ok_iff.mpr ⟨regex, compiled, rfl⟩⟩,
    fun source r h d => makes.eq_run solid (realizes source r h d)⟩

/-- Each of the fixed rules replaces every part of a text that its scanner finds, and nothing else. -/
theorem fixed_rules_scan : List.Forall₂ (fun rule named => rule.id = named.1 ∧ ScansAs rule named.2)
    (leading ++ trailing) fixedScanners := by
  obtain ⟨name, rest⟩ := List.forall₂_cons.mp realizes_leading
  obtain ⟨value, -⟩ := List.forall₂_cons.mp rest
  obtain ⟨condition, rest⟩ := List.forall₂_cons.mp realizes_trailing
  obtain ⟨log, rest⟩ := List.forall₂_cons.mp rest
  obtain ⟨unused, -⟩ := List.forall₂_cons.mp rest
  refine .cons ⟨rfl, ?name⟩ (.cons ⟨rfl, ?value⟩ (.cons ⟨rfl, ?condition⟩ (.cons ⟨rfl, ?log⟩
    (.cons ⟨rfl, ?unused⟩ .nil))))
  case name =>
    exact scansAs_of_realizes name (by simp [leading]) (solid_lookup _) (makes_lookup _)
      (separates_lookup (by decide))
  case value =>
    exact scansAs_of_realizes value (by simp [leading]) (solid_lookup _) (makes_lookup _)
      (separates_lookup (by decide))
  case condition =>
    exact scansAs_of_realizes condition (by simp [trailing]) solid_emptyCondition
      makes_emptyCondition separates_emptyCondition
  case log =>
    exact scansAs_of_realizes log (by simp [trailing]) solid_consoleLog makes_consoleLog
      separates_consoleLog
  case unused =>
    exact scansAs_of_realizes unused (by simp [trailing]) solid_unusedPrefix makes_unusedPrefix
      separates_unusedPrefix

end LintRepair.Catalog
