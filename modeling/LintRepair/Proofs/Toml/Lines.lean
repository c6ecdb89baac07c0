import LintRepair.Proofs.Toml.Quoting
import LintRepair.Settings.Layout
import Mathlib.Data.List.Forall2
import Mathlib.Data.List.TakeDrop

/-! # Lines are read back

What spells a value is read as the value wherever a value can end. A line with a name and such a value,
and a header with a name, are read as the statements that they stand for, whatever follows them. So a
text that is put together from them is read as all of their statements.
-/

namespace LintRepair.Toml

open LintRepair.Settings

variable {depth fuel : Nat} {chars name after rest : List Char} {css : List (List Char)}
  {c : Char} {v : Value} {vs : List Value} {s : Statement} {ss : List Statement}

/-- A value can end in front of a text: at a comma, at a closing bracket or at a line feed. -/
def Ends (rest : List Char) : Prop := ∃ c ∈ [',', ']', '\n'], ∃ tail, rest = c :: tail

/-- A text starts with a character that neither may be left out nor closes a list. -/
def Opens (cs : List Char) : Prop :=
  ∃ c tail, cs = c :: tail ∧ c ∉ [' ', '\t', '\n', '\r', '#', ']']

namespace Opens

theorem append (h : Opens chars) (rest : List Char) : Opens (chars ++ rest) := by
  obtain ⟨c, tail, rfl, opens⟩ := h
  exact ⟨c, tail ++ rest, rfl, opens⟩

theorem skipSpaces_eq (h : Opens chars) : skipSpaces chars = chars := by
  obtain ⟨c, tail, rfl, opens⟩ := h
  simp only [List.mem_cons, List.not_mem_nil, or_false, not_or] at opens
  simp [skipSpaces, isSpace, opens]

theorem skipBlank_eq (h : Opens chars) : skipBlank false chars = chars := by
  obtain ⟨c, tail, rfl, opens⟩ := h
  simp only [List.mem_cons, List.not_mem_nil, or_false, not_or] at opens
  simp [skipBlank, isSpace, opens]

theorem ne_closing (h : Opens chars) (tail : List Char) : chars ≠ ']' :: tail := by
  rintro rfl
  obtain ⟨c, tail, same, opens⟩ := h
  obtain ⟨rfl, -⟩ := List.cons.inj same
  exact absurd opens (by decide)

end Opens

/-- Characters are read as a value of at most so much depth, wherever it can end. -/
structure Spells (depth : Nat) (chars : List Char) (v : Value) : Prop where
  opens : Opens chars
  reads : ∀ rest, Ends rest → value? depth (chars ++ rest) = some (v, rest)

/-- Whatever starts with neither bracket stands alone. -/
theorem value?_eq_plain? (bracket : c ≠ '[') (brace : c ≠ '{') :
    value? depth (c :: rest) = plain? (c :: rest) := by
  cases depth <;> simp [value?, bracket, brace]

theorem spells_quote (depth : Nat) (text : List Char) : Spells depth (quote text) (.text text) where
  opens := ⟨'"', _, rfl, by decide⟩
  reads rest ends := by
    have noMark : rest.head? ≠ some '"' := by
      obtain ⟨c, hc, tail, rfl⟩ := ends
      intro mark
      obtain rfl : c = '"' := Option.some.inj mark
      exact absurd hc (by decide)
    rw [← plain?_quote noMark]
    exact value?_eq_plain? (by decide) (by decide)

theorem spells_bool (depth : Nat) (b : Bool) : Spells depth (boolText b) (.bool b) where
  opens := by cases b <;> exact ⟨_, _, rfl, by decide⟩
  reads rest ends := by
    obtain ⟨c, hc, tail, rfl⟩ := ends
    simp only [List.mem_cons, List.not_mem_nil, or_false] at hc
    cases b
    all_goals
      apply (value?_eq_plain? (by decide) (by decide)).trans
      rcases hc with rfl | rfl | rfl <;> rfl

/-- A space in front of a value of a list does not count. -/
theorem items?_space (value? : ValueReader) (fuel : Nat) (cs : List Char) :
    items? value? fuel (' ' :: cs) = items? value? fuel cs := by
  cases fuel with
  | zero => rfl
  | succ fuel =>
    have blank : skipBlank false (' ' :: cs) = skipBlank false cs := by simp [skipBlank, isSpace]
    rw [items?, items?, blank]

/-- A value in front of the closing bracket is the last one. -/
theorem items?_last (spells : Spells depth chars v) (rest : List Char) :
    items? (value? depth) (fuel + 1) (chars ++ ']' :: rest) = some ([v], rest) := by
  have opens := spells.opens.append (']' :: rest)
  have value := spells.reads (']' :: rest) ⟨']', by decide, rest, rfl⟩
  have closing : skipBlank false (']' :: rest) = ']' :: rest := by simp [skipBlank, isSpace]
  rw [items?, opens.skipBlank_eq]
  simp [opens.ne_closing, value, closing]

/-- The list goes on behind a value with a comma. -/
theorem items?_more (spells : Spells depth chars v) (rest : List Char) :
    items? (value? depth) (fuel + 1) (chars ++ ',' :: rest) =
      (items? (value? depth) fuel rest).map fun found => (v :: found.1, found.2) := by
  have opens := spells.opens.append (',' :: rest)
  have value := spells.reads (',' :: rest) ⟨',', by decide, rest, rfl⟩
  have comma : skipBlank false (',' :: rest) = ',' :: rest := by simp [skipBlank, isSpace]
  rw [items?, opens.skipBlank_eq]
  simp [opens.ne_closing, value, comma]

/-- Values with commas between them are read as all of the values. -/
theorem items?_separated (spelled : List.Forall₂ (Spells depth) css vs) (room : css.length < fuel)
    (rest : List Char) :
    items? (value? depth) fuel (separated css ++ ']' :: rest) = some (vs, rest) := by
  induction spelled generalizing fuel with
  | nil =>
    cases fuel with
    | zero => exact absurd room (Nat.not_lt_zero _)
    | succ fuel => simp [separated, items?, skipBlank, isSpace]
  | @cons chars v css vs head tail ih =>
    cases fuel with
    | zero => exact absurd room (Nat.not_lt_zero _)
    | succ fuel =>
      have more := ih (Nat.lt_of_succ_lt_succ room)
      cases tail with
      | nil =>
        rw [separated]
        exact items?_last head rest
      | @cons next v' css vs _ _ =>
        -- The space behind the comma stands in front of the values that follow.
        have split : separated (chars :: next :: css) ++ ']' :: rest =
            chars ++ ',' :: ' ' :: (separated (next :: css) ++ ']' :: rest) := by
          simp [separated]
        rw [split, items?_more head, items?_space, more]
        rfl

theorem length_le_length_separated (spelled : List.Forall₂ (Spells depth) css vs) :
    css.length ≤ (separated css).length := by
  induction spelled with
  | nil => exact Nat.le_refl _
  | @cons chars v css vs head tail ih =>
    obtain ⟨c, cs, rfl, -⟩ := head.opens
    cases tail with
    | nil => simp [separated]
    | cons _ _ =>
      simp only [separated, List.length_append, List.length_cons] at ih ⊢
      omega

/-- A list of values spells a value of one level more. -/
theorem spells_list (spelled : List.Forall₂ (Spells depth) css vs) :
    Spells (depth + 1) ('[' :: separated css ++ [']']) (.array vs) where
  opens := ⟨'[', _, rfl, by decide⟩
  reads rest _ := by
    have whole : '[' :: separated css ++ [']'] ++ rest = '[' :: (separated css ++ ']' :: rest) := by
      simp
    have room : css.length < ('[' :: (separated css ++ ']' :: rest)).length := by
      have := length_le_length_separated spelled
      simp only [List.length_cons, List.length_append]
      omega
    rw [whole, value?]
    simp only [items?_separated spelled room, Option.map_some]

theorem spells_quotedList (depth : Nat) (texts : List String) :
    Spells (depth + 1) (quotedList texts) (.array (texts.map fun text => .text text.toList)) := by
  apply spells_list
  rw [List.forall₂_map_left_iff, List.forall₂_map_right_iff, List.forall₂_same]
  intro text _
  exact spells_quote depth text.toList

/-- A name that is written without quotes. -/
structure IsBareName (name : List Char) : Prop where
  nonempty : name ≠ []
  bare : ∀ c ∈ name, Key.isBare c = true

instance : DecidablePred IsBareName := fun name =>
  decidable_of_iff (name ≠ [] ∧ name.all Key.isBare = true)
    ⟨fun h => ⟨h.1, List.all_eq_true.mp h.2⟩, fun h => ⟨h.nonempty, List.all_eq_true.mpr h.bare⟩⟩

theorem ne_of_isBare {d : Char} (h : Key.isBare c = true) (hd : Key.isBare d = false) : c ≠ d := by
  rintro rfl
  rw [h] at hd
  cases hd

theorem IsBareName.opens (h : IsBareName name) : Opens name := by
  obtain ⟨c, tail, rfl⟩ := List.exists_cons_of_ne_nil h.nonempty
  have bare := h.bare c List.mem_cons_self
  refine ⟨c, tail, rfl, fun blank => ?_⟩
  have none : [' ', '\t', '\n', '\r', '#', ']'].all (!Key.isBare ·) = true := by decide
  have other := List.all_eq_true.mp none c blank
  simp [bare] at other

/-- A name is read up to the first character that cannot belong to it. -/
theorem Key.part?_bareName (h : IsBareName name) (stop : ∀ c ∈ rest.head?, Key.isBare c = false) :
    Key.part? (name ++ rest) = some (name, rest) := by
  have cut : (name ++ rest).span Key.isBare = (name, rest) := by
    rw [List.span_eq_takeWhile_dropWhile, List.takeWhile_append_of_pos h.bare,
      List.dropWhile_append_of_pos h.bare]
    cases rest with
    | nil => simp
    | cons c rest => simp [stop c rfl]
  obtain ⟨c, cs, rfl⟩ := List.exists_cons_of_ne_nil h.nonempty
  have bare := h.bare c List.mem_cons_self
  have double : c ≠ '"' := ne_of_isBare bare (by decide)
  have single : c ≠ '\'' := ne_of_isBare bare (by decide)
  have noMark : Quoting.ofMark? c = none := by
    simp [Quoting.ofMark?, Quoting.basic, Quoting.literal, double, single]
  rw [List.cons_append] at cut ⊢
  simp only [Key.part?, noMark, bare, if_true, cut]

/-- A name in front of what no dot begins is a whole key. -/
theorem Key.read?_bareName (h : IsBareName name) (stop : ∀ c ∈ rest.head?, Key.isBare c = false)
    (dot : ∀ tail, skipSpaces rest ≠ '.' :: tail) :
    Key.read? Key.partLimit (name ++ rest) = some (.ofName name, skipSpaces rest) := by
  rw [Key.partLimit, Key.read?, Key.part?_bareName h stop]
  split
  case h_1 none => cases none
  case h_2 part found =>
    obtain ⟨rfl, rfl⟩ := Prod.mk.inj (Option.some.inj found)
    split
    case h_1 tail dots => exact absurd dots (dot tail)
    case h_2 => rfl

/-- A part of a document is read as a statement, whatever follows it. -/
structure StandsFor (chars : List Char) (s : Statement) : Prop where
  nonempty : chars ≠ []
  reads : ∀ fuel rest, Statement.readAll? (fuel + 1) (chars ++ rest) =
    (Statement.readAll? fuel rest).map (s :: ·)

/-- Where no line is left out, the statement that is read comes first. -/
theorem readAll?_of_read? (opens : Opens chars) (h : Statement.read? chars = some (s, after)) :
    Statement.readAll? (fuel + 1) chars = (Statement.readAll? fuel after).map (s :: ·) := by
  rw [Statement.readAll?, opens.skipBlank_eq]
  obtain ⟨c, tail, rfl, -⟩ := opens
  simp [h]

theorem lineEnd?_lineFeed (rest : List Char) : lineEnd? ('\n' :: rest) = some rest := by
  simp [lineEnd?, skipSpaces, isSpace, lineFeed?]

/-- A name with a value on a line is read as a pair. -/
theorem read?_line (bare : IsBareName name) (spells : Spells depthLimit chars v) (rest : List Char) :
    Statement.read? (line name chars ++ rest) = some (.pair (.ofName name) v, rest) := by
  have whole : line name chars ++ rest = name ++ (' ' :: '=' :: ' ' :: (chars ++ '\n' :: rest)) := by
    simp [line]
  have key : Key.read? Key.partLimit (name ++ (' ' :: '=' :: ' ' :: (chars ++ '\n' :: rest))) =
      some (.ofName name, '=' :: ' ' :: (chars ++ '\n' :: rest)) := by
    apply Key.read?_bareName bare
    · simp [Key.isBare]
    · simp [skipSpaces, isSpace]
  have space : skipSpaces (' ' :: (chars ++ '\n' :: rest)) = chars ++ '\n' :: rest := by
    have first (cs : List Char) : skipSpaces (' ' :: cs) = skipSpaces cs := by
      simp [skipSpaces, isSpace]
    rw [first, (spells.opens.append _).skipSpaces_eq]
  have value := spells.reads ('\n' :: rest) ⟨'\n', by decide, rest, rfl⟩
  have pair : Statement.pair? (line name chars ++ rest) = some (.pair (.ofName name) v, rest) := by
    rw [whole]
    simp [Statement.pair?, key, space, value, lineEnd?_lineFeed]
  obtain ⟨c, cs, rfl⟩ := List.exists_cons_of_ne_nil bare.nonempty
  have bracket : c ≠ '[' := ne_of_isBare (bare.bare c List.mem_cons_self) (by decide)
  rw [← pair, whole, List.cons_append]
  simp [Statement.read?, bracket]

/-- A name with a value on a line stands for a pair. -/
theorem standsFor_line (bare : IsBareName name) (spells : Spells depthLimit chars v) :
    StandsFor (line name chars) (.pair (.ofName name) v) where
  nonempty := by simp [line]
  reads fuel rest := by
    have opens : Opens (line name chars ++ rest) := by
      simp only [line, List.append_assoc]
      exact bare.opens.append _
    exact readAll?_of_read? opens (read?_line bare spells rest)

/-- A name in two brackets on a line is read as a header of a listed table. -/
theorem read?_listed (bare : IsBareName name) (rest : List Char) :
    Statement.read? ('[' :: '[' :: (name ++ ']' :: ']' :: '\n' :: rest)) =
      some (.listed (.ofName name), rest) := by
  have space := (bare.opens.append (']' :: ']' :: '\n' :: rest)).skipSpaces_eq
  have key : Key.read? Key.partLimit (name ++ ']' :: ']' :: '\n' :: rest) =
      some (.ofName name, ']' :: ']' :: '\n' :: rest) := by
    apply Key.read?_bareName bare
    · simp [Key.isBare]
    · simp [skipSpaces, isSpace]
  simp only [Statement.read?, Statement.header?, space, key, lineEnd?_lineFeed, Option.map_some]

/-- A header with two brackets behind an empty line stands for a listed table. -/
theorem standsFor_listed (bare : IsBareName name) :
    StandsFor ('\n' :: '[' :: '[' :: (name ++ "]]\n".toList)) (.listed (.ofName name)) where
  nonempty := List.cons_ne_nil _ _
  reads fuel rest := by
    have whole : '\n' :: '[' :: '[' :: (name ++ "]]\n".toList) ++ rest =
        '\n' :: '[' :: '[' :: (name ++ ']' :: ']' :: '\n' :: rest) := by simp
    have blank (cs : List Char) :
        Statement.readAll? (fuel + 1) ('\n' :: cs) = Statement.readAll? (fuel + 1) cs := by
      simp [Statement.readAll?, skipBlank]
    rw [whole, blank]
    exact readAll?_of_read? ⟨'[', _, rfl, by decide⟩ (read?_listed bare rest)

/-- Parts that stand for statements are read as all of them. -/
theorem readAll?_of_standsFor (parts : List.Forall₂ StandsFor css ss) (room : css.length < fuel) :
    Statement.readAll? fuel css.flatten = some ss := by
  induction parts generalizing fuel with
  | nil =>
    cases fuel with
    | zero => exact absurd room (Nat.not_lt_zero _)
    | succ fuel => rfl
  | @cons chars s css ss head _ ih =>
    cases fuel with
    | zero => exact absurd room (Nat.not_lt_zero _)
    | succ fuel =>
      rw [List.flatten_cons, head.reads, ih (Nat.lt_of_succ_lt_succ room)]
      rfl

theorem length_le_length_flatten (parts : List.Forall₂ StandsFor css ss) :
    css.length ≤ css.flatten.length := by
  induction parts with
  | nil => exact Nat.le_refl _
  | @cons chars s css ss head _ ih =>
    have := List.length_pos_of_ne_nil head.nonempty
    simp only [List.flatten_cons, List.length_append, List.length_cons]
    omega

/-- A document that is put together from such parts describes what their statements make up. -/
theorem Document.read?_of_standsFor (parts : List.Forall₂ StandsFor css ss)
    (noMark : css.flatten.head? ≠ some '\ufeff') :
    Document.read? css.flatten = Document.ofStatements? ss := by
  have whole : skipMark css.flatten = css.flatten := by
    unfold skipMark
    split
    case h_1 rest marked => exact absurd (by rw [marked]; rfl) noMark
    case h_2 => rfl
  have room := Nat.lt_succ_of_le (length_le_length_flatten parts)
  simp only [Document.read?, whole, readAll?_of_standsFor parts room]

end LintRepair.Toml
