import LintRepair.Proofs.Rule.Passes

/-! # Runs of exclamation marks

A run is a number of exclamation marks with an identifier directly behind them that ends there. Each
rule for an identifier takes one mark from its own runs and makes no run of another identifier, and
the fixed rules make no runs at all.
-/

namespace LintRepair.Catalog

open LintRepair.Replacement

variable {a b before after p q r text out u v : List Char} {c : Char} {e : Edit} {n : Nat}

/-- Marks with an identifier behind them. -/
def marked (n : Nat) (cs : List Char) : List Char := List.replicate n '!' ++ cs

/-- A run of marks in front of an identifier that ends there. -/
def run (n : Nat) (cs : List Char) : Phrase := ⟨fun _ => True, marked n cs, fun next => ¬ Word next⟩

theorem marked_succ (n : Nat) (cs : List Char) : marked (n + 1) cs = marked n ('!' :: cs) := by
  simp [marked, List.replicate_succ']

theorem head?_marked (hn : 0 < n) : (marked n a).head? = some '!' := by
  cases n with
  | zero => exact absurd hn (Nat.lt_irrefl 0)
  | succ n => rfl

theorem marked_ne_nil (hn : 0 < n) : marked n a ≠ [] := by
  intro h
  have := head?_marked (a := a) hn
  rw [h] at this
  cases this

/-- An identifier made of word characters. -/
structure IsName (cs : List Char) : Prop where
  nonempty : cs ≠ []
  word : ∀ c ∈ cs, Word (some c)

namespace IsName

theorem not_mem (h : IsName a) (hc : ¬ Word (some c)) : c ∉ a := fun mem => hc (h.word c mem)

theorem word_last (h : IsName a) : Word ('!' :: a).getLast? := by
  rw [show '!' :: a = ['!'] ++ a from rfl]
  exact word_getLast?_append h.nonempty h.word

theorem edge_iff (h : IsName a) {next : Option Char} :
    (Word ('!' :: a).getLast? ↔ ¬ Word next) ↔ ¬ Word next :=
  ⟨fun edge => edge.mp h.word_last, fun stop => ⟨fun _ => stop, fun _ => h.word_last⟩⟩

/-- For such an identifier the edit seeks single marks in front of it. -/
theorem negation_eq (h : IsName a) : negation a = .replace (run 1 a) (a ++ " == null".toList) := by
  have edge : (fun next => Word ('!' :: a).getLast? ↔ ¬ Word next) = fun next => ¬ Word next := by
    funext next
    exact propext h.edge_iff
  rw [negation, edge]
  rfl

/-- The edit of an identifier makes no lookup. -/
theorem spares_lookup {key : List Char} (h : IsName a) (hkey : key ∈ keys) :
    (negation a).Spares (lookup key) := by
  have hput : (negation a).put = (a ++ [' ']) ++ '=' :: "= null".toList := by
    simp [negation, Edit.replace]
  have bar : '|' ∉ a ++ [' '] := by
    simp [h.not_mem (show ¬ Word (some '|') by decide)]
  refine Catalog.spares_lookup hkey (solid_negation _) hput (by decide) bar (by decide) ?_
  intro _ same _
  subst same
  exact h.word_last

end IsName

/-- After a pass the text is clean for the fixed edits of it. -/
theorem clean_fixed_of_names {leading middle trailing : List Edit}
    (subLeading : leading.Sublist leadingEdits) (subTrailing : trailing.Sublist trailingEdits)
    (names : ∀ e ∈ middle, ∃ a, IsName a ∧ e = negation a)
    (pass : Edit.Pass (leading ++ middle ++ trailing) text out) :
    ∀ e ∈ leading ++ trailing, e.Clean out := by
  obtain ⟨second, front, last⟩ := Edit.Pass.append_iff.mp pass
  obtain ⟨first, start, negated⟩ := Edit.Pass.append_iff.mp front
  have leads := forward_fixed.sublist (subLeading.trans (List.sublist_append_left _ trailingEdits))
  have others := forward_fixed.sublist (subTrailing.trans (List.sublist_append_right leadingEdits _))
  intro e he
  cases List.mem_append.mp he with
  | inl he =>
    obtain ⟨key, hkey, rfl⟩ := List.mem_map.mp (subLeading.subset he)
    have clean := start.clean_of_pairwise leads.1 leads.2 _ he
    have clean := negated.clean_of_keeps (fun e he => by
      obtain ⟨a, name, rfl⟩ := names e he
      exact (name.spares_lookup hkey).keeps (solid_negation _)) clean
    exact last.clean_of_keeps (fun e he =>
      (fixed_spare_lookup hkey e (List.mem_append_right _ (subTrailing.subset he))).keeps
        (solid_trailing e (subTrailing.subset he))) clean
  | inr he => exact last.clean_of_pairwise others.1 others.2 e he

/-- Where marked text ends in a name, the name is what follows the marks or ends it. -/
theorem eq_of_append_marked (ha : IsName a) (hn : 0 < n) (h : before ++ a = p ++ marked n b) :
    ∃ s, before = p ++ marked n s ∧ b = s ++ a := by
  rw [marked, ← List.append_assoc] at h
  cases List.append_eq_append_iff.mp h with
  | inl side =>
    obtain ⟨s, hs, rfl⟩ := side
    rcases List.eq_nil_or_concat s with rfl | ⟨s, d, rfl⟩
    · exact ⟨[], by simpa [marked] using hs.symm, rfl⟩
    -- The mark before the identifier would be a character of the name.
    · obtain ⟨k, rfl⟩ : ∃ k, n = k + 1 := ⟨n - 1, by omega⟩
      rw [List.replicate_succ', ← List.append_assoc, List.concat_eq_append, ← List.append_assoc] at hs
      obtain rfl := List.singleton_inj.mp (List.append_inj' hs rfl).2
      exact absurd (by simp) (ha.not_mem (show ¬ Word (some '!') by decide))
  | inr side =>
    obtain ⟨s, hs, rfl⟩ := side
    exact ⟨s, by simpa [marked] using hs, rfl⟩

/-- A place where a run with one more mark starts. -/
def LongerRun (n : Nat) (cs rest : List Char) : Prop :=
  ∃ q, rest = marked (n + 1) cs ++ q ∧ ¬ Word q.head?

/-- A run that ends in or before the identifier that is put back lies before it, or it ends with the
    identifier; there it had one more mark. -/
private theorem run_in_name (ha : IsName a) (hn : 0 < n) (proper : ∀ s, b = s ++ a → s = [])
    (stop : ¬ Word after.head?) (h : before ++ a = p ++ marked n b ++ r)
    (stop' : ¬ Word (r ++ u).head?) :
    (∃ r, before = p ++ (marked n b ++ r)) ∨
      ∃ s, before = p ++ s ∧ a = b ∧ LongerRun n b (s ++ ('!' :: a ++ after)) := by
  cases List.append_eq_append_iff.mp h with
  | inl side =>
    obtain ⟨s, hs, rfl⟩ := side
    cases List.eq_nil_or_concat r with
    | inl same =>
      subst same
      -- The run ends where the identifier does.
      rw [List.append_nil] at h ha proper ⊢
      obtain ⟨x, rfl, rfl⟩ := eq_of_append_marked ha hn hs.symm
      obtain rfl := proper x rfl
      refine .inr ⟨marked n [], rfl, rfl, after, ?_, stop⟩
      simp [marked, List.replicate_succ']
    | inr found =>
      obtain ⟨r, d, rfl⟩ := found
      have nonempty : r.concat d ≠ [] := by simp
      have word : Word (r.concat d ++ u).head? :=
        word_head?_append nonempty fun c hc => ha.word c (List.mem_append_right _ hc)
      exact absurd word stop'
  | inr side =>
    obtain ⟨s, rfl, rfl⟩ := side
    exact .inl ⟨s, by simp⟩

/-- A rule for an identifier leaves a run only where there was one, of its own identifier only where
    there was a longer one. -/
theorem traced_run (ha : IsName a) (hb : IsName b) (hn : 0 < n)
    (proper : ∀ s, b = s ++ a → s = []) :
    (run n b).Traced (negation a).hits fun _ rest => a = b ∧ LongerRun n b rest := by
  have mark : '!' ∉ "= null".toList := by decide
  have pivot : '=' ∉ marked n b := by
    simp [marked, hb.not_mem (show ¬ Word (some '=') by decide)]
  rw [ha.negation_eq]
  refine ⟨?_, fun _ _ _ _ _ _ _ => trivial, ?_⟩
  · intro before old after new hit y p q split here
    obtain ⟨⟨-, stop⟩, rfl, rfl⟩ := Edit.hits_replace_iff.mp hit
    have parts : before ++ (a ++ [' ']) ++ '=' :: ("= null".toList ++ y) = p ++ (marked n b ++ q) :=
      Eq.trans (by simp) split
    cases side_of_not_mem parts pivot with
    | inl h =>
      obtain ⟨r, hr⟩ := h
      have hq : r ++ '=' :: ("= null".toList ++ y) = q := by
        rw [hr, List.append_assoc, List.append_assoc] at parts
        exact List.append_cancel_left (List.append_cancel_left parts)
      rcases List.eq_nil_or_concat r with rfl | ⟨r, d, rfl⟩
      · -- The last character of the identifier is not the blank.
        have last := congrArg List.getLast? hr
        rw [List.append_nil, marked, ← List.append_assoc, ← List.append_assoc,
          List.getLast?_concat] at last
        have word : Word (p ++ List.replicate n '!' ++ b).getLast? :=
          word_getLast?_append hb.nonempty hb.word
        rw [← last] at word
        exact absurd word (by decide)
      rw [List.concat_eq_append, ← List.append_assoc, ← List.append_assoc, ← List.append_assoc] at hr
      have inside := (List.append_inj' hr rfl).1
      rw [← hq, List.concat_eq_append, List.append_assoc] at here
      cases run_in_name ha hn proper stop inside here.2 with
      | inl side => exact .inl side
      | inr longer => exact .inr (.inr longer)
    | inr h =>
      obtain ⟨r, rfl⟩ := h
      rw [List.append_assoc (before ++ (a ++ [' '])), List.cons_append] at parts
      have rest := (List.cons.inj (List.append_cancel_left parts)).2
      obtain ⟨r, rfl⟩ := right_of_head_not_mem rest (marked_ne_nil hn) fun d hd first => mark
        (Option.some.inj ((head?_marked hn).symm.trans first) ▸ hd)
      exact .inr (.inl ⟨r, by simp⟩)
  · intro before old after new hit y y' stop
    obtain ⟨-, rfl, rfl⟩ := Edit.hits_replace_iff.mp hit
    rw [List.append_assoc] at stop
    exact absurd (word_head?_append ha.nonempty ha.word) stop

theorem foreign_run (ha : IsName a) (hb : IsName b) (hn : 0 < n) (other : a ≠ b)
    (proper : ∀ s, b = s ++ a → s = []) : (run n b).Foreign (negation a).hits :=
  (traced_run ha hb hn proper).mono fun _ _ h => other h.1

/-- The rule for an identifier makes its runs shorter. -/
theorem occurs_longer_run (hb : IsName b) (hn : 0 < n) (h : (negation b).Yields text out)
    (occurs : (run n b).Occurs out) : (run (n + 1) b).Occurs text := by
  obtain ⟨p, q, hout, here⟩ := occurs
  have proper (s : List Char) (hs : b = s ++ b) : s = [] := List.self_eq_append_left.mp hs
  obtain ⟨p', rest, rfl, ⟨-, q', rfl, stop⟩ | ⟨q', rfl, stop, idle⟩⟩ :=
    Rewritten.traces h (solid_negation b).hits (traced_run hb hb hn proper) hout here
  · exact ⟨p', q', rfl, trivial, stop⟩
  · -- The last mark of a run that was left alone could have been replaced.
    obtain ⟨k, rfl⟩ : ∃ k, n = k + 1 := ⟨n - 1, by omega⟩
    have single := idle (List.replicate k '!') ('!' :: b) (marked_succ k b) (List.cons_ne_nil _ _)
    rw [hb.negation_eq] at single
    refine absurd ?_ single
    exact Edit.starts_replace_iff.mpr ⟨q', rfl, trivial, stop.2⟩

theorem occurs_shorter_run {k : Nat} (h : (run n a).Occurs text) (hk : k ≤ n) : (run k a).Occurs text := by
  obtain ⟨p, q, rfl, -, stop⟩ := h
  obtain ⟨m, rfl⟩ : ∃ m, n = m + k := ⟨n - k, by omega⟩
  have more : marked (m + k) a = List.replicate m '!' ++ marked k a := by
    rw [marked, ← List.replicate_append_replicate, List.append_assoc, marked]
  exact ⟨p ++ List.replicate m '!', q, by simp [run, more], trivial, stop⟩

theorem foreign_run_of_pivot (solid : e.Solid) (hput : e.put = u ++ c :: v) (hb : IsName b)
    (hn : 0 < n) (hc : c ≠ '!') (hc' : c ∉ b) (hu : b.getLast? ∉ u.map some) (hv : '!' ∉ v)
    (right : ∀ g, e.sought g → ¬ Word e.put.head? → ¬ Word g.chars.head?) :
    (run n b).Foreign e.hits := by
  have pivot : c ∉ marked n b := by simp [marked, hc, hc']
  have last : (marked n b).getLast? = b.getLast? := getLast?_append_of_ne_nil hb.nonempty
  have apart : (run n b).Apart (u ++ c :: v) := by
    refine Phrase.apart_of_pivot (marked_ne_nil hn) pivot ?_ ?_
    · intro d hd heq
      have ends : b.getLast? = some d := last.symm.trans heq
      exact hu (ends ▸ List.mem_map_of_mem hd)
    · intro d hd heq
      exact hv (Option.some.inj ((head?_marked hn).symm.trans heq) ▸ hd)
  exact Edit.foreign_of_ends solid (by simp [hput]) (hput ▸ apart) (fun _ _ _ => trivial) right

section Default

variable {id : String}

theorem isName_default (h : id ∈ defaultIdentifiers) : IsName id.toList := by
  have nonempty : ∀ id ∈ defaultIdentifiers, id.toList ≠ [] := by decide
  have word : ∀ id ∈ defaultIdentifiers, id.toList.all (Text.wordChars.contains ·) = true := by decide
  exact ⟨nonempty id h, word_of_all (word id h)⟩

/-- No fixed edit makes a run in front of a default identifier. -/
theorem fixed_foreign_run (h : id ∈ defaultIdentifiers) (hn : 0 < n) :
    ∀ e ∈ leadingEdits ++ trailingEdits, (run n id.toList).Foreign e.hits := by
  have name := isName_default h
  intro e he
  rcases List.mem_append.mp he with he | he
  · obtain ⟨key, -, rfl⟩ := List.mem_map.mp he
    have hput : (lookup key).put = [] ++ '[' :: "name] ??".toList := rfl
    refine foreign_run_of_pivot (solid_lookup key) hput name hn (by decide)
      (name.not_mem (by decide)) (by simp) (by decide) ?_
    intro _ same _
    subst same
    exact show ¬ Word (some '[') by decide
  simp only [trailingEdits, List.mem_cons, List.not_mem_nil, or_false] at he
  rcases he with rfl | rfl | rfl
  · have hput : emptyCondition.put = ['i'] ++ 'f' :: " (false)".toList := rfl
    have pivot : ∀ id ∈ defaultIdentifiers, 'f' ∉ id.toList := by decide
    have last : ∀ id ∈ defaultIdentifiers, id.toList.getLast? ∉ ['i'].map some := by decide
    exact foreign_run_of_pivot solid_emptyCondition hput name hn (by decide) (pivot id h) (last id h)
      (by decide) fun _ _ stop => absurd (show Word (some 'i') by decide) stop
  · -- The first letter of the call stands in one identifier, which lacks the fifth.
    have word : ∀ g, consoleLog.sought g → ¬ Word consoleLog.put.head? → ¬ Word g.chars.head? :=
      fun _ _ stop => absurd (show Word (some 'c') by decide) stop
    by_cases hc : 'c' ∈ id.toList
    · have hput : consoleLog.put = "conso".toList ++ 'l' :: "e.warn(".toList := rfl
      have pivot : ∀ id ∈ defaultIdentifiers, 'c' ∈ id.toList → 'l' ∉ id.toList := by decide
      have last : ∀ id ∈ defaultIdentifiers, 'c' ∈ id.toList →
          id.toList.getLast? ∉ "conso".toList.map some := by decide
      exact foreign_run_of_pivot solid_consoleLog hput name hn (by decide) (pivot id h hc)
        (last id h hc) (by decide) word
    · have hput : consoleLog.put = [] ++ 'c' :: "onsole.warn(".toList := rfl
      exact foreign_run_of_pivot solid_consoleLog hput name hn (by decide) hc (by simp) (by decide)
        word
  · have hput : unusedPrefix.put = [] ++ '_' :: [] := rfl
    have pivot : ∀ id ∈ defaultIdentifiers, '_' ∉ id.toList := by decide
    exact foreign_run_of_pivot solid_unusedPrefix hput name hn (by decide) (pivot id h) (by simp)
      (by simp) fun _ _ stop => absurd (show Word (some '_') by decide) stop

theorem default_foreign_run {other : String} (h : id ∈ defaultIdentifiers)
    (h' : other ∈ defaultIdentifiers) (ne : other ≠ id) (hn : 0 < n) :
    (run n id.toList).Foreign (negation other.toList).hits := by
  have suffix : ∀ id ∈ defaultIdentifiers, ∀ other ∈ defaultIdentifiers,
      other.toList <:+ id.toList → other = id := by decide
  refine foreign_run (isName_default h') (isName_default h) hn (fun same => ne ?_) fun s hs => ?_
  · exact String.toList_inj.mp same
  · exact absurd (suffix id h other h' ⟨s, hs.symm⟩) ne

end Default

end LintRepair.Catalog
