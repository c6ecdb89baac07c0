import LintRepair.Toml.Document
import Mathlib.Data.List.Induction
import Mathlib.Data.List.Nodup

/-! # Pairs and listed tables

Pairs with different names become the entries of a table in their order. Headers of a list each append
a table to it, and the list is an entry of its own behind the pairs before the first of them.
-/

namespace LintRepair.Toml

variable {name : List Char} {es t : Entries} {nodes : Nodes} {done : List Nodes}
  {tables : List Entries} {rest : List Statement}

/-- Entries under keys of one part. -/
def keyed (es : Entries) : List (Key × Value) := es.map fun e => (.ofName e.1, e.2)

/-- The statements of entries. -/
def pairsOf (es : Entries) : List Statement := es.map fun e => .pair (.ofName e.1) e.2

/-- The statements of tables in a list. -/
def listedOf (name : List Char) (tables : List Entries) : List Statement :=
  tables.flatMap fun t => .listed (.ofName name) :: pairsOf t

/-- A list of tables as an entry, if there is any table. -/
def listedEntry (name : List Char) : List Entries → Entries
  | [] => []
  | tables => [(name, .array (tables.map .table))]

/-- Entries under construction. -/
def nodesOf (es : Entries) : Nodes := es.map fun e => (e.1, .value e.2)

/-- A list of tables under construction, the last of which comes first. -/
def listedNodes (name : List Char) : List Nodes → Nodes
  | [] => []
  | last :: before => [(name, .tables last before)]

theorem sections_pairsOf (es : Entries) (rest : List Statement) :
    sections (pairsOf es ++ rest) = (keyed es ++ (sections rest).1, (sections rest).2) := by
  induction es with
  | nil => rfl
  | cons e es ih => exact congrArg (fun s => ((Key.ofName e.1, e.2) :: s.1, s.2)) ih

theorem sections_listedOf (name : List Char) (tables : List Entries) :
    sections (listedOf name tables) =
      ([], tables.map fun t => ⟨true, .ofName name, keyed t⟩) := by
  induction tables with
  | nil => rfl
  | cons t tables ih =>
    have split : listedOf name (t :: tables) =
        .listed (.ofName name) :: (pairsOf t ++ listedOf name tables) := rfl
    rw [split, sections, sections_pairsOf, ih]
    simp

theorem lookup_of_fresh (h : name ∉ nodes.map Prod.fst) : nodes.lookup name = none := by
  rw [List.lookup_eq_none_iff]
  intro e he
  rw [bne_iff_ne]
  rintro rfl
  exact h (List.mem_map_of_mem he)

theorem map_fst_nodesOf (es : Entries) : (nodesOf es).map Prod.fst = es.map Prod.fst := by
  simp [nodesOf]

/-- Pairs with new and different names are added in order. -/
theorem addAll?_keyed (distinct : (nodes.map Prod.fst ++ es.map Prod.fst).Nodup) :
    Nodes.addAll? nodes (keyed es) = some (nodes ++ nodesOf es) := by
  induction es generalizing nodes with
  | nil => simp [Nodes.addAll?, keyed, nodesOf]
  | cons e es ih =>
    have fresh : e.1 ∉ nodes.map Prod.fst := by
      intro listed
      exact (List.nodup_append.mp distinct).2.2 _ listed _ List.mem_cons_self rfl
    have head : Nodes.addPair? nodes (.ofName e.1, e.2) = some (nodes ++ [(e.1, .value e.2)]) := by
      simp [Nodes.addPair?, Nodes.add?, Key.ofName, lookup_of_fresh fresh]
    have still : ((nodes ++ [(e.1, Node.value e.2)]).map Prod.fst ++ es.map Prod.fst).Nodup := by
      simpa using distinct
    have step : Nodes.addAll? nodes (keyed (e :: es)) =
        (Nodes.addPair? nodes (.ofName e.1, e.2)).bind fun nodes => Nodes.addAll? nodes (keyed es) := rfl
    rw [step, head, Option.bind_some, ih still]
    simp [nodesOf]

theorem addAll?_of_distinct (distinct : (es.map Prod.fst).Nodup) :
    Nodes.addAll? [] (keyed es) = some (nodesOf es) :=
  addAll?_keyed distinct

theorem put_last (fresh : name ∉ nodes.map Prod.fst) (old new : Node) :
    Nodes.put name new (nodes ++ [(name, old)]) = nodes ++ [(name, new)] := by
  induction nodes with
  | nil => simp [Nodes.put]
  | cons e nodes ih =>
    simp only [List.map_cons, List.mem_cons, not_or] at fresh
    simp [Nodes.put, Ne.symm fresh.1, ih fresh.2]

/-- A header of a list appends a table. -/
theorem addSection?_listed (fresh : name ∉ nodes.map Prod.fst) (distinct : (t.map Prod.fst).Nodup) :
    Nodes.addSection? (nodes ++ listedNodes name done) ⟨true, .ofName name, keyed t⟩ =
      some (nodes ++ listedNodes name (nodesOf t :: done)) := by
  have inner := addAll?_of_distinct distinct
  have change : Nodes.addSection? (nodes ++ listedNodes name done) ⟨true, .ofName name, keyed t⟩ =
      Nodes.append? name (keyed t) (nodes ++ listedNodes name done) := rfl
  rw [change, Nodes.append?, List.lookup_append, lookup_of_fresh fresh]
  cases done with
  | nil => simp [listedNodes, inner]
  | cons last before => simp [listedNodes, inner, put_last fresh]

/-- All headers of a list append their tables. -/
theorem foldlM_addSection? (fresh : name ∉ nodes.map Prod.fst)
    (each : ∀ t ∈ tables, (t.map Prod.fst).Nodup) :
    (tables.map fun t => (⟨true, .ofName name, keyed t⟩ : Section)).foldlM Nodes.addSection?
        (nodes ++ listedNodes name done) =
      some (nodes ++ listedNodes name ((tables.map nodesOf).reverse ++ done)) := by
  induction tables generalizing done with
  | nil => simp
  | cons t tables ih =>
    obtain ⟨first, others⟩ := List.forall_mem_cons.mp each
    rw [List.map_cons, List.foldlM_cons, addSection?_listed fresh first, Option.bind_eq_bind,
      Option.bind_some, ih others]
    simp

theorem close_append (nodes nodes' : Nodes) :
    Nodes.close (nodes ++ nodes') = Nodes.close nodes ++ Nodes.close nodes' := by
  induction nodes with
  | nil => simp [Nodes.close]
  | cons e nodes ih => simp [Nodes.close, ih]

theorem close_nodesOf (es : Entries) : Nodes.close (nodesOf es) = es := by
  induction es with
  | nil => rfl
  | cons e es ih => exact congrArg (e :: ·) ih

/-- Finished tables are put in front in their order. -/
theorem closeAll_reverse (tables : List Entries) (vs : List Value) :
    closeAll (tables.map nodesOf).reverse vs = tables.map Value.table ++ vs := by
  induction tables using List.reverseRecOn generalizing vs with
  | nil => rfl
  | append_singleton tables t ih =>
    have last : ((tables ++ [t]).map nodesOf).reverse = nodesOf t :: (tables.map nodesOf).reverse := by
      simp
    rw [last, closeAll, ih, close_nodesOf]
    simp

theorem close_listedNodes (name : List Char) (tables : List Entries) :
    Nodes.close (listedNodes name (tables.map nodesOf).reverse) = listedEntry name tables := by
  rcases List.eq_nil_or_concat tables with rfl | ⟨front, last, rfl⟩
  · rfl
  · have first : ((front.concat last).map nodesOf).reverse =
        nodesOf last :: (front.map nodesOf).reverse := by simp
    rw [first, listedNodes, Nodes.close, Node.close, closeAll_reverse, close_nodesOf]
    cases front <;> simp [listedEntry, Nodes.close]

/-- Pairs with different names, and the tables of a list with another name behind them, make up these
    entries. -/
theorem ofStatements?_listed (distinct : (es.map Prod.fst).Nodup) (fresh : name ∉ es.map Prod.fst)
    (each : ∀ t ∈ tables, (t.map Prod.fst).Nodup) :
    Document.ofStatements? (pairsOf es ++ listedOf name tables) =
      some (es ++ listedEntry name tables) := by
  have lists := @foldlM_addSection? name (nodesOf es) [] tables (map_fst_nodesOf es ▸ fresh) each
  rw [listedNodes, List.append_nil, List.append_nil] at lists
  rw [Document.ofStatements?, sections_pairsOf, sections_listedOf]
  simp only [List.append_nil, addAll?_of_distinct distinct, lists, Option.map_some, close_append,
    close_nodesOf, close_listedNodes]

end LintRepair.Toml
