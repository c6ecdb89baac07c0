import LintRepair.Proofs.Files.Outline

/-! # The way of a path

Following a path looks at some places of a tree, those on its way, and at no others. Trees that agree on
the way of a path resolve it alike and hold the same there. Changes are compared by what stands at a
place afterwards when it did not stand there before.
-/

namespace LintRepair.Files.FileTree

variable {t t' : FileTree} {place found : Location} {segment : List Char}
  {segments : List (List Char)} {cwd : Location} {path : FilePath} {paths : List FilePath}

/-- Where a segment leads. -/
def onward (place : Location) (segment : List Char) : Location :=
  if isSilent segment then place
  else if segment = ['.', '.'] then place.dropLast
  else place ++ [segment]

/-- Why a segment leads nowhere from a directory, if it does not: its name is too long or not there. -/
def blocked? (t : FileTree) (place : Location) (segment : List Char) : Option AccessFault :=
  if isSilent segment || segment = ['.', '.'] then none
  else if byteLength segment > nameLimit then some .nameTooLong
  else if (t.node? (onward place segment)).isNone then some .notFound
  else none

/-- A walk takes one segment after the other. -/
theorem walk_cons (t : FileTree) (place : Location) (segment : List Char)
    (segments : List (List Char)) : t.walk place (segment :: segments) =
      if t.isDirectory place then
        match t.blocked? place segment with
        | some fault => .error fault
        | none => t.walk (onward place segment) segments
      else .error .notDirectory := by
  rw [walk, blocked?, onward]
  cases t.isDirectory place with
  | false => rfl
  | true =>
    by_cases silent : isSilent segment = true
    · simp [silent]
    · by_cases up : segment = ['.', '.']
      · simp [up, isSilent]
      · by_cases long : byteLength segment > nameLimit
        · simp [silent, up, long]
        · cases there : t.node? (place ++ [segment]) <;> simp [silent, up, long, there]

/-- The places that following segments from a place on looks at, the place itself first. -/
def wayFrom (t : FileTree) (place : Location) : List (List Char) → List Location
  | [] => [place]
  | segment :: segments =>
    place :: if t.isDirectory place then t.wayFrom (onward place segment) segments else []

/-- The places that a path names or passes through, up to the first that is not there or is no
    directory. -/
def way (t : FileTree) (cwd : Location) (path : FilePath) : List Location :=
  t.wayFrom (origin cwd path) path.segments

/-- Whether a tree holds the same as another at all places on the ways of paths. -/
def AgreeOn (t t' : FileTree) (cwd : Location) (paths : List FilePath) : Prop :=
  ∀ path ∈ paths, ∀ place ∈ t.way cwd path, t'.node? place = t.node? place

theorem mem_wayFrom_self (t : FileTree) (place : Location) (segments : List (List Char)) :
    place ∈ t.wayFrom place segments := by
  cases segments with
  | nil => exact List.mem_singleton_self place
  | cons segment segments => exact List.mem_cons_self

theorem isDirectory_congr (h : t'.node? place = t.node? place) :
    t'.isDirectory place = t.isDirectory place := by
  rw [isDirectory, isDirectory, h]

theorem blocked?_congr (h : t'.node? (onward place segment) = t.node? (onward place segment)) :
    t'.blocked? place segment = t.blocked? place segment := by
  rw [blocked?, blocked?, h]

theorem walk_of_not_directory (h : t.isDirectory place = false) :
    t.walk place (segment :: segments) = .error .notDirectory := by
  rw [walk_cons, h]
  rfl

theorem walk_of_directory (h : t.isDirectory place = true) :
    t.walk place (segment :: segments) =
      match t.blocked? place segment with
      | some fault => .error fault
      | none => t.walk (onward place segment) segments := by
  rw [walk_cons, if_pos h]

/-- A walk gets somewhere by getting one segment further and then there. -/
theorem walk_cons_eq_ok_iff : t.walk place (segment :: segments) = .ok found ↔
    t.isDirectory place = true ∧ t.blocked? place segment = none ∧
      t.walk (onward place segment) segments = .ok found := by
  rw [walk_cons]
  cases t.isDirectory place with
  | false => simp
  | true => cases t.blocked? place segment <;> simp

theorem walk_of_resolve (h : t.resolve cwd path = .ok found) :
    t.walk (origin cwd path) path.segments = .ok found := by
  rw [resolve] at h
  split at h
  · cases h
  · exact h

/-- Where a walk ends does not depend on the tree. -/
theorem eq_foldl_of_walk (h : t.walk place segments = .ok found) :
    found = segments.foldl onward place := by
  induction segments generalizing place with
  | nil =>
    cases h
    rfl
  | cons segment segments ih =>
    obtain ⟨-, -, rest⟩ := walk_cons_eq_ok_iff.mp h
    exact ih rest

theorem wayFrom_of_not_directory (h : t.isDirectory place = false) :
    t.wayFrom place (segment :: segments) = [place] := by
  rw [wayFrom, h]
  rfl

theorem wayFrom_of_directory (h : t.isDirectory place = true) :
    t.wayFrom place (segment :: segments) =
      place :: t.wayFrom (onward place segment) segments := by
  rw [wayFrom, if_pos h]

/-- Where a walk ends is on its way. -/
theorem mem_wayFrom_of_walk (h : t.walk place segments = .ok found) :
    found ∈ t.wayFrom place segments := by
  induction segments generalizing place with
  | nil =>
    cases h
    exact List.mem_singleton_self _
  | cons segment segments ih =>
    obtain ⟨directory, -, rest⟩ := walk_cons_eq_ok_iff.mp h
    rw [wayFrom_of_directory directory]
    exact List.mem_cons_of_mem place (ih rest)

/-- Trees that agree on a way are followed alike. -/
theorem walk_congr (h : ∀ q ∈ t.wayFrom place segments, t'.node? q = t.node? q) :
    t'.walk place segments = t.walk place segments ∧
      t'.wayFrom place segments = t.wayFrom place segments := by
  induction segments generalizing place with
  | nil => exact ⟨rfl, rfl⟩
  | cons segment segments ih =>
    have here := isDirectory_congr (h place (t.mem_wayFrom_self place _))
    cases directory : t.isDirectory place with
    | false =>
      rw [directory] at here
      rw [walk_of_not_directory here, walk_of_not_directory directory,
        wayFrom_of_not_directory here, wayFrom_of_not_directory directory]
      exact ⟨rfl, rfl⟩
    | true =>
      rw [directory] at here
      rw [wayFrom_of_directory directory] at h
      obtain ⟨walks, ways⟩ := ih fun q hq => h q (List.mem_cons_of_mem place hq)
      have next := blocked?_congr (h _ (List.mem_cons_of_mem place (t.mem_wayFrom_self _ segments)))
      rw [walk_of_directory here, walk_of_directory directory, wayFrom_of_directory here,
        wayFrom_of_directory directory, next, walks, ways]
      exact ⟨rfl, rfl⟩

theorem resolve_congr (h : ∀ q ∈ t.way cwd path, t'.node? q = t.node? q) :
    t'.resolve cwd path = t.resolve cwd path := by
  rw [resolve, resolve, (walk_congr h).1]

theorem mem_way_of_resolve (h : t.resolve cwd path = .ok found) : found ∈ t.way cwd path :=
  mem_wayFrom_of_walk (walk_of_resolve h)

theorem read_congr (h : ∀ q ∈ t.way cwd path, t'.node? q = t.node? q) :
    t'.read cwd path = t.read cwd path := by
  rw [read, read, resolve_congr h]
  cases resolved : t.resolve cwd path with
  | error cause => rfl
  | ok found => simp only [h found (mem_way_of_resolve resolved)]

theorem wayFrom_eq_of_outline (h : t.outline = t'.outline) (place : Location)
    (segments : List (List Char)) : t.wayFrom place segments = t'.wayFrom place segments := by
  induction segments generalizing place with
  | nil => rfl
  | cons segment segments ih => simp only [wayFrom, isDirectory_eq, h, ih]

/-- Ways are decided by the outline alone. -/
theorem way_eq_of_outline (h : t.outline = t'.outline) (cwd : Location) (path : FilePath) :
    t.way cwd path = t'.way cwd path := wayFrom_eq_of_outline h _ _

theorem AgreeOn.symm (h : t.AgreeOn t' cwd paths) : t'.AgreeOn t cwd paths := by
  intro path hpath place hplace
  rw [way, (walk_congr (h path hpath)).2] at hplace
  exact (h path hpath place hplace).symm

/-- Whether something new stands at a place of a tree compared to the tree before: the node given, or
    nothing where there was something. -/
def Changes (before after : FileTree) (place : Location) (node : Option Node) : Prop :=
  after.node? place = node ∧ before.node? place ≠ node

/-- Whether the same has been done to two trees. -/
def SameChanges (before after before' after' : FileTree) : Prop :=
  ∀ place node, Changes before' after' place node ↔ Changes before after place node

end LintRepair.Files.FileTree
