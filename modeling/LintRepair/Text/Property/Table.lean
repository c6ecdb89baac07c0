import LintRepair.Text.CaseFold

/-! # Tables of character properties

A row holds the names of one property value and its characters. The characters are written as
ranges in ascending order, separated by spaces: the gap since the end of the range before, then,
after a comma, how many further characters the range has, both in hexadecimal.
-/

namespace LintRepair.Text.Property

/-- One named class of characters. -/
structure Row where
  names : List String
  encoded : String

namespace Row

/-- Turns gaps and lengths into ranges, from a first code point on. -/
def rangesFrom (base : Nat) : List (List Nat) → List (Nat × Nat)
  | [] => []
  | group :: rest =>
    let lo := base + group.headD 0
    let hi := lo + group.getD 1 0
    (lo, hi) :: rangesFrom (hi + 1) rest

/-- The characters of the row; a row without text is empty. -/
def chars (r : Row) : CharSet :=
  if r.encoded.isEmpty then .empty else ⟨rangesFrom 0 (HexGroups.read r.encoded)⟩

end Row

/-- The characters of the row with the given name. -/
def find? (rows : List Row) (name : String) : Option CharSet :=
  (rows.find? (·.names.contains name)).map Row.chars

end LintRepair.Text.Property
