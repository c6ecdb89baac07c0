/-! # Sets of characters

A set of characters is a list of ranges of code points in ascending order. Membership stops at the
first range that lies above the character, so the common small characters are decided quickly.
The operations keep the ranges ascending, disjoint and non-adjacent, so equal sets built by them
are equal lists.
-/

namespace LintRepair.Text

/-- A set of characters, as ascending ranges of code points with both ends included. -/
structure CharSet where
  ranges : List (Nat × Nat)
  deriving DecidableEq, Repr, Inhabited

namespace CharSet

/-- Membership of a code point in ascending ranges. -/
def inRanges (n : Nat) : List (Nat × Nat) → Bool
  | [] => false
  | (lo, hi) :: rest => if n < lo then false else if n ≤ hi then true else inRanges n rest

/-- Whether the set holds the character. -/
def contains (s : CharSet) (c : Char) : Bool :=
  inRanges c.toNat s.ranges

instance : Membership Char CharSet where
  mem s c := s.contains c = true

instance (c : Char) (s : CharSet) : Decidable (c ∈ s) :=
  inferInstanceAs (Decidable (s.contains c = true))

/-- The largest code point. -/
def last : Nat := 0x10FFFF

def empty : CharSet := ⟨[]⟩

def all : CharSet := ⟨[(0, last)]⟩

def singleton (c : Char) : CharSet := ⟨[(c.toNat, c.toNat)]⟩

def isEmpty (s : CharSet) : Bool := s.ranges.isEmpty

/-- The member of a set that is written as a single character. -/
def single? (s : CharSet) : Option Char :=
  match s.ranges with
  | [(lo, hi)] => if lo = hi then some (Char.ofNat lo) else none
  | _ => none

/-- Whether the set is written as a single character. -/
def isSingle (s : CharSet) : Bool := s.single?.isSome

/-- Puts a range in front of ascending ranges that start no lower, joining what touches. -/
def join (lo hi : Nat) : List (Nat × Nat) → List (Nat × Nat)
  | [] => [(lo, hi)]
  | (lo', hi') :: rest =>
    if lo' ≤ hi + 1 then join lo (max hi hi') rest else (lo, hi) :: join lo' hi' rest

/-- Joins ranges that are sorted by their lower ends. -/
def joinAll : List (Nat × Nat) → List (Nat × Nat)
  | [] => []
  | (lo, hi) :: rest => join lo hi rest

/-- The set of the given ranges, in any order; a range that ends before it starts is empty. -/
def ofRanges (rs : List (Nat × Nat)) : CharSet :=
  ⟨joinAll ((rs.filter fun r => r.1 ≤ r.2).mergeSort fun a b => a.1 ≤ b.1)⟩

def range (lo hi : Char) : CharSet := ofRanges [(lo.toNat, hi.toNat)]

def union (s t : CharSet) : CharSet := ofRanges (s.ranges ++ t.ranges)

/-- The gaps between ascending ranges, from a first code point on. -/
def gaps (start : Nat) : List (Nat × Nat) → List (Nat × Nat)
  | [] => if start ≤ last then [(start, last)] else []
  | (lo, hi) :: rest =>
    if start < lo then (start, lo - 1) :: gaps (hi + 1) rest else gaps (hi + 1) rest

def complement (s : CharSet) : CharSet := ⟨gaps 0 s.ranges⟩

def inter (s t : CharSet) : CharSet := (s.complement.union t.complement).complement

def diff (s t : CharSet) : CharSet := s.inter t.complement

def symmDiff (s t : CharSet) : CharSet := (s.diff t).union (t.diff s)

end CharSet

end LintRepair.Text
