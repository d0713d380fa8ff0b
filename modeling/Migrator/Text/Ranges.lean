/-!
Sorted tables of code points. A property of characters is a list of closed ranges, sorted and
disjoint; a case mapping is a list of runs, each sending an arithmetic progression of code points
to another. Both are searched by halving, for the last entry whose start is not above the code
point asked about.
-/
namespace Migrator.Text

/-- Index of the last entry of `xs[lo:hi)` whose key is at most `c`, if any, by halving.
Each step halves the window, so `fuel` above the window's length always suffices. -/
def floorIndex {α : Type} (xs : Array α) (key : α → Nat) (c : Nat) : Nat → Nat → Nat → Option Nat
  | 0, _, _ => none
  | fuel + 1, lo, hi =>
    if lo < hi then
      let mid := (lo + hi) / 2
      match xs[mid]? with
      | none => none
      | some x =>
        if c < key x then floorIndex xs key c fuel lo mid
        else (floorIndex xs key c fuel (mid + 1) hi).or (some mid)
    else none

/-- The last entry of a table sorted by `key` whose key is at most `c`. -/
def floorEntry? {α : Type} (xs : Array α) (key : α → Nat) (c : Nat) : Option α :=
  (floorIndex xs key c (xs.size + 1) 0 xs.size).bind fun i => xs[i]?

/-- A set of code points given as sorted, disjoint closed ranges `(lo, hi)`. -/
structure RangeSet where
  ranges : Array (Nat × Nat)

namespace RangeSet

/-- Whether the code point `c` lies in one of the ranges. -/
def containsNat (s : RangeSet) (c : Nat) : Bool :=
  match floorEntry? s.ranges Prod.fst c with
  | some (_, hi) => c ≤ hi
  | none => false

/-- Whether the character lies in one of the ranges. -/
def contains (s : RangeSet) (c : Char) : Bool := s.containsNat c.toNat

end RangeSet

/-- A run `(lo, hi, step, target)` maps `lo + k * step` to `target + k * step` up to `hi`. -/
abbrev CaseRun := Nat × Nat × Nat × Nat

/-- The image of `c` under a table of runs sorted by their first code point. -/
def CaseRun.apply? (runs : Array CaseRun) (c : Nat) : Option Nat :=
  match floorEntry? runs Prod.fst c with
  | some (lo, hi, step, target) =>
    if c ≤ hi ∧ (c - lo) % step = 0 then some (target + (c - lo)) else none
  | none => none

end Migrator.Text
