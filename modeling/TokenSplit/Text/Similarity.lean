/-!
# Similarity

How alike two texts are: the share of their characters that stands in common runs.  The longest
common run counts first, and then the runs on its left and on its right.
-/

namespace TokenSplit.Text

/-- The length of the longest common beginning of two texts. -/
def commonFront : List Char → List Char → Nat
  | a :: as, b :: bs => if a = b then commonFront as bs + 1 else 0
  | _, _ => 0

/-- A run of characters that stands in two texts: its place in each, and its length. -/
structure CommonRun where
  left : Nat
  right : Nat
  size : Nat

/-- The common runs at all pairs of places, by the first place and then by the second. -/
def commonRuns (a b : List Char) : List CommonRun :=
  (List.range a.length).flatMap fun i =>
    (List.range b.length).map fun j => ⟨i, j, commonFront (a.drop i) (b.drop j)⟩

/-- The longest common run, and of several the first. -/
def longestRun (a b : List Char) : CommonRun :=
  (commonRuns a b).foldl (fun best run => if best.size < run.size then run else best) ⟨0, 0, 0⟩

/-- The number of characters that two texts share in common runs. -/
def shared (a b : List Char) : Nat :=
  match longestRun a b with
  | ⟨left, right, size⟩ =>
    if _inside : 0 < size ∧ left + size ≤ a.length then
      shared (a.take left) (b.take right) + size +
        shared (a.drop (left + size)) (b.drop (right + size))
    else
      0
termination_by a.length
decreasing_by
  · rw [List.length_take]
    omega
  · rw [List.length_drop]
    omega

/-- A candidate with the number of its characters that it shares with a word, and the number of
characters that it has together with the word. -/
structure Likeness where
  candidate : String
  shared : Nat
  together : Nat

namespace Likeness

/-- The likeness of a candidate to a word. -/
def of (word candidate : String) : Likeness where
  candidate := candidate
  shared := Text.shared candidate.toList word.toList
  together := candidate.length + word.length

/-- Whether at least three fifths of the characters are shared. -/
def isClose (l : Likeness) : Bool :=
  3 * l.together ≤ 10 * l.shared

/-- Whether one likeness goes before another: by its share, and by the order of texts, backwards,
between equal shares. -/
def precedes (l m : Likeness) : Bool :=
  let left := l.shared * m.together
  let right := m.shared * l.together
  right < left || (left == right && decide (m.candidate ≤ l.candidate))

end Likeness

/-- Whether the lengths of two texts leave room for three fifths of common characters. -/
def mayBeClose (word candidate : String) : Bool :=
  3 * (candidate.length + word.length) ≤ 10 * min candidate.length word.length

/-- The candidates that are close to a word, the closest first, three at most. -/
def closest (word : String) (candidates : List String) : List String :=
  let found := (candidates.filter (mayBeClose word)).map (Likeness.of word)
  (((found.filter Likeness.isClose).mergeSort Likeness.precedes).take 3).map (·.candidate)

end TokenSplit.Text
