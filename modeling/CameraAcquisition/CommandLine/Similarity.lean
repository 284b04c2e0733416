/-!
# How alike two words are

When a command line holds a word it does not know, it suggests the known words that are
close to it. Closeness is the Jaro similarity of the two words: characters of one word match
equal characters of the other that are not too far from the same place, and the score
combines the share of matched characters in each word with the share of matches that come
in the same order. Equal words score 1, words without a common character 0.

A known word is suggested when its score is above 0.7; the closest comes last.

## What this module delivers

- `matchWindow`, `matchFlags`, `transpositions` and `jaro`.
- `similarWords`, the known words close to a word, least close first.
-/

set_option autoImplicit false

namespace CameraAcquisition.CommandLine

/-- How far apart two matching characters may be: half the longer length, less one. -/
def matchWindow (la lb : Nat) : Nat := max la lb / 2 - 1

/-- Matches the characters of `a`, in order, against those of `b`: each takes the first
equal character of `b` within the window around its own place that no earlier one took.
Returns which places of `a` and of `b` are matched. -/
def matchFlags (a b : List Char) : List Bool × List Bool :=
  let window := matchWindow a.length b.length
  let step (acc : List Bool × List Bool) (ic : Nat × Char) : List Bool × List Bool :=
    let (i, c) := ic
    let (fa, fb) := acc
    let lo := i - window
    let hi := min b.length (i + window + 1)
    let candidates := (List.range b.length).filter fun j =>
      lo ≤ j && j < hi && b.getD j ' ' == c && !fb.getD j true
    match candidates.head? with
    | some j => (fa ++ [true], fb.set j true)
    | none => (fa ++ [false], fb)
  (a.zipIdx.map (fun (c, i) => (i, c))).foldl step ([], List.replicate b.length false)

/-- The matched characters of a word, in order. -/
def matched (w : List Char) (flags : List Bool) : List Char :=
  (w.zip flags).filterMap fun (c, f) => if f then some c else none

/-- Half the number of places where the matched characters of the two words differ. -/
def transpositions (ma mb : List Char) : Nat :=
  ((ma.zip mb).filter fun (x, y) => x != y).length / 2

/-- The Jaro similarity of two words. -/
def jaro (a b : String) : Float :=
  let a := a.toList
  let b := b.toList
  if a.isEmpty && b.isEmpty then 1.0
  else if a.isEmpty || b.isEmpty then 0.0
  else
    let (fa, fb) := matchFlags a b
    let ma := matched a fa
    let m := ma.length
    if m = 0 then 0.0
    else
      let t := transpositions ma (matched b fb)
      let mf := m.toFloat
      (mf / a.length.toFloat + mf / b.length.toFloat + (m - t).toFloat / mf) / 3.0

/-- Inserts a scored word after every word of no higher score. -/
def insertByScore (x : Float × String) : List (Float × String) → List (Float × String)
  | [] => [x]
  | y :: ys => if x.1 < y.1 then x :: y :: ys else y :: insertByScore x ys

/-- The known words whose similarity to `w` is above 0.7, least similar first; words of
equal score keep their order. -/
def similarWords (w : String) (known : List String) : List String :=
  let scored := (known.map fun k => (jaro w k, k)).filter fun (s, _) => s > 0.7
  (scored.foldl (fun acc x => insertByScore x acc) []).map (·.2)

end CameraAcquisition.CommandLine
