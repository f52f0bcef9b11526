import CatalogSchema.Order

/-!
# Similar words

Two words are compared by the blocks that they share: the longest one, and then those to the left and
to the right of it. `Text.closest` picks the words that share enough of their characters with a given
one, as a suggestion of what was meant.
-/

namespace CatalogSchema.Text

/-- How many characters two texts have in common at their start. -/
def sharedStart : List Char → List Char → Nat
  | c :: cs, d :: ds => if c = d then sharedStart cs ds + 1 else 0
  | _, _ => 0

/-- A piece that occurs in two texts. -/
structure Block where
  /-- Where it starts in the first text. -/
  left : Nat
  /-- Where it starts in the second text. -/
  right : Nat
  size : Nat
  deriving DecidableEq, Repr

namespace Block

/-- The longer of `best` and the first of the longest blocks that start the first text, at `i`, and
anywhere in the second text from `j` on. -/
def longestAt (i : Nat) (cs : List Char) : (j : Nat) → (ds : List Char) → (best : Block) → Block
  | _, [], best => best
  | j, d :: ds, best =>
    let size := sharedStart cs (d :: ds)
    longestAt i cs (j + 1) ds (if best.size < size then ⟨i, j, size⟩ else best)

/-- The longer of `best` and the first of the longest blocks from position `i` of the first text on. -/
def longestFrom (ds : List Char) : (i : Nat) → (cs : List Char) → (best : Block) → Block
  | _, [], best => best
  | i, c :: cs, best => longestFrom ds (i + 1) cs (longestAt i (c :: cs) 0 ds best)

/-- The first of the longest blocks of two texts. -/
def longest (cs ds : List Char) : Block := longestFrom ds 0 cs ⟨0, 0, 0⟩

end Block

/-- How many characters are in the blocks that two texts share. -/
def sharedSize (cs ds : List Char) : Nat :=
  match Block.longest cs ds with
  | ⟨i, j, size⟩ =>
    if size = 0 ∨ cs.length ≤ i then 0
    else
      size + sharedSize (cs.take i) (ds.take j) +
        sharedSize (cs.drop (i + size)) (ds.drop (j + size))
termination_by cs.length
decreasing_by
  · simp only [List.length_take]
    omega
  · simp only [List.length_drop]
    omega

/-- The share of the characters of two words that is in common. -/
structure Similarity where
  shared : Nat
  all : Nat
  deriving DecidableEq, Repr

namespace Similarity

def ofWords (v w : String) : Similarity :=
  ⟨2 * sharedSize v.toList w.toList, v.length + w.length⟩

/-- At least three characters in five. -/
def isClose (s : Similarity) : Bool := 3 * s.all ≤ 5 * s.shared

def compare (s t : Similarity) : Ordering := Ord.compare (s.shared * t.all) (t.shared * s.all)

end Similarity

/-- The most words that are suggested. -/
def maxSuggestions : Nat := 3

/-- The candidates closest to a word, in ascending order. -/
def closest (candidates : List String) (word : String) : List String :=
  let scored := candidates.map fun v => (Similarity.ofWords v word, v)
  let best := sortBy (fun s t => (s.1.compare t.1).swap.then (compare t.2 s.2))
    (scored.filter (·.1.isClose))
  sortOn id ((best.take maxSuggestions).map Prod.snd)

end CatalogSchema.Text
