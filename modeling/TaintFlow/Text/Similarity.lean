/-!
# How similar two texts are

Two texts agree in their longest common block and, in the same way, in what stands before and behind
it. Texts are similar when what agrees makes up a great enough share of both together.
-/

namespace TaintFlow.Text

/-- How many characters two lists have in common at their beginnings. -/
def commonLength : List Char → List Char → Nat
  | a :: as, b :: bs => if a = b then commonLength as bs + 1 else 0
  | _, _ => 0

/-- A common block of two lists: where it starts in each, and its length. -/
structure Block where
  left : Nat
  right : Nat
  length : Nat
deriving DecidableEq, Repr

/-- The longest common block, of several the one that starts first in the left list, then in the
right one. -/
def longestBlock (as bs : List Char) : Block :=
  (List.range as.length).foldl (fun best i =>
    (List.range bs.length).foldl (fun best j =>
      let length := commonLength (as.drop i) (bs.drop j)
      if length > best.length then ⟨i, j, length⟩ else best) best) ⟨0, 0, 0⟩

/-- How many characters agree, looking for blocks at most `depth` times inside one another. -/
def agreement : Nat → List Char → List Char → Nat
  | 0, _, _ => 0
  | depth + 1, as, bs =>
    let block := longestBlock as bs
    if block.length = 0 then 0
    else
      block.length + agreement depth (as.take block.left) (bs.take block.right)
        + agreement depth (as.drop (block.left + block.length))
          (bs.drop (block.right + block.length))

/-- The share of two texts that agrees, as a fraction. -/
structure Share where
  agreeing : Nat
  total : Nat
deriving DecidableEq, Repr

namespace Share

def of (a b : String) : Share :=
  ⟨2 * agreement a.length a.toList b.toList, a.length + b.length⟩

/-- At least three fifths of two texts agree. -/
def isGreat (s : Share) : Bool := 5 * s.agreeing ≥ 3 * s.total

/-- The greater share first. -/
def order (s t : Share) : Ordering := compare (t.agreeing * s.total) (s.agreeing * t.total)

end Share

/-- How many similar texts are proposed at most. -/
def proposalLimit : Nat := 3

/-- The candidates that are most similar to a text, in increasing order. -/
def proposals (candidates : List String) (s : String) : List String :=
  let scored := (candidates.map (fun c => (Share.of c s, c))).filter (fun p => p.1.isGreat)
  let best := scored.mergeSort (fun p q => ((p.1.order q.1).then (compare q.2 p.2)).isLE)
  ((best.take proposalLimit).map Prod.snd).mergeSort (fun a b => (compare a b).isLE)

end TaintFlow.Text
