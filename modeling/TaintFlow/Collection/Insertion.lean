/-!
# Sorting by insertion

A list is sorted by inserting its elements one after the other, each at a place that is found by
halving. Equal elements keep their order. The relation need not be total: elements that precede
nothing and that nothing precedes stay where halving puts them.
-/

namespace TaintFlow.Insertion

variable {α : Type}

/-- The place between `low` and `high` at which an element is inserted. -/
def place (precedes : α → α → Bool) (x : α) (xs : List α) (low high : Nat) : Nat :=
  if _h : low < high then
    let middle := low + (high - low) / 2
    match xs[middle]? with
    | some y =>
      if precedes x y then place precedes x xs low middle
      else place precedes x xs (middle + 1) high
    | none => low
  else low
termination_by high - low
decreasing_by all_goals omega

def insert (precedes : α → α → Bool) (xs : List α) (x : α) : List α :=
  let i := place precedes x xs 0 xs.length
  xs.take i ++ x :: xs.drop i

/-- Splits a list behind the first place at which neighbours are not related. -/
def splitRun (related : α → α → Bool) : α → List α → List α × List α
  | _, [] => ([], [])
  | x, y :: rest =>
    if related x y then
      let (run, others) := splitRun related y rest
      (y :: run, others)
    else ([], y :: rest)

/-- The ordered beginning of a list, turned round if it is falling, and the rest. -/
def leadingRun (precedes : α → α → Bool) : List α → List α × List α
  | [] => ([], [])
  | [x] => ([x], [])
  | x :: y :: rest =>
    if precedes y x then
      let (run, others) := splitRun (fun a b => precedes b a) x (y :: rest)
      ((x :: run).reverse, others)
    else
      let (run, others) := splitRun (fun a b => !precedes b a) x (y :: rest)
      (x :: run, others)

def sort (precedes : α → α → Bool) (xs : List α) : List α :=
  let (run, others) := leadingRun precedes xs
  others.foldl (insert precedes) run

theorem insert_perm (precedes : α → α → Bool) (xs : List α) (x : α) :
    (insert precedes xs x).Perm (x :: xs) := by
  have h : xs.take (place precedes x xs 0 xs.length) ++ xs.drop (place precedes x xs 0 xs.length)
      = xs := List.take_append_drop _ xs
  calc insert precedes xs x
      |>.Perm (x :: (xs.take (place precedes x xs 0 xs.length)
        ++ xs.drop (place precedes x xs 0 xs.length))) := List.perm_middle
    _ |>.Perm (x :: xs) := by rw [h]

theorem splitRun_append (related : α → α → Bool) (x : α) (xs : List α) :
    (splitRun related x xs).1 ++ (splitRun related x xs).2 = xs := by
  induction xs generalizing x with
  | nil => rfl
  | cons y rest ih =>
    rw [splitRun]
    split
    · simpa using ih y
    · rfl

theorem leadingRun_perm (precedes : α → α → Bool) (xs : List α) :
    ((leadingRun precedes xs).1 ++ (leadingRun precedes xs).2).Perm xs := by
  match xs with
  | [] => exact .refl _
  | [x] => exact .refl _
  | x :: y :: rest =>
    rw [leadingRun]
    split
    · have h := splitRun_append (fun a b => precedes b a) x (y :: rest)
      calc (x :: (splitRun (fun a b => precedes b a) x (y :: rest)).1).reverse
            ++ (splitRun (fun a b => precedes b a) x (y :: rest)).2
          |>.Perm ((x :: (splitRun (fun a b => precedes b a) x (y :: rest)).1)
            ++ (splitRun (fun a b => precedes b a) x (y :: rest)).2) :=
            (List.reverse_perm _).append_right _
        _ |>.Perm (x :: y :: rest) := by rw [List.cons_append, h]
    · have h := splitRun_append (fun a b => !precedes b a) x (y :: rest)
      simp [h]

theorem foldl_insert_perm (precedes : α → α → Bool) (xs ys : List α) :
    (ys.foldl (insert precedes) xs).Perm (xs ++ ys) := by
  induction ys generalizing xs with
  | nil => simp
  | cons y ys ih =>
    refine (ih (insert precedes xs y)).trans ?_
    exact ((insert_perm precedes xs y).append_right ys).trans List.perm_middle.symm

/-- Sorting neither loses nor adds an element. -/
theorem sort_perm (precedes : α → α → Bool) (xs : List α) : (sort precedes xs).Perm xs :=
  (foldl_insert_perm precedes _ _).trans (leadingRun_perm precedes xs)

end TaintFlow.Insertion
