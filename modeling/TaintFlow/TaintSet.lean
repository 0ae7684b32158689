import TaintFlow.Label

/-!
# Taint sets

The taint of a value is a finite set of labels with different identities; the empty set means
untainted. When two labels of one identity meet, the better explanation of the two is kept.
-/

namespace TaintFlow

structure TaintSet where
  labels : List Label
  distinct : labels.Pairwise (fun a b => a.identity ≠ b.identity)
deriving DecidableEq, Repr

namespace TaintSet

/-- Joins a label into the label of the same identity, or appends it. -/
def merge (l : Label) : List Label → List Label
  | [] => [l]
  | m :: rest => if m.identity = l.identity then m.join l :: rest else m :: merge l rest

theorem exists_identity_mem_merge {l x : Label} {ls : List Label} (h : x ∈ merge l ls) :
    x.identity = l.identity ∨ ∃ m ∈ ls, m.identity = x.identity := by
  induction ls with
  | nil => exact .inl (by rw [List.mem_singleton.1 h])
  | cons m rest ih =>
    rw [merge] at h
    split at h
    · next he =>
      rcases List.mem_cons.1 h with rfl | h
      · exact .inl ((Label.identity_join_of_eq he).trans he)
      · exact .inr ⟨x, List.mem_cons_of_mem m h, rfl⟩
    · rcases List.mem_cons.1 h with rfl | h
      · exact .inr ⟨x, List.mem_cons_self, rfl⟩
      · rcases ih h with h | ⟨y, hy, hyx⟩
        · exact .inl h
        · exact .inr ⟨y, List.mem_cons_of_mem m hy, hyx⟩

theorem distinct_merge {l : Label} {ls : List Label}
    (h : ls.Pairwise (fun a b => a.identity ≠ b.identity)) :
    (merge l ls).Pairwise (fun a b => a.identity ≠ b.identity) := by
  induction ls with
  | nil => simp [merge]
  | cons m rest ih =>
    obtain ⟨hm, hrest⟩ := List.pairwise_cons.1 h
    rw [merge]
    split
    · next he =>
      refine List.pairwise_cons.2 ⟨fun x hx => ?_, hrest⟩
      rw [Label.identity_join_of_eq he]
      exact hm x hx
    · next he =>
      refine List.pairwise_cons.2 ⟨fun x hx => ?_, ih hrest⟩
      rcases exists_identity_mem_merge hx with hx | ⟨y, hy, hyx⟩
      · rw [hx]
        exact he
      · rw [← hyx]
        exact hm y hy

def empty : TaintSet := ⟨[], .nil⟩

instance : EmptyCollection TaintSet := ⟨empty⟩

instance : Inhabited TaintSet := ⟨empty⟩

def add (s : TaintSet) (l : Label) : TaintSet := ⟨merge l s.labels, distinct_merge s.distinct⟩

def ofList (ls : List Label) : TaintSet := ls.foldl add empty

def of (l : Label) : TaintSet := ofList [l]

/-- The set that some labels make up, if those that meet can be compared. -/
def ofList? (ls : List Label) : Result TaintSet :=
  ls.foldlM (fun s l => do
    let _ ← (s.labels.find? (fun m => m.identity = l.identity)).mapM (fun m => m.join? l)
    return s.add l) empty

def isEmpty (s : TaintSet) : Bool := s.labels.isEmpty

def size (s : TaintSet) : Nat := s.labels.length

/-- The label of a given identity. -/
def find? (s : TaintSet) (i : Identity) : Option Label :=
  s.labels.find? (fun l => l.identity = i)

def has (s : TaintSet) (i : Identity) : Bool := (s.find? i).isSome

/-- Whether every identity of `s` occurs in `t`. -/
def isSubset (s t : TaintSet) : Bool := s.labels.all (fun l => t.has l.identity)

/-- Whether both sets have the same identities. -/
def same (s t : TaintSet) : Bool := s.isSubset t && t.isSubset s

/-- The labels in the order in which they are listed. -/
def sorted (s : TaintSet) : List Label := s.labels.mergeSort (fun a b => (a.order b).isLE)

def union (s t : TaintSet) : TaintSet :=
  if t.isEmpty then s else if s.isEmpty then t else t.labels.foldl add s

instance : Union TaintSet := ⟨union⟩

/-- The union of some sets whose labels can be compared where they meet. -/
def unionAll? (s : TaintSet) (ts : List TaintSet) : Result TaintSet :=
  ofList? (s.labels ++ ts.flatMap TaintSet.labels)

/-- The union of any number of sets, joined from the left. -/
def unionAll (s : TaintSet) (ts : List TaintSet) : TaintSet := ts.foldl union s

def join (ts : List TaintSet) : TaintSet := unionAll empty ts

def extend (s : TaintSet) (node mark : Atom) : TaintSet :=
  ofList (s.labels.map (fun l => l.extend node mark))

def markUnknown (s : TaintSet) (node : Atom) : TaintSet := s.extend node true

/-- The labels that have an origin, without their markers. -/
def concrete (s : TaintSet) : TaintSet :=
  ofList ((s.labels.filter Label.isConcrete).map Label.withoutSymbols)

/-- The labels that have an origin, if those that meet without their markers can be compared. -/
def concrete? (s : TaintSet) : Result TaintSet :=
  ofList? ((s.labels.filter Label.isConcrete).map Label.withoutSymbols)

def symbols (s : TaintSet) : Names := s.labels.foldl (fun found l => found ∪ l.symbols) ∅

def origins (s : TaintSet) : OrderedSet Origin :=
  s.labels.foldl (fun found l => found ∪ l.origins) ∅

def toDocument (s : TaintSet) : Document := .list (s.sorted.map Label.toDocument)

def ofDocument (d : Document) : Result TaintSet := do
  ofList? (← (← d.members).mapM Label.ofDocument)

def describe (s : TaintSet) : Result String := do
  return "TaintSet([" ++ Text.joinWith ", " (← s.sorted.mapM Label.describe) ++ "])"

end TaintSet

end TaintFlow
