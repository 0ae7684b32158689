/-!
# Finite maps in increasing order of their keys

A finite map is kept as the list of its entries in strictly increasing order of the keys, so two
maps with the same entries are equal whatever order they were built in.
-/

namespace TaintFlow

/-- A finite map, kept as its entries in strictly increasing order of the keys. -/
structure OrderedMap (κ α : Type) [Ord κ] where
  entries : List (κ × α)
  increasing : entries.Pairwise (fun a b => compare a.1 b.1 = .lt)
deriving DecidableEq, Repr

namespace OrderedMap

variable {κ α β : Type} [Ord κ]

/-- Puts an entry into its place, over an entry with the same key. -/
def place (key : κ) (value : α) : List (κ × α) → List (κ × α)
  | [] => [(key, value)]
  | entry :: rest =>
    match compare key entry.1 with
    | .lt => (key, value) :: entry :: rest
    | .eq => (key, value) :: rest
    | .gt => entry :: place key value rest

theorem mem_place {key : κ} {value : α} {x : κ × α} {l : List (κ × α)}
    (h : x ∈ place key value l) : x = (key, value) ∨ x ∈ l := by
  induction l with
  | nil => exact .inl (List.mem_singleton.1 h)
  | cons entry rest ih =>
    rw [place] at h
    split at h
    · exact List.mem_cons.1 h
    · rcases List.mem_cons.1 h with h | h
      · exact .inl h
      · exact .inr (List.mem_cons_of_mem entry h)
    · rcases List.mem_cons.1 h with h | h
      · exact .inr (h ▸ List.mem_cons_self)
      · exact (ih h).imp_right (List.mem_cons_of_mem entry)

theorem increasing_place [Std.TransOrd κ] [Std.LawfulEqOrd κ] {key : κ} {value : α}
    {l : List (κ × α)} (hl : l.Pairwise (fun a b => compare a.1 b.1 = .lt)) :
    (place key value l).Pairwise (fun a b => compare a.1 b.1 = .lt) := by
  induction l with
  | nil => simp [place]
  | cons entry rest ih =>
    obtain ⟨hentry, hrest⟩ := List.pairwise_cons.1 hl
    rw [place]
    split
    · next h =>
      refine List.pairwise_cons.2 ⟨fun x hx => ?_, hl⟩
      rcases List.mem_cons.1 hx with rfl | hx
      · exact h
      · exact Std.TransCmp.lt_trans h (hentry x hx)
    · next h =>
      have hkey : key = entry.1 := Std.LawfulEqOrd.eq_of_compare h
      refine List.pairwise_cons.2 ⟨fun x hx => ?_, hrest⟩
      exact hkey ▸ hentry x hx
    · next h =>
      refine List.pairwise_cons.2 ⟨fun x hx => ?_, ih hrest⟩
      rcases mem_place hx with rfl | hx
      · exact Std.OrientedCmp.lt_of_gt h
      · exact hentry x hx

def empty : OrderedMap κ α := ⟨[], .nil⟩

instance : EmptyCollection (OrderedMap κ α) := ⟨empty⟩

instance : Inhabited (OrderedMap κ α) := ⟨empty⟩

def get? [DecidableEq κ] (m : OrderedMap κ α) (key : κ) : Option α := m.entries.lookup key

def getD [DecidableEq κ] (m : OrderedMap κ α) (key : κ) (default : α) : α :=
  (m.get? key).getD default

def contains [DecidableEq κ] (m : OrderedMap κ α) (key : κ) : Bool := (m.get? key).isSome

def keys (m : OrderedMap κ α) : List κ := m.entries.map Prod.fst

def values (m : OrderedMap κ α) : List α := m.entries.map Prod.snd

def size (m : OrderedMap κ α) : Nat := m.entries.length

def isEmpty (m : OrderedMap κ α) : Bool := m.entries.isEmpty

def mapValues (f : α → β) (m : OrderedMap κ α) : OrderedMap κ β :=
  ⟨m.entries.map (fun entry => (entry.1, f entry.2)), List.pairwise_map.2 m.increasing⟩

/-- Whether two maps have the same keys with related values. -/
def agrees [DecidableEq κ] (same : α → α → Bool) (m n : OrderedMap κ α) : Bool :=
  m.keys == n.keys && (m.values.zip n.values).all (fun pair => same pair.1 pair.2)

variable [Std.TransOrd κ] [Std.LawfulEqOrd κ]

def set (m : OrderedMap κ α) (key : κ) (value : α) : OrderedMap κ α :=
  ⟨place key value m.entries, increasing_place m.increasing⟩

def setIfAbsent [DecidableEq κ] (m : OrderedMap κ α) (key : κ) (value : α) : OrderedMap κ α :=
  if m.contains key then m else m.set key value

def ofList (entries : List (κ × α)) : OrderedMap κ α :=
  entries.foldl (fun m entry => m.set entry.1 entry.2) empty

/-- Adds every entry of the second map to the first, which it overrides. -/
def override (m n : OrderedMap κ α) : OrderedMap κ α :=
  n.entries.foldl (fun m entry => m.set entry.1 entry.2) m

omit [Std.TransOrd κ] [Std.LawfulEqOrd κ] in
@[simp] theorem get?_empty [DecidableEq κ] (key : κ) :
    (∅ : OrderedMap κ α).get? key = none := rfl

omit [Std.TransOrd κ] in
theorem lookup_place_self [DecidableEq κ] (key : κ) (value : α) (l : List (κ × α)) :
    (place key value l).lookup key = some value := by
  induction l with
  | nil => simp [place]
  | cons entry rest ih =>
    obtain ⟨k, v⟩ := entry
    rw [place]
    split
    · simp
    · simp
    · next h =>
      have hne : (key == k) = false := by
        refine beq_eq_false_iff_ne.2 fun he => ?_
        rw [he, Std.LawfulEqOrd.compare_eq_iff_eq.2 rfl] at h
        exact absurd h (by decide)
      simp [List.lookup_cons, hne, ih]

omit [Std.TransOrd κ] in
theorem lookup_place_ne [DecidableEq κ] {key other : κ} (value : α) (l : List (κ × α))
    (h : other ≠ key) : (place key value l).lookup other = l.lookup other := by
  induction l with
  | nil => simp [place, List.lookup_cons, beq_eq_false_iff_ne.2 h]
  | cons entry rest ih =>
    obtain ⟨k, v⟩ := entry
    rw [place]
    split
    · simp [List.lookup_cons, beq_eq_false_iff_ne.2 h]
    · next he =>
      have hkey : key = k := Std.LawfulEqOrd.eq_of_compare he
      have : (other == k) = false := beq_eq_false_iff_ne.2 (hkey ▸ h)
      simp [List.lookup_cons, beq_eq_false_iff_ne.2 h, this]
    · simp only [List.lookup_cons, ih]

@[simp] theorem get?_set_self [DecidableEq κ] (m : OrderedMap κ α) (key : κ) (value : α) :
    (m.set key value).get? key = some value :=
  lookup_place_self key value m.entries

theorem get?_set_ne [DecidableEq κ] (m : OrderedMap κ α) {key other : κ} (value : α)
    (h : other ≠ key) : (m.set key value).get? other = m.get? other :=
  lookup_place_ne value m.entries h

end OrderedMap

/-- A finite map from names. -/
abbrev NameMap (α : Type) := OrderedMap String α

end TaintFlow
