/-!
# Tables in insertion order

A table maps names to values and remembers the order in which its names first appeared. Setting a
name that is present keeps its place; a new name goes to the end. No name occurs twice.
-/

namespace TaintFlow

/-- A finite map from names, in the order in which the names first appeared. -/
structure Table (α : Type) where
  entries : List (String × α)
  distinct : (entries.map Prod.fst).Nodup
deriving DecidableEq, Repr

namespace Table

variable {α β : Type}

/-- Replaces the value of a name in its place, or appends the name at the end. -/
def put (name : String) (value : α) : List (String × α) → List (String × α)
  | [] => [(name, value)]
  | entry :: rest =>
    if entry.1 = name then (name, value) :: rest else entry :: put name value rest

theorem mem_keys_put {name x : String} {value : α} {l : List (String × α)} :
    x ∈ (put name value l).map Prod.fst ↔ x = name ∨ x ∈ l.map Prod.fst := by
  induction l with
  | nil => simp [put]
  | cons entry rest ih =>
    rw [put]
    split
    · next h => simp [h]
    · simp only [List.map_cons, List.mem_cons, ih]
      constructor
      · rintro (h | h | h) <;> simp [h]
      · rintro (h | h | h) <;> simp [h]

theorem distinct_put {name : String} {value : α} {l : List (String × α)}
    (hl : (l.map Prod.fst).Nodup) : ((put name value l).map Prod.fst).Nodup := by
  induction l with
  | nil => simp [put]
  | cons entry rest ih =>
    obtain ⟨hentry, hrest⟩ := List.nodup_cons.1 hl
    rw [put]
    split
    · next h => simpa [← h] using hl
    · next h =>
      refine List.nodup_cons.2 ⟨fun hmem => ?_, ih hrest⟩
      rcases mem_keys_put.1 hmem with h' | h'
      · exact h h'
      · exact hentry h'

def empty : Table α := ⟨[], by simp⟩

instance : EmptyCollection (Table α) := ⟨empty⟩

instance : Inhabited (Table α) := ⟨empty⟩

def get? (t : Table α) (name : String) : Option α := t.entries.lookup name

def getD (t : Table α) (name : String) (default : α) : α := (t.get? name).getD default

def contains (t : Table α) (name : String) : Bool := (t.get? name).isSome

def keys (t : Table α) : List String := t.entries.map Prod.fst

def values (t : Table α) : List α := t.entries.map Prod.snd

def size (t : Table α) : Nat := t.entries.length

def isEmpty (t : Table α) : Bool := t.entries.isEmpty

def set (t : Table α) (name : String) (value : α) : Table α :=
  ⟨put name value t.entries, distinct_put t.distinct⟩

/-- Sets a name that is not present yet and leaves a present one alone. -/
def setIfAbsent (t : Table α) (name : String) (value : α) : Table α :=
  if t.contains name then t else t.set name value

def modify (t : Table α) (name : String) (default : α) (f : α → α) : Table α :=
  t.set name (f (t.getD name default))

def filter (p : String × α → Bool) (t : Table α) : Table α :=
  ⟨t.entries.filter p, t.distinct.sublist (List.filter_sublist.map Prod.fst)⟩

def erase (t : Table α) (name : String) : Table α :=
  t.filter (fun entry => entry.1 ≠ name)

def ofList (entries : List (String × α)) : Table α :=
  entries.foldl (fun t entry => t.set entry.1 entry.2) empty

/-- Adds every entry of the second table to the first, which it overrides. -/
def override (t u : Table α) : Table α :=
  u.entries.foldl (fun t entry => t.set entry.1 entry.2) t

def mapValues (f : α → β) (t : Table α) : Table β :=
  ⟨t.entries.map (fun entry => (entry.1, f entry.2)), by
    simpa [List.map_map, Function.comp_def] using t.distinct⟩

/-- The entries in increasing order of their names. -/
def sorted (t : Table α) : List (String × α) :=
  t.entries.mergeSort (fun a b => (compare a.1 b.1).isLE)

/-- Whether two tables have the same names with related values, in whatever order. -/
def agrees (same : α → α → Bool) (t u : Table α) : Bool :=
  t.size == u.size && t.entries.all (fun entry =>
    match u.get? entry.1 with
    | some value => same entry.2 value
    | none => false)

@[simp] theorem get?_empty (name : String) : (∅ : Table α).get? name = none := rfl

theorem lookup_put_self (name : String) (value : α) (l : List (String × α)) :
    (put name value l).lookup name = some value := by
  induction l with
  | nil => simp [put]
  | cons entry rest ih =>
    obtain ⟨k, v⟩ := entry
    rw [put]
    split
    · simp
    · next h => simp [List.lookup_cons, beq_eq_false_iff_ne.2 (Ne.symm h), ih]

theorem lookup_put_ne {name other : String} (value : α) (l : List (String × α))
    (h : other ≠ name) : (put name value l).lookup other = l.lookup other := by
  induction l with
  | nil => simp [put, List.lookup_cons, beq_eq_false_iff_ne.2 h]
  | cons entry rest ih =>
    obtain ⟨k, v⟩ := entry
    rw [put]
    split
    · next he =>
      have : (other == k) = false := beq_eq_false_iff_ne.2 (fun h' => h (h'.trans he))
      simp [List.lookup_cons, beq_eq_false_iff_ne.2 h, this]
    · simp only [List.lookup_cons, ih]

@[simp] theorem get?_set_self (t : Table α) (name : String) (value : α) :
    (t.set name value).get? name = some value :=
  lookup_put_self name value t.entries

theorem get?_set_ne (t : Table α) {name other : String} (value : α) (h : other ≠ name) :
    (t.set name value).get? other = t.get? other :=
  lookup_put_ne value t.entries h

end Table

end TaintFlow
