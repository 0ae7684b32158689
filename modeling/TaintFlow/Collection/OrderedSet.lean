/-!
# Finite sets as strictly increasing lists

Every set that an answer can show is reported in increasing order, so a finite set is kept as the
strictly increasing list of its members. Two sets with the same members are then equal, and
reading the members in order is reading the list.
-/

namespace TaintFlow

/-- A finite set, kept as the strictly increasing list of its members. -/
structure OrderedSet (α : Type) [Ord α] where
  toList : List α
  increasing : toList.Pairwise (fun a b => compare a b = .lt)
deriving DecidableEq, Repr

namespace OrderedSet

variable {α : Type} [Ord α]

/-- Inserts an element into an increasing list, keeping one copy of it. -/
def place (a : α) : List α → List α
  | [] => [a]
  | b :: rest =>
    match compare a b with
    | .lt => a :: b :: rest
    | .eq => b :: rest
    | .gt => b :: place a rest

theorem mem_place [Std.LawfulEqOrd α] {a x : α} {l : List α} :
    x ∈ place a l ↔ x = a ∨ x ∈ l := by
  induction l with
  | nil => simp [place]
  | cons b rest ih =>
    rw [place]
    split
    · simp
    · next h => simp [Std.LawfulEqOrd.eq_of_compare h]
    · simp only [List.mem_cons, ih]
      constructor
      · rintro (h | h | h) <;> simp [h]
      · rintro (h | h | h) <;> simp [h]

theorem increasing_place [Std.TransOrd α] [Std.LawfulEqOrd α] {a : α} {l : List α}
    (hl : l.Pairwise (fun a b => compare a b = .lt)) :
    (place a l).Pairwise (fun a b => compare a b = .lt) := by
  induction l with
  | nil => simp [place]
  | cons b rest ih =>
    obtain ⟨hb, hrest⟩ := List.pairwise_cons.1 hl
    rw [place]
    split
    · next h =>
      refine List.pairwise_cons.2 ⟨fun x hx => ?_, hl⟩
      rcases List.mem_cons.1 hx with rfl | hx
      · exact h
      · exact Std.TransCmp.lt_trans h (hb x hx)
    · exact hl
    · next h =>
      refine List.pairwise_cons.2 ⟨fun x hx => ?_, ih hrest⟩
      rcases mem_place.1 hx with rfl | hx
      · exact Std.OrientedCmp.lt_of_gt h
      · exact hb x hx

def empty : OrderedSet α := ⟨[], .nil⟩

instance : EmptyCollection (OrderedSet α) := ⟨empty⟩

instance : Inhabited (OrderedSet α) := ⟨empty⟩

instance : Membership α (OrderedSet α) := ⟨fun s a => a ∈ s.toList⟩

instance [DecidableEq α] (a : α) (s : OrderedSet α) : Decidable (a ∈ s) :=
  inferInstanceAs (Decidable (a ∈ s.toList))

def isEmpty (s : OrderedSet α) : Bool := s.toList.isEmpty

def size (s : OrderedSet α) : Nat := s.toList.length

def singleton (a : α) : OrderedSet α := ⟨[a], by simp⟩

def filter (p : α → Bool) (s : OrderedSet α) : OrderedSet α :=
  ⟨s.toList.filter p, s.increasing.filter p⟩

def erase [DecidableEq α] (s : OrderedSet α) (a : α) : OrderedSet α :=
  s.filter (fun x => x ≠ a)

def diff [DecidableEq α] (s t : OrderedSet α) : OrderedSet α :=
  s.filter (fun x => x ∉ t)

/-- Whether every member of `s` is a member of `t`. -/
def isSubset [DecidableEq α] (s t : OrderedSet α) : Bool :=
  s.toList.all (fun x => x ∈ t)

variable [Std.TransOrd α] [Std.LawfulEqOrd α]

def insert (s : OrderedSet α) (a : α) : OrderedSet α :=
  ⟨place a s.toList, increasing_place s.increasing⟩

def insertAll (s : OrderedSet α) (as : List α) : OrderedSet α :=
  as.foldl insert s

def ofList (as : List α) : OrderedSet α := insertAll empty as

def union (s t : OrderedSet α) : OrderedSet α := s.insertAll t.toList

instance : Union (OrderedSet α) := ⟨union⟩

omit [Std.TransOrd α] [Std.LawfulEqOrd α] in
theorem mem_def {a : α} {s : OrderedSet α} : a ∈ s ↔ a ∈ s.toList := Iff.rfl

omit [Std.TransOrd α] [Std.LawfulEqOrd α] in
@[simp] theorem not_mem_empty (a : α) : a ∉ (∅ : OrderedSet α) := List.not_mem_nil

omit [Std.TransOrd α] [Std.LawfulEqOrd α] in
@[simp] theorem mem_singleton {a x : α} : x ∈ singleton a ↔ x = a := List.mem_singleton

omit [Std.TransOrd α] [Std.LawfulEqOrd α] in
@[simp] theorem mem_filter {p : α → Bool} {s : OrderedSet α} {x : α} :
    x ∈ s.filter p ↔ x ∈ s ∧ p x = true := List.mem_filter

@[simp] theorem mem_insert {s : OrderedSet α} {a x : α} : x ∈ s.insert a ↔ x = a ∨ x ∈ s :=
  mem_place

@[simp] theorem mem_insertAll {s : OrderedSet α} {as : List α} {x : α} :
    x ∈ s.insertAll as ↔ x ∈ s ∨ x ∈ as := by
  induction as generalizing s with
  | nil => simp [insertAll]
  | cons a as ih =>
    have h : s.insertAll (a :: as) = (s.insert a).insertAll as := rfl
    rw [h, ih, mem_insert, List.mem_cons]
    constructor
    · rintro ((h | h) | h) <;> simp [h]
    · rintro (h | h | h) <;> simp [h]

@[simp] theorem mem_ofList {as : List α} {x : α} : x ∈ ofList as ↔ x ∈ as := by
  rw [ofList, mem_insertAll]
  exact or_iff_right (not_mem_empty x)

@[simp] theorem mem_union {s t : OrderedSet α} {x : α} : x ∈ s ∪ t ↔ x ∈ s ∨ x ∈ t :=
  mem_insertAll

omit [Std.LawfulEqOrd α] in
theorem toList_eq_of_mem_iff {l r : List α} (hl : l.Pairwise (fun a b => compare a b = .lt))
    (hr : r.Pairwise (fun a b => compare a b = .lt)) (h : ∀ a, a ∈ l ↔ a ∈ r) : l = r := by
  induction l generalizing r with
  | nil =>
    cases r with
    | nil => rfl
    | cons b r => exact absurd ((h b).2 List.mem_cons_self) List.not_mem_nil
  | cons a l ih =>
    cases r with
    | nil => exact absurd ((h a).1 List.mem_cons_self) List.not_mem_nil
    | cons b r =>
      obtain ⟨ha, hl'⟩ := List.pairwise_cons.1 hl
      obtain ⟨hb, hr'⟩ := List.pairwise_cons.1 hr
      have hself : ∀ x : α, compare x x ≠ .lt := fun x hx => by
        rw [Std.ReflOrd.compare_self] at hx
        exact absurd hx (by decide)
      have hab : a = b := by
        rcases List.mem_cons.1 ((h a).1 List.mem_cons_self) with h1 | h1
        · exact h1
        · rcases List.mem_cons.1 ((h b).2 List.mem_cons_self) with h2 | h2
          · exact h2.symm
          · exact absurd (Std.TransCmp.lt_trans (ha b h2) (hb a h1)) (hself a)
      subst hab
      refine congrArg (a :: ·) (ih hl' hr' fun x => ⟨fun hx => ?_, fun hx => ?_⟩)
      · rcases List.mem_cons.1 ((h x).1 (List.mem_cons_of_mem a hx)) with rfl | hx'
        · exact absurd (ha x hx) (hself x)
        · exact hx'
      · rcases List.mem_cons.1 ((h x).2 (List.mem_cons_of_mem a hx)) with rfl | hx'
        · exact absurd (hb x hx) (hself x)
        · exact hx'

omit [Std.LawfulEqOrd α] in
/-- Sets with the same members are equal. -/
theorem eq_of_mem_iff {s t : OrderedSet α} (h : ∀ a, a ∈ s ↔ a ∈ t) : s = t := by
  cases s with
  | mk l hl =>
    cases t with
    | mk r hr =>
      have : l = r := toList_eq_of_mem_iff hl hr h
      subst this
      rfl

@[simp] theorem union_self (s : OrderedSet α) : s ∪ s = s :=
  eq_of_mem_iff fun a => by simp

end OrderedSet

/-- A finite set of names. -/
abbrev Names := OrderedSet String

end TaintFlow
