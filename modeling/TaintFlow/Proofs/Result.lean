import Mathlib.Data.List.Forall2
import TaintFlow.Fault

/-!
# Steps that can stop

What a chain of steps comes to is read off its steps: whether it has a result and which
(`exists_of_bind_eq_ok`, `mem_iff_of_mapM`), by what kind of fault it may stop (`Yields`), and where it does
stop (`stops_bind_iff`, `stops_mapM_iff`, `stops_foldlM_iff`).
-/

namespace TaintFlow

namespace Result

variable {α β γ : Type}

/-! ### Results -/

theorem ok_bind (a : α) (f : α → Result β) : ((.ok a : Result α) >>= f) = f a := rfl

theorem map_bind (x : Result α) (f : α → Result β) (g : β → γ) :
    (x >>= f).map g = x >>= fun a => (f a).map g := by
  cases x <;> rfl

theorem exists_of_bind_eq_ok {x : Result α} {f : α → Result β} {b : β} (h : x >>= f = .ok b) :
    ∃ a, x = .ok a ∧ f a = .ok b := by
  cases x with
  | error fault => cases h
  | ok a => exact ⟨a, rfl, h⟩

theorem exists_ok_of_any {r : Result α} {p : α → Bool} (h : r.toOption.any p = true) :
    ∃ a, r = .ok a ∧ p a = true := by
  cases r with
  | error fault => cases h
  | ok a => exact ⟨a, rfl, h⟩

theorem apply_of_any {r : Result α} {p : α → Bool} (h : r.toOption.any p = true)
    {a : α} (hr : r = .ok a) : p a = true := by
  subst hr
  exact h

theorem eq_ok_of_toOption {r : Result α} {a : α} (h : r.toOption = some a) : r = .ok a := by
  cases r with
  | error fault => cases h
  | ok b => rw [Option.some.inj h]

/-! ### The results of a list -/

theorem forall₂_of_mapM {f : α → Result β} {l : List α} {results : List β}
    (h : l.mapM f = .ok results) : List.Forall₂ (fun a b => f a = .ok b) l results := by
  induction l generalizing results with
  | nil =>
    cases h
    exact .nil
  | cons a rest ih =>
    rw [List.mapM_cons] at h
    obtain ⟨b, hb, h⟩ := exists_of_bind_eq_ok h
    obtain ⟨bs, hbs, h⟩ := exists_of_bind_eq_ok h
    cases h
    exact .cons hb (ih hbs)

theorem exists_mapM_eq_ok {f : α → Result β} {l : List α}
    (h : ∀ a ∈ l, ∃ b, f a = .ok b) : ∃ results, l.mapM f = .ok results := by
  induction l with
  | nil => exact ⟨[], rfl⟩
  | cons a rest ih =>
    obtain ⟨b, hb⟩ := h a List.mem_cons_self
    obtain ⟨results, hresults⟩ := ih fun other ho => h other (List.mem_cons_of_mem a ho)
    exact ⟨b :: results, by rw [List.mapM_cons, hb, hresults]; rfl⟩

theorem mem_iff_of_mapM {f : α → Result β} {l : List α} {results : List β}
    (h : l.mapM f = .ok results) {b : β} : b ∈ results ↔ ∃ a ∈ l, f a = .ok b := by
  have hall := forall₂_of_mapM h
  clear h
  induction hall with
  | nil => simp
  | @cons a c rest results hc _ ih =>
    rw [List.mem_cons, List.exists_mem_cons_iff]
    refine or_congr ⟨?_, fun he => (Except.ok.inj (hc.symm.trans he)).symm⟩ ih
    rintro rfl
    exact hc

theorem exists_of_mapM {f : α → Result β} {l : List α} {results : List β}
    (h : l.mapM f = .ok results) {a : α} (ha : a ∈ l) : ∃ b ∈ results, f a = .ok b := by
  obtain ⟨i, hi⟩ := List.mem_iff_getElem?.1 ha
  have hall := List.forall₂_iff_get.1 (forall₂_of_mapM h)
  obtain ⟨hlt, rfl⟩ := List.getElem?_eq_some_iff.1 hi
  exact ⟨_, List.getElem_mem _, hall.2 i hlt (hall.1 ▸ hlt)⟩

theorem mapM_map_eq_ok {write : γ → α} {f : α → Result β} {g : γ → β} {l : List γ}
    (h : ∀ c ∈ l, f (write c) = .ok (g c)) : (l.map write).mapM f = .ok (l.map g) := by
  induction l with
  | nil => rfl
  | cons c rest ih =>
    rw [List.map_cons, List.mapM_cons, h c List.mem_cons_self,
      ih fun other ho => h other (List.mem_cons_of_mem c ho)]
    rfl

theorem foldlM_map_eq_ok {write : γ → α} {f : β → α → Result β} {g : β → γ → β} {l : List γ}
    (h : ∀ c ∈ l, ∀ b, f b (write c) = .ok (g b c)) (b : β) :
    (l.map write).foldlM f b = .ok (l.foldl g b) := by
  induction l generalizing b with
  | nil => rfl
  | cons c rest ih =>
    rw [List.map_cons, List.foldlM_cons, h c List.mem_cons_self, ok_bind, List.foldl_cons]
    exact ih (fun other ho => h other (List.mem_cons_of_mem c ho)) _

theorem forM_eq_ok {f : α → Result PUnit} {l : List α} (h : ∀ a ∈ l, f a = .ok ⟨⟩) : l.forM f = .ok ⟨⟩ := by
  induction l with
  | nil => rfl
  | cons a rest ih =>
    obtain ⟨ha, hrest⟩ := List.forall_mem_cons.1 h
    rw [List.forM, ha]
    exact ih hrest

/-! ### Kinds of faults -/

/-- A step has a result with a property, or it stops by a fault of a kind. -/
def Yields (kind : Fault → Prop) (post : α → Prop) : Result α → Prop
  | .ok a => post a
  | .error fault => kind fault

variable {kind kind' : Fault → Prop} {post : α → Prop} {post' : β → Prop}

theorem Yields.cases {r : Result α} (h : Yields kind post r) :
    (∃ a, r = .ok a ∧ post a) ∨ ∃ fault, r = .error fault ∧ kind fault := by
  cases r with
  | ok a => exact Or.inl ⟨a, rfl, h⟩
  | error fault => exact Or.inr ⟨fault, rfl, h⟩

theorem Yields.of_eq_ok {r : Result α} (h : Yields kind post r) {a : α} (hr : r = .ok a) : post a := by
  subst hr
  exact h

theorem Yields.mono {r : Result α} (h : Yields kind post r) (hkind : ∀ fault, kind fault → kind' fault) :
    Yields kind' post r := by
  cases r with
  | ok a => exact h
  | error fault => exact hkind fault h

theorem Yields.forget {r : Result α} (h : Yields kind post r) : Yields kind (fun _ => True) r := by
  cases r with
  | ok a => trivial
  | error fault => exact h

theorem Yields.and_eq {r : Result α} (h : Yields kind post r) :
    Yields kind (fun a => post a ∧ r = .ok a) r := by
  cases r with
  | ok a => exact ⟨h, rfl⟩
  | error fault => exact h

theorem Yields.bind {motive : α → Prop} {x : Result α} {f : α → Result β} (hx : Yields kind motive x)
    (hf : ∀ a, motive a → Yields kind post' (f a)) : Yields kind post' (x >>= f) := by
  cases x with
  | ok a => exact hf a hx
  | error fault => exact hx

theorem yields_mapM {f : α → Result β} {l : List α} (h : ∀ a ∈ l, Yields kind post' (f a)) :
    Yields kind (fun bs => ∀ b ∈ bs, post' b) (l.mapM f) := by
  induction l with
  | nil => exact fun b hb => absurd hb List.not_mem_nil
  | cons a rest ih =>
    rw [List.mapM_cons]
    refine (h a List.mem_cons_self).bind fun b hb => ?_
    refine (ih fun c hc => h c (List.mem_cons_of_mem a hc)).bind fun bs hbs => ?_
    exact List.forall_mem_cons.2 ⟨hb, hbs⟩

theorem yields_mapM_option {f : α → Result β} {o : Option α} (h : ∀ a ∈ o, Yields kind post' (f a)) :
    Yields kind (fun _ => True) (o.mapM f) := by
  cases o with
  | none => trivial
  | some a =>
    rw [Option.mapM_some]
    exact (h a rfl).bind fun _ _ => trivial

/-- Whatever each step preserves, all of them preserve. -/
theorem yields_foldlM {motive : β → Prop} {f : β → α → Result β} {l : List α} {b : β} (hb : motive b)
    (h : ∀ b, motive b → ∀ a ∈ l, Yields kind motive (f b a)) :
    Yields kind motive (l.foldlM f b) := by
  induction l generalizing b with
  | nil => exact hb
  | cons a rest ih =>
    rw [List.foldlM_cons]
    refine (h b hb a List.mem_cons_self).bind fun c hc => ?_
    exact ih hc fun d hd e he => h d hd e (List.mem_cons_of_mem a he)

/-- Whatever each step that has a result preserves, all of them preserve. -/
theorem foldlM_induction {motive : β → Prop} {f : β → α → Result β} {l : List α} {b c : β}
    (h : l.foldlM f b = .ok c) (hb : motive b)
    (hstep : ∀ b a c, a ∈ l → motive b → f b a = .ok c → motive c) : motive c := by
  have hfold : Yields (fun _ => True) motive (l.foldlM f b) := by
    refine yields_foldlM hb fun b hb a ha => ?_
    cases hf : f b a with
    | ok c => exact hstep b a c ha hb hf
    | error fault => trivial
  exact hfold.of_eq_ok h

/-! ### Where steps stop -/

/-- A step stops by a fault of a kind. -/
def Stops (kind : Fault → Prop) (r : Result α) : Prop := ∃ fault, r = .error fault ∧ kind fault

@[simp] theorem not_stops_ok (a : α) : ¬ Stops kind (.ok a) := nofun

@[simp] theorem stops_error_iff {fault : Fault} :
    Stops kind (.error fault : Result α) ↔ kind fault :=
  ⟨fun ⟨_, he, h⟩ => Except.error.inj he ▸ h, fun h => ⟨fault, rfl, h⟩⟩

theorem Yields.not_stops {r : Result α} (h : Yields kind post r)
    (hkind : ∀ fault, kind fault → ¬ kind' fault) : ¬ Stops kind' r := by
  rintro ⟨fault, rfl, hfault⟩
  exact hkind fault h hfault

theorem stops_bind_iff {x : Result α} {f : α → Result β} :
    Stops kind (x >>= f) ↔ Stops kind x ∨ ∃ a, x = .ok a ∧ Stops kind (f a) := by
  cases x with
  | ok a => simp [ok_bind]
  | error fault =>
    constructor
    · rintro ⟨_, he, h⟩
      cases he
      exact Or.inl ⟨fault, rfl, h⟩
    · rintro (⟨_, he, h⟩ | ⟨a, ha, -⟩)
      · cases he
        exact ⟨fault, rfl, h⟩
      · cases ha

theorem stops_bind_iff_and {x : Result α} {f : α → Result β} {later : Prop}
    (h : ∀ a, Stops kind (f a) ↔ later) :
    Stops kind (x >>= f) ↔ Stops kind x ∨ (∃ a, x = .ok a) ∧ later := by
  simp only [stops_bind_iff, h, exists_and_right]

/-- A step that stops by faults of the kind only stops, or leaves it to what follows. -/
theorem stops_bind_iff_or {x : Result α} {f : α → Result β} {later : Prop} (hx : Yields kind post x)
    (h : ∀ a, Stops kind (f a) ↔ later) : Stops kind (x >>= f) ↔ Stops kind x ∨ later := by
  rw [stops_bind_iff_and h]
  rcases hx.cases with ⟨a, rfl, -⟩ | ⟨fault, rfl, hfault⟩
  · exact or_congr_right (and_iff_right ⟨a, rfl⟩)
  · exact iff_of_true (Or.inl ⟨fault, rfl, hfault⟩) (Or.inl ⟨fault, rfl, hfault⟩)

theorem stops_mapM_option_iff {f : α → Result β} {o : Option α} :
    Stops kind (o.mapM f) ↔ ∃ a ∈ o, Stops kind (f a) := by
  cases o with
  | none => exact iff_of_false (not_stops_ok none) (by simp)
  | some a =>
    have hmap : (some a).mapM f = f a >>= fun b => .ok (some b) := by
      rw [Option.mapM_some]
      rfl
    rw [hmap, stops_bind_iff]
    simp

/-- Steps over a list stop at one of its members, after all of those before it. -/
theorem stops_foldlM_iff {f : β → α → Result β} {l : List α} {b : β} :
    Stops kind (l.foldlM f b) ↔ ∃ before a after c, l = before ++ a :: after ∧
      before.foldlM f b = .ok c ∧ Stops kind (f c a) := by
  induction l generalizing b with
  | nil =>
    refine iff_of_false (not_stops_ok b) ?_
    rintro ⟨before, a, after, c, hl, -⟩
    exact List.append_ne_nil_of_right_ne_nil before (List.cons_ne_nil a after) hl.symm
  | cons x rest ih =>
    rw [List.foldlM_cons, stops_bind_iff]
    constructor
    · rintro (hx | ⟨c, hc, h⟩)
      · exact ⟨[], x, rest, b, rfl, rfl, hx⟩
      · obtain ⟨before, a, after, d, rfl, hd, ha⟩ := ih.1 h
        exact ⟨x :: before, a, after, d, rfl, by rw [List.foldlM_cons, hc, ok_bind, hd], ha⟩
    · rintro ⟨before, a, after, d, hl, hd, ha⟩
      cases before with
      | nil =>
        cases hl
        cases hd
        exact Or.inl ha
      | cons y before =>
        cases hl
        rw [List.foldlM_cons] at hd
        obtain ⟨c, hc, hd⟩ := exists_of_bind_eq_ok hd
        exact Or.inr ⟨c, hc, ih.2 ⟨before, a, after, d, rfl, hd, ha⟩⟩

theorem stops_mapM_iff {f : α → Result β} {l : List α} :
    Stops kind (l.mapM f) ↔ ∃ before a after, l = before ++ a :: after ∧
      (∀ x ∈ before, ∃ y, f x = .ok y) ∧ Stops kind (f a) := by
  induction l with
  | nil =>
    refine iff_of_false (not_stops_ok []) ?_
    rintro ⟨before, a, after, hl, -⟩
    exact List.append_ne_nil_of_right_ne_nil before (List.cons_ne_nil a after) hl.symm
  | cons x rest ih =>
    rw [List.mapM_cons, stops_bind_iff]
    constructor
    · rintro (hx | ⟨y, hy, h⟩)
      · exact ⟨[], x, rest, rfl, nofun, hx⟩
      · rcases stops_bind_iff.1 h with h | ⟨ys, -, h⟩
        · obtain ⟨before, a, after, rfl, hbefore, ha⟩ := ih.1 h
          exact ⟨x :: before, a, after, rfl, List.forall_mem_cons.2 ⟨⟨y, hy⟩, hbefore⟩, ha⟩
        · exact absurd h (not_stops_ok _)
    · rintro ⟨before, a, after, hl, hbefore, ha⟩
      cases before with
      | nil =>
        cases hl
        exact Or.inl ha
      | cons z before =>
        cases hl
        obtain ⟨⟨y, hy⟩, hbefore⟩ := List.forall_mem_cons.1 hbefore
        exact Or.inr ⟨y, hy, stops_bind_iff.2 (Or.inl (ih.2 ⟨before, a, after, rfl, hbefore, ha⟩))⟩

end Result

end TaintFlow
