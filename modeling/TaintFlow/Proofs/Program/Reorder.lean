import TaintFlow.Proofs.Collection
import TaintFlow.Proofs.Program.Entries

/-!
# Functions in another order

Two documents that list the same functions in different orders are read as programs that differ in the order
of their tables only (`Program.Reordered`), if no two functions have the same id
(`Program.readAlike_ofDocument`).  Each entry of the list leaves all ids alone but the one that it is filed
under, and what it makes of that one depends on nothing else (`Program.agreeAt_of_addRead`,
`Program.AgreeAt.addRead`), so that any two entries can change places (`Program.readAlike_swap`).
-/

namespace TaintFlow

open Result (Yields)

/-! ### Reordered programs -/

namespace Program

/-- Two programs say the same of an id. -/
structure AgreeAt (p q : Program) (id : String) : Prop where
  functions : q.functions.get? id = p.functions.get? id
  malformed : q.malformed.get? id = p.malformed.get? id

/-- The same program, with its functions listed in another order. -/
structure Reordered (p q : Program) : Prop where
  agree : ∀ id, p.AgreeAt q id
  globals : q.globals = p.globals

variable {p q s : Program} {id : String}

theorem AgreeAt.symm (h : p.AgreeAt q id) : q.AgreeAt p id := ⟨h.functions.symm, h.malformed.symm⟩

theorem AgreeAt.trans (h : p.AgreeAt q id) (h' : q.AgreeAt s id) : p.AgreeAt s id :=
  ⟨h'.functions.trans h.functions, h'.malformed.trans h.malformed⟩

namespace Reordered

theorem refl (p : Program) : p.Reordered p := ⟨fun _ => ⟨rfl, rfl⟩, rfl⟩

theorem trans (h : p.Reordered q) (h' : q.Reordered s) : p.Reordered s :=
  ⟨fun id => (h.agree id).trans (h'.agree id), h'.globals.trans h.globals⟩

theorem get?_functions (h : p.Reordered q) (id : String) :
    q.functions.get? id = p.functions.get? id :=
  (h.agree id).functions

theorem entries_perm (h : p.Reordered q) : q.functions.entries.Perm p.functions.entries :=
  Table.entries_perm h.get?_functions

theorem malformed_perm (h : p.Reordered q) : q.malformed.entries.Perm p.malformed.entries :=
  Table.entries_perm fun id => (h.agree id).malformed

theorem values_perm (h : p.Reordered q) : q.functions.values.Perm p.functions.values :=
  h.entries_perm.map Prod.snd

end Reordered

end Program

/-! ### Reading in another order -/

namespace Program

variable {p p' q q' : Program} {id other : String} {r : Result Function}

theorem get?_addFunction (p : Program) (f : Function) (id : String) :
    (p.addFunction f).functions.get? id =
      (if id = f.id then if p.functions.contains id then none else some f else p.functions.get? id) ∧
    (p.addFunction f).malformed.get? id =
      if id = f.id ∧ p.functions.contains id = true then some ⟨f.id, .duplicateFunction⟩
      else p.malformed.get? id := by
  unfold addFunction
  split
  · next hknown =>
    simp only [Table.get?_erase, Table.get?_set]
    by_cases h : id = f.id <;> simp [h, hknown]
  · next hnew =>
    simp only [Table.get?_set]
    by_cases h : id = f.id <;> simp [h, hnew]

theorem globals_addFunction (p : Program) (f : Function) : (p.addFunction f).globals = p.globals := by
  unfold addFunction
  split <;> rfl

/-- Whether an entry stops the reading does not depend on what was read before. -/
theorem addRead_cases (r : Result Function) :
    (∀ p, ∃ p', Program.addRead p r = .ok p') ∨ ∃ fault, ∀ p, Program.addRead p r = .error fault := by
  unfold addRead
  split
  · exact Or.inl fun p => ⟨_, rfl⟩
  · exact Or.inl fun p => ⟨_, rfl⟩
  · exact Or.inr ⟨_, fun p => rfl⟩

theorem globals_of_addRead (h : p.addRead r = .ok p') : p'.globals = p.globals := by
  unfold addRead at h
  split at h
  · cases h
    exact globals_addFunction p _
  · cases h
    rfl
  · cases h

/-- An entry leaves the other ids alone. -/
theorem agreeAt_of_addRead (hread : Yields (Fault.Concerns id) (fun f => f.id = id) r)
    (h : p.addRead r = .ok p') (hne : other ≠ id) : p.AgreeAt p' other := by
  unfold addRead at h
  split at h
  · next f =>
    cases h
    obtain ⟨hfunctions, hmalformed⟩ := get?_addFunction p f other
    obtain rfl : f.id = id := hread
    exact ⟨hfunctions.trans (if_neg hne), hmalformed.trans (if_neg fun h => hne h.1)⟩
  · next what =>
    cases h
    obtain rfl : what.function = id := hread
    exact ⟨rfl, Table.get?_set_ne _ _ hne⟩
  · cases h

/-- What an entry makes of an id depends on the id only. -/
theorem AgreeAt.addRead (hagree : p.AgreeAt q id) (h : p.addRead r = .ok p')
    (h' : q.addRead r = .ok q') : p'.AgreeAt q' id := by
  unfold Program.addRead at h h'
  split at h
  · next f =>
    cases h
    cases h'
    obtain ⟨hfunctions, hmalformed⟩ := get?_addFunction p f id
    obtain ⟨hfunctions', hmalformed'⟩ := get?_addFunction q f id
    rw [Table.contains, hagree.functions] at hfunctions' hmalformed'
    rw [hagree.malformed] at hmalformed'
    exact ⟨hfunctions'.trans hfunctions.symm, hmalformed'.trans hmalformed.symm⟩
  · next what =>
    cases h
    cases h'
    refine ⟨hagree.functions, ?_⟩
    simp only [Table.get?_set, hagree.malformed]
  · cases h

theorem Reordered.addRead (hpq : p.Reordered q) (h : p.addRead r = .ok p') (h' : q.addRead r = .ok q') :
    p'.Reordered q' :=
  ⟨fun id => (hpq.agree id).addRead h h',
    (globals_of_addRead h').trans (hpq.globals.trans (globals_of_addRead h).symm)⟩

/-- Both documents are read, as the same program with its functions in another order, or neither is. -/
def ReadAlike : Result Program → Result Program → Prop
  | .ok p, .ok q => p.Reordered q
  | .error _, .error _ => True
  | _, _ => False

theorem ReadAlike.trans {x y z : Result Program} (h : ReadAlike x y) (h' : ReadAlike y z) :
    ReadAlike x z := by
  cases x <;> cases y <;> cases z <;>
    first | trivial | exact h.elim | exact h'.elim | exact Reordered.trans h h'

theorem readAlike_addRead (hpq : p.Reordered q) (r : Result Function) :
    ReadAlike (p.addRead r) (q.addRead r) := by
  rcases addRead_cases r with hok | ⟨fault, hfault⟩
  · obtain ⟨p', h⟩ := hok p
    obtain ⟨q', h'⟩ := hok q
    rw [h, h']
    exact hpq.addRead h h'
  · rw [hfault, hfault]
    trivial

theorem ReadAlike.bind {x y : Result Program} {f g : Program → Result Program} (h : ReadAlike x y)
    (hnext : ∀ p q, p.Reordered q → ReadAlike (f p) (g q)) : ReadAlike (x >>= f) (y >>= g) := by
  cases x <;> cases y <;> first | exact h.elim | exact hnext _ _ h | trivial

/-- An entry that stops the reading stops it in any place. -/
theorem readAlike_of_stops {a b : Result Function}
    (h : (∃ fault, ∀ p, Program.addRead p a = .error fault) ∨
      ∃ fault, ∀ p, Program.addRead p b = .error fault) :
    ReadAlike (p.addRead a >>= fun p => p.addRead b) (q.addRead b >>= fun q => q.addRead a) := by
  have hstops : ∀ {a b : Result Function}, (∃ fault, ∀ p, Program.addRead p a = .error fault) →
      ∀ p : Program, (∃ fault, (p.addRead a >>= fun p => p.addRead b) = .error fault) ∧
        ∃ fault, (p.addRead b >>= fun p => p.addRead a) = .error fault := by
    rintro a b ⟨fault, hfault⟩ p
    refine ⟨⟨fault, by rw [hfault]; rfl⟩, ?_⟩
    cases p.addRead b with
    | ok next => exact ⟨fault, hfault next⟩
    | error other => exact ⟨other, rfl⟩
  rcases h with ha | hb
  · obtain ⟨_, hp⟩ := (hstops (b := b) ha p).1
    obtain ⟨_, hq⟩ := (hstops (b := b) ha q).2
    rw [hp, hq]
    trivial
  · obtain ⟨_, hp⟩ := (hstops (b := a) hb p).2
    obtain ⟨_, hq⟩ := (hstops (b := a) hb q).1
    rw [hp, hq]
    trivial

/-- **Two entries that concern different ids can change places.** -/
theorem readAlike_swap (hpq : p.Reordered q) {a b : Result Function} {id other : String}
    (ha : Yields (Fault.Concerns id) (fun f => f.id = id) a)
    (hb : Yields (Fault.Concerns other) (fun f => f.id = other) b) (hne : id ≠ other) :
    ReadAlike (p.addRead a >>= fun p => p.addRead b) (q.addRead b >>= fun q => q.addRead a) := by
  rcases addRead_cases a with hoka | hstop
  · rcases addRead_cases b with hokb | hstop
    · obtain ⟨pa, hpa⟩ := hoka p
      obtain ⟨pab, hpab⟩ := hokb pa
      obtain ⟨qb, hqb⟩ := hokb q
      obtain ⟨qba, hqba⟩ := hoka qb
      rw [hpa, hqb, Result.ok_bind, Result.ok_bind, hpab, hqba]
      refine ⟨fun x => ?_, ?_⟩
      · by_cases hx : x = id
        · have hxb : x ≠ other := hx ▸ hne
          have hstart : p.AgreeAt qb x := (hpq.agree x).trans (agreeAt_of_addRead hb hqb hxb)
          exact (agreeAt_of_addRead hb hpab hxb).symm.trans (hstart.addRead hpa hqba)
        · have hstart : pa.AgreeAt q x := (agreeAt_of_addRead ha hpa hx).symm.trans (hpq.agree x)
          exact (hstart.addRead hpab hqb).trans (agreeAt_of_addRead ha hqba hx)
      · rw [globals_of_addRead hqba, globals_of_addRead hqb, globals_of_addRead hpab,
          globals_of_addRead hpa, hpq.globals]
    · exact readAlike_of_stops (Or.inr hstop)
  · exact readAlike_of_stops (Or.inl hstop)

def readAll (fs : List Document) (p : Program) : Result Program :=
  fs.foldlM (fun p f => p.addRead (Function.ofDocument f)) p

theorem readAll_cons (f : Document) (rest : List Document) :
    readAll (f :: rest) = fun p => p.addRead (Function.ofDocument f) >>= readAll rest := by
  funext p
  rw [readAll, List.foldlM_cons]
  rfl

theorem ofDocument_eq {d : Document} {fs : List Document} (hfs : d.itemsOf "functions" = .ok fs) :
    ofDocument d = d.get? "globals" >>= fun field => Decode.texts field >>= fun globals =>
      readAll fs { empty with globals := .ofList globals } := by
  obtain ⟨field, hfield, hitems⟩ := Result.exists_of_bind_eq_ok hfs
  unfold ofDocument
  rw [hfield]
  refine bind_congr fun globals => bind_congr fun globals => ?_
  rw [Result.ok_bind, hitems]
  rfl

theorem readAlike_readAll_self (fs : List Document) (hpq : p.Reordered q) :
    ReadAlike (readAll fs p) (readAll fs q) := by
  induction fs generalizing p q with
  | nil => exact hpq
  | cons f rest ih =>
    rw [readAll_cons]
    exact (readAlike_addRead hpq _).bind fun _ _ => ih

/-- **The order of the entries is irrelevant** if no two functions have the same id. -/
theorem readAlike_readAll {fs fs' : List Document} (hperm : fs.Perm fs') (hdistinct : DistinctIds fs)
    (hpq : p.Reordered q) : ReadAlike (readAll fs p) (readAll fs' q) := by
  induction hperm generalizing p q with
  | nil => exact hpq
  | cons f _ ih =>
    rw [readAll_cons, readAll_cons]
    exact (readAlike_addRead hpq _).bind fun _ _ h => ih (List.pairwise_cons.1 hdistinct).2 h
  | swap a b rest =>
    simp only [readAll_cons, ← bind_assoc]
    refine ReadAlike.bind ?_ fun _ _ => readAlike_readAll_self rest
    rcases (List.pairwise_cons.1 hdistinct).1 a List.mem_cons_self with hne | ⟨hb, ha⟩
    · exact readAlike_swap hpq (Function.yields_ofDocument b) (Function.yields_ofDocument a) hne
    · rcases Function.ofDocument_of_functionId_eq ha with ha | ha
      · exact readAlike_of_stops (Or.inr ⟨.notAnObject, fun _ => by rw [ha]; rfl⟩)
      · rcases Function.ofDocument_of_functionId_eq hb with hb | hb
        · exact readAlike_of_stops (Or.inl ⟨.notAnObject, fun _ => by rw [hb]; rfl⟩)
        · rw [ha, hb]
          exact (readAlike_addRead hpq _).bind fun _ _ h => readAlike_addRead h _
  | trans hfirst _ ih ih' =>
    refine (ih hdistinct hpq).trans (ih' ?_ (.refl q))
    exact hfirst.pairwise hdistinct fun h => h.imp Ne.symm And.symm

/-- **Documents that list the same functions in different orders** are read as the same program with its
functions in another order, or neither can be read. -/
theorem readAlike_ofDocument {d d' : Document} {fs fs' : List Document}
    (hglobals : d'.get? "globals" = d.get? "globals")
    (hfs : d.get? "functions" = .ok (some (.list fs)))
    (hfs' : d'.get? "functions" = .ok (some (.list fs')))
    (hperm : fs.Perm fs') (hdistinct : DistinctIds fs) :
    ReadAlike (ofDocument d) (ofDocument d') := by
  have hitems : ∀ {d : Document} {fs : List Document}, d.get? "functions" = .ok (some (.list fs)) →
      d.itemsOf "functions" = .ok fs := by
    intro d fs hfs
    rw [Document.itemsOf, hfs]
    rfl
  rw [ofDocument_eq (hitems hfs), ofDocument_eq (hitems hfs'), hglobals]
  cases d.get? "globals" with
  | error fault => trivial
  | ok field =>
    rw [Result.ok_bind, Result.ok_bind]
    cases Decode.texts field with
    | error fault => trivial
    | ok globals => exact readAlike_readAll hperm hdistinct (.refl _)

end Program

end TaintFlow
