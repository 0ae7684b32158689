import Mathlib.Algebra.Ring.Parity
import Mathlib.Data.List.Induction
import TaintFlow.Proofs.Program.Reorder

/-!
# Ids that are declared several times

What becomes of an id is settled by the entries that are filed under it.  Every second function that can be
read takes away the one before it, so the id is usable if their number is odd, and then stands for the last
of them; it is malformed as soon as one of the entries cannot be read or two can (`Program.Records`).  Hence
an id that is declared several times is always malformed, and usable all the same if an odd number of its
entries can be read.
-/

namespace TaintFlow

open Result (Yields)

/-- The entries that are filed under an id. -/
def declarations (fs : List Document) (id : String) : List Document := fs.filter (·.filedId = id)

/-- The functions that are read from the entries of an id. -/
def readings (fs : List Document) (id : String) : List Function :=
  (declarations fs id).filterMap fun f => (Function.ofDocument f).toOption

section Entries

variable {fs : List Document} {f : Document} {id : String}

theorem declarations_concat_self (fs : List Document) (f : Document) :
    declarations (fs ++ [f]) f.filedId = declarations fs f.filedId ++ [f] := by
  simp [declarations]

theorem declarations_concat_ne (h : f.filedId ≠ id) : declarations (fs ++ [f]) id = declarations fs id := by
  simp [declarations, h]

theorem readings_concat_self (fs : List Document) (f : Document) :
    readings (fs ++ [f]) f.filedId =
      readings fs f.filedId ++ (Function.ofDocument f).toOption.toList := by
  rw [readings, declarations_concat_self, List.filterMap_append]
  cases h : (Function.ofDocument f).toOption <;> simp [readings, h]

theorem readings_concat_ne (h : f.filedId ≠ id) : readings (fs ++ [f]) id = readings fs id := by
  rw [readings, declarations_concat_ne h, readings]

theorem length_readings_le (fs : List Document) (id : String) :
    (readings fs id).length ≤ (declarations fs id).length :=
  List.length_filterMap_le _ _

end Entries

namespace Program

variable {p p' : Program} {fs : List Document} {f : Document} {id : String}

/-- **What is recorded of an id after some entries:** the last of its functions if their number is odd, and
that it is malformed if not all of its entries could be read or more than one could. -/
structure Records (p : Program) (fs : List Document) (id : String) : Prop where
  functions : p.functions.get? id =
    if Odd (readings fs id).length then (readings fs id).getLast? else none
  malformed : p.malformed.contains id = true ↔
    (readings fs id).length < (declarations fs id).length ∨ 2 ≤ (readings fs id).length

theorem Records.contains_functions (h : p.Records fs id) :
    p.functions.contains id = true ↔ Odd (readings fs id).length := by
  rw [Table.contains, h.functions]
  split
  · next hodd =>
    refine iff_of_true (List.getLast?_isSome.2 fun hnil => ?_) hodd
    rw [hnil] at hodd
    exact Nat.not_odd_zero hodd
  · next hodd => exact iff_of_false (by simp) hodd

theorem records_empty (globals : Names) (id : String) : Records { empty with globals } [] id :=
  ⟨rfl, by simp [readings, declarations, empty, Table.contains]⟩

/-- A function that is read takes the place of none, or takes away the one before it. -/
theorem Records.addFunction {g : Function} (h : p.Records fs f.filedId)
    (hread : Function.ofDocument f = .ok g) (hg : g.id = f.filedId) :
    (p.addFunction g).Records (fs ++ [f]) f.filedId := by
  have hknown := h.contains_functions
  have hle := length_readings_le fs f.filedId
  have hreadings : readings (fs ++ [f]) f.filedId = readings fs f.filedId ++ [g] := by
    rw [readings_concat_self, hread]
    rfl
  obtain ⟨hfunctions, hmalformed⟩ := get?_addFunction p g f.filedId
  constructor
  · rw [hfunctions, if_pos hg.symm, hreadings, List.length_append, List.length_singleton,
      List.getLast?_concat]
    by_cases hodd : Odd (readings fs f.filedId).length
    · rw [if_pos (hknown.2 hodd), if_neg (Nat.not_odd_iff_even.2 hodd.add_one)]
    · rw [if_neg (fun h => hodd (hknown.1 h)), if_pos (Nat.not_odd_iff_even.1 hodd).add_one]
  · rw [hreadings, declarations_concat_self, Table.contains, hmalformed]
    simp only [List.length_append, List.length_singleton]
    have hbefore := h.malformed
    rw [Nat.odd_iff] at hknown
    by_cases hodd : p.functions.contains f.filedId = true
    · have := hknown.1 hodd
      exact iff_of_true (by simp [hg, hodd]) (by omega)
    · have := mt hknown.2 hodd
      rw [if_neg fun h => hodd h.2, ← Table.contains, hbefore]
      omega

/-- An entry that cannot be read leaves the functions as they are. -/
theorem Records.addMalformed {what : Malformed} (h : p.Records fs f.filedId)
    (hread : Function.ofDocument f = .error (.malformed what)) (hwhat : what.function = f.filedId) :
    Records { p with malformed := p.malformed.set what.function what } (fs ++ [f]) f.filedId := by
  have hle := length_readings_le fs f.filedId
  have hreadings : readings (fs ++ [f]) f.filedId = readings fs f.filedId := by
    rw [readings_concat_self, hread]
    exact List.append_nil _
  constructor
  · rw [hreadings]
    exact h.functions
  · rw [hreadings, declarations_concat_self, List.length_append, List.length_singleton]
    refine iff_of_true ?_ (Or.inl (by omega))
    simp [Table.contains, hwhat]

/-- An entry is recorded where it is filed, and nowhere else. -/
theorem Records.addRead (h : p.Records fs id) (hread : p.addRead (Function.ofDocument f) = .ok p') :
    p'.Records (fs ++ [f]) id := by
  have hconcerns := Function.yields_ofDocument f
  by_cases hid : f.filedId = id
  · subst hid
    unfold Program.addRead at hread
    split at hread
    · next g heq =>
      obtain rfl := Except.ok.inj hread
      exact h.addFunction heq (hconcerns.of_eq_ok heq)
    · next what heq =>
      obtain rfl := Except.ok.inj hread
      rw [heq] at hconcerns
      exact h.addMalformed heq hconcerns
    · cases hread
  · have hagree := agreeAt_of_addRead hconcerns hread (Ne.symm hid)
    constructor
    · rw [hagree.functions, h.functions, readings_concat_ne hid]
    · rw [Table.contains, hagree.malformed, ← Table.contains, h.malformed, readings_concat_ne hid,
        declarations_concat_ne hid]

/-- **Every entry of a document is recorded.** -/
theorem records_readAll {start : Program} (hstart : start.Records [] id)
    (hread : readAll fs start = .ok p) : p.Records fs id := by
  induction fs using List.reverseRecOn generalizing p with
  | nil =>
    obtain rfl := Except.ok.inj hread
    exact hstart
  | append_singleton fs f ih =>
    rw [readAll, List.foldlM_append] at hread
    obtain ⟨q, hq, hread⟩ := Result.exists_of_bind_eq_ok hread
    rw [List.foldlM_cons] at hread
    obtain ⟨_, hnext, hread⟩ := Result.exists_of_bind_eq_ok hread
    obtain rfl := Except.ok.inj hread
    exact (ih hq).addRead hnext

theorem exists_readAll {d : Document} (hread : ofDocument d = .ok p)
    (hfs : d.itemsOf "functions" = .ok fs) :
    ∃ globals, readAll fs { empty with globals } = .ok p := by
  rw [ofDocument_eq hfs] at hread
  obtain ⟨_, -, hread⟩ := Result.exists_of_bind_eq_ok hread
  obtain ⟨_, -, hread⟩ := Result.exists_of_bind_eq_ok hread
  exact ⟨_, hread⟩

theorem records_ofDocument {d : Document} (hread : ofDocument d = .ok p)
    (hfs : d.itemsOf "functions" = .ok fs) (id : String) : p.Records fs id := by
  obtain ⟨globals, hread⟩ := exists_readAll hread hfs
  exact records_readAll (records_empty globals id) hread

/-- **No id is both usable and malformed iff each id that is declared several times has an even number of
entries that can be read.**  An id that is declared several times is always malformed, and usable as well
if that number is odd. -/
theorem usable_or_malformed_iff {d : Document} (hread : ofDocument d = .ok p)
    (hfs : d.itemsOf "functions" = .ok fs) :
    ((∀ id, p.functions.contains id = true → p.malformed.contains id = false) ↔
        ∀ id, 2 ≤ (declarations fs id).length → Even (readings fs id).length) ∧
      ∀ id, 2 ≤ (declarations fs id).length → p.malformed.contains id = true ∧
        (p.functions.contains id = false ↔ Even (readings fs id).length) := by
  have hrecords := records_ofDocument hread hfs
  have hseveral : ∀ id, 2 ≤ (declarations fs id).length → p.malformed.contains id = true := fun id h => by
    rw [(hrecords id).malformed]
    omega
  have husable : ∀ id, p.functions.contains id = false ↔ Even (readings fs id).length := fun id => by
    rw [← Nat.not_odd_iff_even, ← (hrecords id).contains_functions, Bool.not_eq_true]
  refine ⟨⟨fun h id hid => ?_, fun h id hid => ?_⟩, fun id hid => ⟨hseveral id hid, husable id⟩⟩
  · rw [← husable id, ← Bool.not_eq_true]
    intro hknown
    exact Bool.false_ne_true ((h id hknown).symm.trans (hseveral id hid))
  · have hodd := (hrecords id).contains_functions.1 hid
    rw [← Bool.not_eq_true, (hrecords id).malformed]
    intro hmalformed
    have hle := length_readings_le fs id
    have hone : 2 ≤ (declarations fs id).length := by
      rw [Nat.odd_iff] at hodd
      omega
    exact Nat.not_even_iff_odd.2 hodd (h id hone)

def returning (id node : String) : Document :=
  .object [("id", .text id), ("nodes", .list [.object [("id", .text node), ("kind", .text "return")]])]

def unreadable (id : String) : Document := .object [("id", .text id), ("nodes", .list [.object []])]

def programOf (fs : List Document) : Document := .object [("globals", .list []), ("functions", .list fs)]

/-- One function declared twice, one once, and one that is declared twice but can be read once. -/
def repeatedFunctions : List Document :=
  [returning "f" "a", returning "g" "a", unreadable "h", returning "f" "b", returning "h" "a"]

theorem usable_or_malformed_repeatedFunctions : ∃ p, ofDocument (programOf repeatedFunctions) = .ok p ∧
    (p.malformed.contains "f" = true ∧ p.functions.contains "f" = false) ∧
    (p.malformed.contains "h" = true ∧ p.functions.contains "h" = true) := by
  obtain ⟨p, hread, -⟩ := Result.exists_ok_of_any (r := ofDocument (programOf repeatedFunctions))
    (p := fun _ => true) (by decide +kernel)
  have hfs : (programOf repeatedFunctions).itemsOf "functions" = .ok repeatedFunctions := rfl
  obtain ⟨-, hseveral⟩ := usable_or_malformed_iff hread hfs
  obtain ⟨hf, hfusable⟩ := hseveral "f" (by decide +kernel)
  obtain ⟨hh, hhusable⟩ := hseveral "h" (by decide +kernel)
  refine ⟨p, hread, ⟨hf, hfusable.2 (by decide +kernel)⟩, hh, ?_⟩
  rw [← Bool.not_eq_false, hhusable]
  decide +kernel

/-- **A function that is declared three times is malformed, and the third of them is usable.** -/
theorem not_usable_or_malformed_thrice : ∃ p,
    ofDocument (programOf [returning "f" "a", returning "f" "b", returning "f" "c"]) = .ok p ∧
      p.malformed.contains "f" = true ∧ p.functions.contains "f" = true := by
  obtain ⟨p, hread, hp⟩ := Result.exists_ok_of_any
    (r := ofDocument (programOf [returning "f" "a", returning "f" "b", returning "f" "c"]))
    (p := fun p => p.malformed.contains "f" && p.functions.contains "f") (by decide +kernel)
  exact ⟨p, hread, Bool.and_eq_true_iff.1 hp⟩

end Program

end TaintFlow
