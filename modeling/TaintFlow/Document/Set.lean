import TaintFlow.Document.Key
import TaintFlow.Number.Amount

/-!
# Sets of documents

Documents that are found by their keys. Of several documents with one key the first is kept, in the
notation in which it was given. Texts can be put in order among themselves and so can numbers; the
two cannot be mixed.
-/

namespace TaintFlow

structure DocumentSet where
  entries : List (Key × Document)

namespace DocumentSet

def keys (s : DocumentSet) : List Key := s.entries.map Prod.fst

def size (s : DocumentSet) : Nat := s.entries.length

def isEmpty (s : DocumentSet) : Bool := s.entries.isEmpty

/-- Adds a document, unless its key is there already. -/
def insert (s : DocumentSet) (key : Key) (d : Document) : DocumentSet :=
  if key ∈ s.keys then s else ⟨s.entries ++ [(key, d)]⟩

/-- The set of some documents; lists and objects cannot be members. -/
def ofList (ds : List Document) : Result DocumentSet :=
  ds.foldlM (fun s d =>
    match d.key? with
    | some key => .ok (s.insert key d)
    | none => .error .wrongKind) ⟨[]⟩

def diff (s t : DocumentSet) : DocumentSet := ⟨s.entries.filter (fun entry => entry.1 ∉ t.keys)⟩

/-- Whether a document comes before another one of its kind. -/
def isBefore : Document → Document → Bool
  | .text a, .text b => compare a b = .lt
  | a, b =>
    match a.amount?, b.amount? with
    | some x, some y => x.isBelow y
    | _, _ => false

/-- The members in increasing order. -/
def sorted (s : DocumentSet) : Result (List Document) :=
  if Key.areOrdered s.keys then
    .ok ((s.entries.map Prod.snd).mergeSort (fun a b => !isBefore b a))
  else .error .wrongKind

/-- The members in increasing order, all of which have to be texts. -/
def names (s : DocumentSet) : Result (List String) := do
  (← s.sorted).mapM (fun d => match d with
    | .text name => .ok name
    | _ => .error .wrongKind)

theorem distinct_insert {s : DocumentSet} (h : s.keys.Nodup) (key : Key) (d : Document) :
    (s.insert key d).keys.Nodup := by
  rw [insert]
  split
  · exact h
  · next hkey =>
    simp only [keys, List.map_append, List.map_cons, List.map_nil] at hkey ⊢
    refine List.nodup_append.2 ⟨h, by simp, fun a ha b hb => ?_⟩
    rw [List.mem_singleton.1 hb]
    exact fun he => hkey (he ▸ ha)

end DocumentSet

end TaintFlow
