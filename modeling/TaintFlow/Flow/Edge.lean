import TaintFlow.Collection.OrderedSet
import TaintFlow.Document.Coerce
import TaintFlow.Document.Key

/-!
# Flow edges

A value defined at one key derives from the value defined at another. Edges record the slot that was
read and, for calls and returns, the call at which values cross a function's boundary. They are
ordered by the key they lead to, then by the key they come from.
-/

namespace TaintFlow

inductive EdgeKind where
  /-- From a definition to a use in the same function. -/
  | plain
  /-- From an argument to a parameter of the called function. -/
  | call
  /-- From a definition that reaches the end of the called function to the call. -/
  | ret
  /-- Through code that is not modelled. -/
  | unknown
  /-- From a definition of a global to the global. -/
  | global
  /-- Any other kind, which has a name and no effect on calls. -/
  | other (name : String)
deriving DecidableEq, Repr

namespace EdgeKind

/-- The kinds that analyses record. -/
def all : List EdgeKind := [plain, call, ret, unknown, global]

def name : EdgeKind → String
  | plain => "local"
  | call => "call"
  | ret => "return"
  | unknown => "unknown"
  | global => "global"
  | other name => name

/-- The kind that a name stands for. -/
def ofName (name : String) : EdgeKind := (all.find? (fun k => k.name == name)).getD (.other name)

/-- Tells a recorded kind from another one of the same name. -/
def mark : EdgeKind → String
  | other _ => "1"
  | _ => ""

theorem eq_of_name_eq {a b : EdgeKind} (h : a.name = b.name) (hm : a.mark = b.mark) : a = b := by
  cases a <;> cases b <;> simp_all [name, mark]

end EdgeKind

structure FlowEdge where
  src : String
  dst : String
  kind : EdgeKind
  slot : Option Key
  site : Option String
deriving DecidableEq, Repr

namespace FlowEdge

def isUnknown (e : FlowEdge) : Bool := e.kind = .unknown

/-- The letters of a slot, none for an absent one. -/
def slotLetters (slot : Option Key) : String := (slot.map Key.letters).getD ""

def slotSize (slot : Option Key) : Int := (slot.map Key.size).getD 0

/-- Tells an absent slot and slots of different kinds apart. -/
def slotMark : Option Key → String
  | none => ""
  | some (.text _) => "1"
  | some (.whole _) => "2"
  | some (.fraction _) => "3"
  | some .null => "4"

theorem slot_eq_of_parts {a b : Option Key} (hm : slotMark a = slotMark b)
    (hl : slotLetters a = slotLetters b) (hs : slotSize a = slotSize b) : a = b := by
  rcases a with _ | a <;> rcases b with _ | b
  · rfl
  · cases b <;> simp [slotMark] at hm
  · cases a <;> simp [slotMark] at hm
  · cases a <;> cases b <;>
      simp_all [slotMark, slotLetters, slotSize, Key.letters, Key.size]

/-- The texts by which edges are ordered; the last three only tell apart what the others cannot. -/
def sortKey (e : FlowEdge) : List String :=
  [e.dst, e.src, e.kind.name, slotLetters e.slot, e.site.getD "",
    slotMark e.slot, if e.site.isSome then "1" else "", e.kind.mark]

theorem getD_eq_of_isSome_eq {a b : Option String} (h : a.getD "" = b.getD "")
    (hs : (if a.isSome then "1" else "") = (if b.isSome then "1" else "")) : a = b := by
  cases a <;> cases b <;> simp_all

theorem eq_of_sortKey_eq {a b : FlowEdge} (h : a.sortKey = b.sortKey)
    (hs : slotSize a.slot = slotSize b.slot) : a = b := by
  obtain ⟨asrc, adst, akind, aslot, asite⟩ := a
  obtain ⟨bsrc, bdst, bkind, bslot, bsite⟩ := b
  simp only [sortKey, List.cons.injEq, and_true] at h
  obtain ⟨rfl, rfl, hkind, hslot, hsite, hmark, hsite', hkind'⟩ := h
  rw [EdgeKind.eq_of_name_eq hkind hkind', slot_eq_of_parts hmark hslot hs,
    getD_eq_of_isSome_eq hsite hsite']

/-- What a slot counts as in the order of edges: an absent, empty or zero one as a text. -/
def slotRank : Option Key → Nat
  | some (.whole n) => if n = 0 then 0 else 1
  | some (.fraction _) => 1
  | none | some (.text _) | some .null => 0

/-- Whether two edges that differ in nothing before their slots have slots that can be ordered. -/
def isComparable (a b : FlowEdge) : Bool :=
  a.dst ≠ b.dst || a.src ≠ b.src || a.kind.name ≠ b.kind.name || slotRank a.slot = slotRank b.slot

/-- The edge that two to five members state: where it comes from and leads to, its kind, slot and
site. -/
def ofDocument (d : Document) : Result FlowEdge := do
  let .list (src :: dst :: rest) := d | .error .wrongKind
  if rest.length > 3 || (src :: dst :: rest).any (fun member => member.key?.isNone) then
    .error .wrongKind
  let given (i : Nat) : Option Document := rest[i]?.filter (fun member => !member.isNull)
  return ⟨src.asText, dst.asText, .ofName ((rest[0]?.map Document.asText).getD EdgeKind.plain.name),
    (given 1).bind Document.key?, (given 2).map Document.asText⟩

instance : Ord FlowEdge := ⟨compareLex (compareOn sortKey) (compareOn (fun e => slotSize e.slot))⟩

instance : Std.TransOrd FlowEdge :=
  inferInstanceAs (Std.TransCmp (compareLex (compareOn sortKey)
    (compareOn (fun e => slotSize e.slot))))

instance : Std.LawfulEqOrd FlowEdge where
  eq_of_compare {a b} h := by
    have h : compareLex (compareOn sortKey) (compareOn (fun e => slotSize e.slot)) a b = .eq := h
    simp only [compareLex, compareOn, Ordering.then_eq_eq] at h
    exact eq_of_sortKey_eq (Std.LawfulEqOrd.eq_of_compare h.1) (Std.LawfulEqOrd.eq_of_compare h.2)
  compare_self := Std.ReflOrd.compare_self

end FlowEdge

end TaintFlow
