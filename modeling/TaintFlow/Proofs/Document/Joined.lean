import TaintFlow.Document.Coerce
import TaintFlow.Proofs.Document.Written

/-!
# Documents with joined texts

What holds of a text holds of a document with all its texts and names: it can be joined (`joined`), and it is
joined if each of them is (`isJoined`, `joined_eq_self`).  The notation of any value is plain
(`plain_shown`), so what is read out of a joined document as a text is joined (`isJoined_asText`).
-/

namespace TaintFlow

namespace Text

/-! ### Plain texts -/

theorem plain_append {s t : String} (hs : Plain s) (ht : Plain t) : Plain (s ++ t) := by
  rw [Plain, String.toList_append, List.mem_append]
  exact not_or.2 ⟨hs, ht⟩

theorem plain_joinWith {separator : String} {parts : List String} (hseparator : Plain separator)
    (h : ∀ part ∈ parts, Plain part) : Plain (joinWith separator parts) := by
  rw [Plain, joinWith, String.toList_intercalate]
  induction parts with
  | nil => exact List.not_mem_nil
  | cons part rest ih =>
    obtain ⟨hpart, hrest⟩ := List.forall_mem_cons.1 h
    cases rest with
    | nil => simpa [Plain] using hpart
    | cons next rest =>
      rw [List.map_cons, List.map_cons, List.intercalate_cons_cons, List.mem_append, List.mem_append]
      exact not_or.2 ⟨not_or.2 ⟨hpart, hseparator⟩, ih hrest⟩

theorem hexDigit_ne_mark (n : Nat) : hexDigit (n % 16) ≠ mark := by
  have hall : ∀ n < 16, hexDigit n ≠ mark := by decide
  exact hall _ (Nat.mod_lt n (by decide))

theorem mark_notMem_hexDigits (width n : Nat) : mark ∉ hexDigits width n := by
  induction width generalizing n with
  | zero => exact List.not_mem_nil
  | succ width ih =>
    rw [hexDigits, List.mem_append, List.mem_singleton]
    exact not_or.2 ⟨ih _, (hexDigit_ne_mark n).symm⟩

theorem isPrintable_mark : isPrintable mark = false := by
  rw [isPrintable, inRanges, ← Array.any_toList]
  decide +kernel

/-- A mark is not shown as itself. -/
theorem mark_notMem_quotePoint {quote : Char} (hquote : quote ≠ mark) (point : Nat) :
    mark ∉ quotePoint quote point := by
  have hhex : ∀ width n, mark ∉ hexDigits width n := mark_notMem_hexDigits
  have hslash : mark ≠ '\\' := by decide
  have hletters : mark ≠ 't' ∧ mark ≠ 'n' ∧ mark ≠ 'r' ∧ mark ≠ 'x' ∧ mark ≠ 'u' ∧ mark ≠ 'U' := by decide
  unfold quotePoint quoteChar
  split
  · simp [hhex, hslash, hletters]
  · generalize Char.ofNat point = c
    split
    · next hescaped =>
      have hc : mark ≠ c := by
        rintro rfl
        simp [hquote.symm, hslash] at hescaped
      simp [hslash, hc]
    split
    · simp [hslash, hletters]
    split
    · simp [hslash, hletters]
    split
    · simp [hslash, hletters]
    split
    · next hc =>
      rw [List.mem_singleton]
      rintro rfl
      rw [isPrintable_mark] at hc
      cases hc
    split
    · simp [hslash, hletters, hhex]
    split <;> simp [hslash, hletters, hhex]

theorem plain_quoted (s : String) : Plain (quoted s) := by
  have hquote : quoteFor s.toList ≠ mark := by
    unfold quoteFor
    split <;> decide
  have hmem : mark ∉ (points s).flatMap (quotePoint (quoteFor s.toList)) := by
    rw [List.mem_flatMap]
    rintro ⟨point, -, hpoint⟩
    exact mark_notMem_quotePoint hquote point hpoint
  rw [Plain, quoted, String.toList_ofList]
  simp [hmem, hquote.symm]

theorem plain_of_isDigit {cs : List Char} (h : ∀ c ∈ cs, c.isDigit = true) : mark ∉ cs := by
  intro hmem
  have hdigit := h mark hmem
  cases hdigit

theorem plain_whole (n : Int) : Plain (toString n) := by
  have hdigits : mark ∉ Nat.toDigits 10 n.natAbs := plain_of_isDigit fun _ => isDigit_of_mem_toDigits
  rw [Plain, Document.toList_whole]
  split
  · rw [List.mem_cons]
    exact not_or.2 ⟨by decide, hdigits⟩
  · exact hdigits

theorem mark_notMem_zeros (n : Nat) : mark ∉ RealFormat.zeros n :=
  fun h => absurd (List.eq_of_mem_replicate h) (by decide)

theorem mark_notMem_layout (format : RealFormat) {digits : List Char} (h : mark ∉ digits) (k : Int) :
    mark ∉ format.layout digits k := by
  have hzeros : ∀ n, mark ∉ RealFormat.zeros n := mark_notMem_zeros
  have hsigns : mark ≠ '0' ∧ mark ≠ '.' ∧ mark ≠ 'e' ∧ mark ≠ '+' ∧ mark ≠ '-' := by decide
  have hsize : ∀ n : Nat, mark ∉ (toString n).toList := fun n =>
    plain_of_isDigit fun c hc => isDigit_of_mem_toDigits (by simpa using hc)
  have htake : ∀ n, mark ∉ digits.take n := fun n hn => h (List.mem_of_mem_take hn)
  have hdrop : ∀ n, mark ∉ digits.drop n := fun n hn => h (List.mem_of_mem_drop hn)
  unfold RealFormat.layout
  split
  · split
    · simp [hsigns, hzeros, h]
    split
    · simp [hsigns, hzeros, h]
    · simp [hsigns, htake, hdrop]
  · dsimp only
    rw [List.mem_append, List.mem_cons, List.mem_cons, List.mem_append]
    refine not_or.2 ⟨?mantissa, not_or.2 ⟨hsigns.2.2.1, not_or.2 ⟨?sign, not_or.2 ⟨hzeros _, hsize _⟩⟩⟩⟩
    case mantissa =>
      split
      · simp [hsigns]
      · exact h
      · simpa [hsigns] using h
    case sign =>
      split
      · exact hsigns.2.2.2.2
      · exact hsigns.2.2.2.1

theorem plain_real (x : Float) : Plain (RealFormat.plain.write x) := by
  have hdigits : ∀ n : Nat, mark ∉ (Shortest.dropZeros (toString n).toList).1 := by
    intro n
    refine plain_of_isDigit fun c hc => ?_
    rw [Shortest.dropZeros, List.mem_reverse] at hc
    have hmem := List.mem_reverse.1 ((List.dropWhile_sublist _).mem hc)
    exact isDigit_of_mem_toDigits (by simpa using hmem)
  unfold RealFormat.write
  split
  · decide
  · split <;> decide
  · next negative m q _ =>
    have hsize : mark ∉ RealFormat.plain.writeMagnitude m q := by
      unfold RealFormat.writeMagnitude
      split
      · decide
      · exact mark_notMem_layout _ (hdigits _) _
    rw [Plain, String.toList_ofList, List.mem_append]
    refine not_or.2 ⟨?_, hsize⟩
    split <;> decide

end Text

namespace Document

/-! ### Joined documents -/

mutual

def joined : Document → Document
  | .text s => .text (Text.joined s)
  | .list items => .list (joinedItems items)
  | .object fields => .object (joinedFields fields)
  | d => d

def joinedItems : List Document → List Document
  | [] => []
  | item :: rest => item.joined :: joinedItems rest

def joinedFields : List (String × Document) → List (String × Document)
  | [] => []
  | (name, value) :: rest => (Text.joined name, value.joined) :: joinedFields rest

end

mutual

/-- **Every text and every name in the document is joined.** -/
def isJoined : Document → Bool
  | .text s => Text.isJoined s
  | .list items => allJoined items
  | .object fields => allFieldsJoined fields
  | _ => true

def allJoined : List Document → Bool
  | [] => true
  | item :: rest => item.isJoined && allJoined rest

def allFieldsJoined : List (String × Document) → Bool
  | [] => true
  | (name, value) :: rest => Text.isJoined name && value.isJoined && allFieldsJoined rest

end

theorem joined_list (items : List Document) : (list items).joined = .list (items.map joined) := by
  rw [joined]
  induction items with
  | nil => rfl
  | cons item rest ih => rw [joinedItems, List.map_cons, ← Document.list.inj ih]

theorem joined_object (fields : List (String × Document)) : (object fields).joined =
    .object (fields.map fun field => (Text.joined field.1, field.2.joined)) := by
  rw [joined]
  induction fields with
  | nil => rfl
  | cons field rest ih => rw [joinedFields, List.map_cons, ← Document.object.inj ih]

theorem isJoined_list_iff {items : List Document} :
    (list items).isJoined = true ↔ ∀ item ∈ items, item.isJoined = true := by
  rw [isJoined]
  induction items with
  | nil => exact iff_of_true rfl nofun
  | cons item rest ih => rw [allJoined, Bool.and_eq_true, ih, List.forall_mem_cons]

theorem isJoined_object_iff {fields : List (String × Document)} : (object fields).isJoined = true ↔
    ∀ field ∈ fields, Text.isJoined field.1 = true ∧ field.2.isJoined = true := by
  rw [isJoined]
  induction fields with
  | nil => exact iff_of_true rfl nofun
  | cons field rest ih => rw [allFieldsJoined, Bool.and_eq_true, Bool.and_eq_true, ih, List.forall_mem_cons]

mutual

/-- **Joining changes nothing in a joined document.** -/
theorem joined_eq_self : ∀ {d : Document}, d.isJoined = true → d.joined = d
  | .null, _ => rfl
  | .bool _, _ => rfl
  | .whole _, _ => rfl
  | .real _, _ => rfl
  | .text _, h => congrArg text (Text.joined_eq_self h)
  | .list _, h => congrArg list (joinedItems_eq_self h)
  | .object _, h => congrArg object (joinedFields_eq_self h)

theorem joinedItems_eq_self : ∀ {items : List Document}, allJoined items = true → joinedItems items = items
  | [], _ => rfl
  | item :: rest, h => by
    rw [allJoined, Bool.and_eq_true] at h
    rw [joinedItems, joined_eq_self h.1, joinedItems_eq_self h.2]

theorem joinedFields_eq_self : ∀ {fields : List (String × Document)}, allFieldsJoined fields = true →
    joinedFields fields = fields
  | [], _ => rfl
  | (name, value) :: rest, h => by
    rw [allFieldsJoined, Bool.and_eq_true, Bool.and_eq_true] at h
    rw [joinedFields, Text.joined_eq_self h.1.1, joined_eq_self h.1.2, joinedFields_eq_self h.2]

end

/-! ### Reading out of joined documents -/

mutual

theorem plain_shown : ∀ d : Document, Text.Plain d.shown
  | .null => by decide
  | .bool value => by cases value <;> decide
  | .whole n => Text.plain_whole n
  | .real x => Text.plain_real x
  | .text s => Text.plain_quoted s
  | .list items => by
    rw [shown]
    exact Text.plain_append (Text.plain_append (by decide)
      (Text.plain_joinWith (by decide) (plain_shownItems items))) (by decide)
  | .object fields => by
    rw [shown]
    exact Text.plain_append (Text.plain_append (by decide)
      (Text.plain_joinWith (by decide) (plain_shownFields fields))) (by decide)

theorem plain_shownItems : ∀ items : List Document, ∀ part ∈ shownItems items, Text.Plain part
  | [] => List.forall_mem_nil _
  | item :: rest => List.forall_mem_cons.2 ⟨plain_shown item, plain_shownItems rest⟩

theorem plain_shownFields : ∀ fields : List (String × Document), ∀ part ∈ shownFields fields, Text.Plain part
  | [] => List.forall_mem_nil _
  | (name, value) :: rest =>
    List.forall_mem_cons.2 ⟨Text.plain_append (Text.plain_append (Text.plain_quoted name) (by decide))
      (plain_shown value), plain_shownFields rest⟩

end

variable {d : Document}

theorem isJoined_asText (h : d.isJoined = true) : Text.isJoined d.asText = true := by
  cases d with
  | text s => exact h
  | _ => exact Text.isJoined_of_plain (plain_shown _)

theorem isJoined_field {name : String} {value : Document} (h : d.isJoined = true)
    (hvalue : d.field? name = some value) : value.isJoined = true := by
  cases d with
  | object fields =>
    obtain ⟨before, after, hfields, -⟩ := List.lookup_eq_some_iff.1 hvalue
    exact (isJoined_object_iff.1 h (name, value) (by simp [hfields])).2
  | _ => cases hvalue

theorem isJoined_getD {name : String} {default : Document} (h : d.isJoined = true)
    (hdefault : default.isJoined = true) : ((d.field? name).getD default).isJoined = true := by
  cases hfield : d.field? name with
  | none => exact hdefault
  | some value => exact isJoined_field h hfield

theorem isJoined_members {items : List Document} (h : d.isJoined = true) (hitems : d.members = .ok items) :
    ∀ item ∈ items, item.isJoined = true := by
  cases d with
  | text s =>
    obtain rfl := Except.ok.inj hitems
    intro item hitem
    obtain ⟨point, hpoint, rfl⟩ := List.mem_map.1 hitem
    refine Text.isJoined_iff.2 ?_
    rw [Text.points_ofPoints (List.forall_mem_singleton.2 (Text.lt_of_mem_points hpoint))]
    exact List.isChain_singleton _
  | list items' =>
    obtain rfl := Except.ok.inj hitems
    exact isJoined_list_iff.1 h
  | object fields =>
    obtain rfl := Except.ok.inj hitems
    intro item hitem
    obtain ⟨field, hfield, rfl⟩ := List.mem_map.1 hitem
    exact (isJoined_object_iff.1 h field hfield).1
  | _ => cases hitems

end Document

end TaintFlow
