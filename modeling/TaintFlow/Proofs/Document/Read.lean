import TaintFlow.Proofs.Collection
import TaintFlow.Proofs.Document.Joined

/-!
# Documents that are read

Of two fields with one name the reader keeps one, so no object of a document that is read has two
(`distinct_of_read`).  It makes one character of the two units of a pair, so every text that is read is joined
(`isJoined_of_read`): where it leaves the first unit of a pair alone, the second one does not come next
(`startsLow`).  A text that denotes no document is told apart from one that is too large to be read: only a
whole number with too many digits and parts that are nested too deep are faults of their own
(`oversized_of_read`).
-/

namespace TaintFlow

namespace Document

/-- **No object in the document has two fields of one name.** -/
inductive Distinct : Document → Prop
  | null : Document.null.Distinct
  | bool (value : Bool) : (Document.bool value).Distinct
  | whole (value : Int) : (Document.whole value).Distinct
  | real (value : Float) : (Document.real value).Distinct
  | text (value : String) : (Document.text value).Distinct
  | list {items : List Document} (h : ∀ item ∈ items, item.Distinct) : (Document.list items).Distinct
  | object {fields : List (String × Document)} (hnodup : (fields.map Prod.fst).Nodup)
    (h : ∀ field ∈ fields, field.2.Distinct) : (Document.object fields).Distinct

theorem Distinct.nodup {fields : List (String × Document)} (h : (Document.object fields).Distinct) :
    (fields.map Prod.fst).Nodup := by
  cases h with
  | object hnodup _ => exact hnodup

theorem Distinct.field {fields : List (String × Document)} (h : (Document.object fields).Distinct) :
    ∀ field ∈ fields, field.2.Distinct := by
  cases h with
  | object _ h => exact h

/-- What holds of every document that is read. -/
structure Readable (d : Document) : Prop where
  distinct : d.Distinct
  joined : d.isJoined = true

theorem readable_list {items : List Document} (h : ∀ item ∈ items, item.Readable) : (list items).Readable :=
  ⟨.list fun item hitem => (h item hitem).distinct,
    isJoined_list_iff.2 fun item hitem => (h item hitem).joined⟩

theorem readable_object {fields : List (String × Document)} (hnodup : (fields.map Prod.fst).Nodup)
    (h : ∀ field ∈ fields, Text.isJoined field.1 = true ∧ field.2.Readable) : (object fields).Readable :=
  ⟨.object hnodup fun field hfield => (h field hfield).2.distinct,
    isJoined_object_iff.2 fun field hfield => ⟨(h field hfield).1, (h field hfield).2.joined⟩⟩

end Document

/-- **A document is too large to be read:** it has a number with too many digits, or its parts are nested too
deep. -/
def Fault.Oversized (f : Fault) : Prop :=
  (∃ digits, digitLimit < digits ∧ f = .invalid (.tooManyDigits digits)) ∨ ∃ part, f = .tooDeep part

namespace Document.Reader

variable {α β : Type}

/-- What is read has a property, or something else is expected, or the document is too large. -/
def Reads (post : α → Prop) : Reading α → Prop
  | .ok a => post a
  | .error (.expected _ _) => True
  | .error (.fault f) => f.Oversized

variable {post : α → Prop} {post' : β → Prop}

theorem Reads.bind {x : Reading α} {f : α → Reading β} (hx : Reads post x)
    (hf : ∀ a, post a → Reads post' (f a)) : Reads post' (x >>= f) := by
  cases x with
  | ok a => exact hf a hx
  | error stop =>
    cases stop with
    | expected what left => trivial
    | fault f => exact hx

/-! ### Texts -/

/-- The text goes on with an escaped second unit of a pair. -/
def startsLow : Chars → Bool
  | '\\' :: 'u' :: rest => (unit? rest).any fun found => Text.isLow found.1
  | _ => false

/-- A code point that is read before the rest of a text: the second unit of a pair only where it is escaped,
and the first one only where the second one does not come next. -/
structure Point (cs : Chars) (point : Nat) (rest : Chars) : Prop where
  lt : point < 0x110000
  low : Text.isLow point = true → startsLow cs = true
  high : Text.isHigh point = true → startsLow rest = false

theorem point_of_lt {cs rest : Chars} {point : Nat} (h : point < 0xd800) : Point cs point rest :=
  ⟨by omega, fun hlow => by rw [Text.isLow_iff] at hlow; omega,
    fun hhigh => by rw [Text.isHigh_iff] at hhigh; omega⟩

theorem hexValue?_lt {c : Char} {n : Nat} (h : hexValue? c = some n) : n < 16 := by
  have hle : ∀ {a b : Char}, a ≤ b → a.toNat ≤ b.toNat := fun h => h
  unfold hexValue? at h
  split at h
  · next hc =>
    have hhigh : c.toNat ≤ 57 := hle hc.2
    obtain rfl := Option.some.inj h
    omega
  split at h
  · next hc =>
    have hhigh : c.toNat ≤ 102 := hle hc.2
    obtain rfl := Option.some.inj h
    omega
  split at h
  · next hc =>
    have hhigh : c.toNat ≤ 70 := hle hc.2
    obtain rfl := Option.some.inj h
    omega
  · cases h

theorem unit?_lt {cs rest : Chars} {n : Nat} (h : unit? cs = some (n, rest)) : n < 0x10000 := by
  unfold unit? at h
  split at h
  · obtain ⟨a, ha, h⟩ := Option.bind_eq_some_iff.1 h
    obtain ⟨b, hb, h⟩ := Option.bind_eq_some_iff.1 h
    obtain ⟨c, hc, h⟩ := Option.bind_eq_some_iff.1 h
    obtain ⟨d, hd, h⟩ := Option.bind_eq_some_iff.1 h
    obtain ⟨rfl, -⟩ := Prod.mk.inj (Option.some.inj h)
    have ha := hexValue?_lt ha
    have hb := hexValue?_lt hb
    have hc := hexValue?_lt hc
    have hd := hexValue?_lt hd
    omega
  · cases h

theorem point_of_escapedUnit? {cs rest : Chars} {point : Nat} (h : escapedUnit? cs = some (point, rest)) :
    Point ('\\' :: 'u' :: cs) point rest := by
  unfold escapedUnit? at h
  obtain ⟨⟨first, more⟩, hfirst, h⟩ := Option.bind_eq_some_iff.1 h
  have hlt := unit?_lt hfirst
  have hlow : Text.isLow first = true → startsLow ('\\' :: 'u' :: cs) = true := fun hlow => by
    rw [startsLow, hfirst, Option.any_some, hlow]
  dsimp only at h
  split at h
  · next hhigh =>
    have hnot : ¬ Text.isLow first = true := by
      rw [Text.isHigh_iff] at hhigh
      rw [Text.isLow_iff]
      omega
    split at h
    · next next =>
      split at h
      · next second rest' hsecond =>
        split at h
        · next hsecondLow =>
          obtain ⟨rfl, rfl⟩ := Prod.mk.inj (Option.some.inj h)
          rw [Text.isHigh_iff] at hhigh
          rw [Text.isLow_iff] at hsecondLow
          have hplane : 0x10000 ≤ Text.pair first second ∧ Text.pair first second < 0x110000 := by
            unfold Text.pair
            omega
          exact ⟨hplane.2, fun hlow => by rw [Text.isLow_iff] at hlow; omega,
            fun hhigh => by rw [Text.isHigh_iff] at hhigh; omega⟩
        · next hsecondLow =>
          obtain ⟨rfl, rfl⟩ := Prod.mk.inj (Option.some.inj h)
          refine ⟨by omega, hlow, fun _ => ?_⟩
          rw [startsLow, hsecond, Option.any_some, Bool.eq_false_iff]
          exact hsecondLow
      · next hsecond =>
        obtain ⟨rfl, rfl⟩ := Prod.mk.inj (Option.some.inj h)
        exact ⟨by omega, hlow, fun _ => by rw [startsLow, hsecond, Option.any_none]⟩
    · next hnext =>
      obtain ⟨rfl, rfl⟩ := Prod.mk.inj (Option.some.inj h)
      refine ⟨by omega, hlow, fun _ => ?_⟩
      unfold startsLow
      split
      · exact (hnext _ rfl).elim
      · rfl
  · next hhigh =>
    obtain ⟨rfl, rfl⟩ := Prod.mk.inj (Option.some.inj h)
    exact ⟨by omega, hlow, fun h => absurd h hhigh⟩

theorem reads_escaped (cs : Chars) : Reads (fun found => Point ('\\' :: cs) found.1 found.2) (escaped cs) := by
  have hshort : ∀ {cs rest : Chars} {point : Nat}, point < 0xd800 →
      Reads (fun found => Point ('\\' :: cs) found.1 found.2) (.ok (point, rest)) := point_of_lt
  unfold escaped
  split
  case h_1 | h_2 | h_3 | h_4 | h_5 | h_6 | h_7 | h_8 => exact hshort (by decide)
  case h_9 =>
    split
    · trivial
    · trivial
    · next hfound => exact point_of_escapedUnit? hfound
  case h_10 => trivial

/-- The code points that were read, last first, are joined and stay so with the next one. -/
structure Joins (back : List Nat) (cs : Chars) : Prop where
  lt : ∀ p ∈ back, p < 0x110000
  unpaired : Text.Unpaired back.reverse
  next : ∀ p ∈ back.head?, Text.isHigh p = true → startsLow cs = false

theorem joins_nil (cs : Chars) : Joins [] cs := ⟨List.forall_mem_nil _, List.isChain_nil, nofun⟩

theorem Joins.cons {back : List Nat} {cs rest : Chars} {point : Nat} (h : Joins back cs)
    (hpoint : Point cs point rest) : Joins (point :: back) rest := by
  refine ⟨List.forall_mem_cons.2 ⟨hpoint.lt, h.lt⟩, ?_, fun p hp => Option.some.inj hp ▸ hpoint.high⟩
  rw [Text.Unpaired, List.reverse_cons, List.isChain_append]
  refine ⟨h.unpaired, List.isChain_singleton _, fun p hp q hq => ?_⟩
  rw [List.getLast?_reverse] at hp
  obtain rfl := Option.some.inj hq
  rw [← Bool.not_eq_true, Bool.and_eq_true]
  rintro ⟨hhigh, hlow⟩
  have hstarts := hpoint.low hlow
  rw [h.next p hp hhigh] at hstarts
  cases hstarts

theorem Joins.isJoined {back : List Nat} {cs : Chars} (h : Joins back cs) :
    Text.isJoined (Text.ofPoints back.reverse) = true := by
  rw [Text.isJoined_iff, Text.points_ofPoints fun p hp => h.lt p (List.mem_reverse.1 hp)]
  exact h.unpaired

theorem point_of_char (c : Char) (rest : Chars) : Point (c :: rest) c.toNat rest := by
  have hrange := Text.toNat_cases c
  exact ⟨by omega, fun hlow => by rw [Text.isLow_iff] at hlow; omega,
    fun hhigh => by rw [Text.isHigh_iff] at hhigh; omega⟩

/-- **A text that is read is joined.** -/
theorem reads_stringBody (opened : Chars) (fuel : Nat) {back : List Nat} {cs : Chars} (h : Joins back cs) :
    Reads (fun found => Text.isJoined found.1 = true) (stringBody opened fuel back cs) := by
  induction fuel generalizing back cs with
  | zero => trivial
  | succ fuel ih =>
    unfold stringBody
    split
    · trivial
    · trivial
    · exact h.isJoined
    · exact (reads_escaped _).bind fun _ hpoint => ih (h.cons hpoint)
    · split
      · trivial
      · exact ih (h.cons (point_of_char _ _))

/-! ### Documents -/

theorem reads_number (cs : Chars) : Reads (fun found => found.1.Readable) (number cs) := by
  unfold number
  dsimp only
  split
  · exact ⟨.real _, rfl⟩
  · trivial
  · split
    · split
      · next hdigits => exact Or.inl ⟨_, hdigits, rfl⟩
      · exact ⟨.whole _, rfl⟩
    · exact ⟨.real _, rfl⟩

theorem reads_word (cs : Chars) : Reads (fun found => found.1.Readable) (word cs) := by
  have hwords : ∀ entry ∈ words, entry.2.Readable := by
    have hnan : (((realOfText? "nan").map Document.real).getD .null).Readable := by
      cases realOfText? "nan" with
      | none => exact ⟨.null, rfl⟩
      | some x => exact ⟨.real x, rfl⟩
    simp only [words, List.forall_mem_cons]
    exact ⟨⟨.null, rfl⟩, ⟨.bool true, rfl⟩, ⟨.bool false, rfl⟩, hnan, nofun⟩
  unfold word
  split
  · next found hfound =>
    obtain ⟨⟨w, d⟩, hmem, hfound⟩ := List.exists_of_findSome?_eq_some hfound
    obtain ⟨rest, -, rfl⟩ := Option.map_eq_some_iff.1 hfound
    exact hwords _ hmem
  · exact reads_number cs

theorem forall_entries_set {p : String → Document → Prop} {t : Table Document}
    (h : ∀ field ∈ t.entries, p field.1 field.2) {name : String} {value : Document} (hvalue : p name value) :
    ∀ field ∈ (t.set name value).entries, p field.1 field.2 := by
  rintro ⟨other, found⟩ hfound
  rw [Table.mem_entries_iff, Table.get?_set] at hfound
  split at hfound
  · next he => exact he ▸ Option.some.inj hfound ▸ hvalue
  · exact h _ (Table.mem_entries_iff.2 hfound)

/-- One round of the reader: what holds of the parts holds of a document, of items and of fields. -/
theorem reads_all (fuel : Nat) :
    (∀ depth cs, Reads (fun found => found.1.Readable) (value fuel depth cs)) ∧
      (∀ depth cs, Reads (fun found => ∀ item ∈ found.1, item.Readable) (items fuel depth cs)) ∧
      ∀ depth (before : Table Document) cs,
        (∀ field ∈ before.entries, Text.isJoined field.1 = true ∧ field.2.Readable) →
        Reads (fun found => ∀ field ∈ found.1.entries, Text.isJoined field.1 = true ∧ field.2.Readable)
          (fields fuel depth before cs) := by
  induction fuel with
  | zero => exact ⟨fun _ _ => trivial, fun _ _ => trivial, fun _ _ _ _ => trivial⟩
  | succ fuel ih =>
    obtain ⟨hvalue, hitems, hfields⟩ := ih
    refine ⟨fun depth cs => ?_, fun depth cs => ?_, fun depth before cs hbefore => ?_⟩
    · unfold value
      split
      · trivial
      · exact (reads_stringBody _ _ (joins_nil _)).bind fun found hjoined => ⟨.text found.1, hjoined⟩
      · exact Or.inr ⟨_, rfl⟩
      · exact Or.inr ⟨_, rfl⟩
      · split
        · exact readable_list (List.forall_mem_nil _)
        · exact (hitems _ _).bind fun _ h => readable_list h
      · split
        · exact readable_object .nil (List.forall_mem_nil _)
        · exact (hfields _ _ _ fun _ hfield => absurd hfield List.not_mem_nil).bind fun found h =>
            readable_object found.1.distinct h
      · exact reads_word _
    · unfold items
      refine (hvalue depth cs).bind ?_
      rintro ⟨found, rest⟩ hfound
      dsimp only
      split
      · exact List.forall_mem_singleton.2 hfound
      · exact (hitems _ _).bind fun _ h => List.forall_mem_cons.2 ⟨hfound, h⟩
      · trivial
    · unfold fields
      split
      · refine (reads_stringBody _ _ (joins_nil _)).bind ?_
        rintro ⟨name, rest⟩ hname
        dsimp only
        split
        · refine (hvalue depth _).bind ?_
          rintro ⟨found, rest⟩ hfound
          have hall := forall_entries_set hbefore (p := fun name value => Text.isJoined name = true ∧ value.Readable)
            ⟨hname, hfound⟩
          dsimp only
          split
          · exact hall
          · exact hfields _ _ _ hall
          · trivial
        · trivial
      · trivial

theorem reads_whole (cs : Chars) : Reads Readable (whole cs) := by
  unfold whole
  split
  · trivial
  · refine ((reads_all _).1 _ _).bind ?_
    rintro ⟨found, rest⟩ hfound
    dsimp only
    split
    · exact hfound
    · trivial

end Document.Reader

namespace Document

open Reader (Reads reads_whole)

theorem readable_of_read {s : String} {d : Document} (h : read s = .ok d) : d.Readable := by
  have hreads := reads_whole s.toList
  unfold read at h
  dsimp only at h
  split at h
  · next he =>
    rw [he] at hreads
    cases h
    exact hreads
  · cases h
  · cases h

/-- **No object of a document that is read has two fields of one name.** -/
theorem distinct_of_read {s : String} {d : Document} (h : read s = .ok d) : d.Distinct :=
  (readable_of_read h).distinct

/-- **No text of a document that is read has the units of a pair as code points of their own.** -/
theorem isJoined_of_read {s : String} {d : Document} (h : read s = .ok d) : d.isJoined = true :=
  (readable_of_read h).joined

/-- **A text that is not read denotes no document, or one that is too large.** -/
theorem oversized_of_read {s : String} {f : Fault} (h : read s = .error f) :
    (∃ why, f = .unreadable why) ∨ f.Oversized := by
  have hreads := reads_whole s.toList
  unfold read at h
  dsimp only at h
  split at h
  · cases h
  · next he =>
    rw [he] at hreads
    cases h
    exact Or.inr hreads
  · cases h
    exact Or.inl ⟨_, rfl⟩

end Document

end TaintFlow
