import Mathlib.Data.List.Nodup
import Mathlib.Data.List.Perm.Subperm
import TaintFlow.Proofs.Document.Joined
import TaintFlow.Proofs.Program.Identity

/-!
# Canonical texts

A document is told from the front of its canonical text, up to the order of fields and to pairs that are not
joined: the first character tells what kind it is, texts and numbers tell where they end, and the parts of a
list or an object are told one by one, each with the separator that follows it (`Proper.told`).  So documents
have one canonical text exactly when their normal forms are the same with the pairs in them joined
(`Proper.canonical_eq_iff_joined`), and joined ones exactly when they have one normal form
(`Proper.canonical_eq_iff_normal`).  Documents that are equal but for the order of fields have one normal form
(`Proper.normal_eq_of_agrees`).

Real numbers are left out, as no two of them are known to be written apart.
-/

namespace TaintFlow

namespace Document

/-- **Documents that are told from their texts, but for the texts in them:** there is no real number, and no
object has two fields of one name. -/
inductive Proper : Document → Prop
  | null : Document.null.Proper
  | bool (value : Bool) : (Document.bool value).Proper
  | whole (value : Int) : (Document.whole value).Proper
  | text (value : String) : (Document.text value).Proper
  | list {items : List Document} (h : ∀ item ∈ items, item.Proper) : (Document.list items).Proper
  | object {fields : List (String × Document)} (hnodup : (fields.map Prod.fst).Nodup)
    (h : ∀ field ∈ fields, field.2.Proper) : (Document.object fields).Proper

/-! ### Canonical texts of lists and objects -/

theorem writeItems_eq (layout : Layout) (items : List Document) :
    writeItems layout items = items.map (write layout) := by
  induction items with
  | nil => rw [writeItems, List.map_nil]
  | cons item rest ih => rw [writeItems, ih, List.map_cons]

theorem writeFields_eq (layout : Layout) (fields : List (String × Document)) :
    writeFields layout fields = fields.map fun field => (field.1, field.2.write layout) := by
  induction fields with
  | nil => rw [writeFields, List.map_nil]
  | cons field rest ih => rw [writeFields, ih, List.map_cons]

theorem sortFields_map {α β : Type} (f : α → β) (fields : List (String × α)) :
    sortFields (fields.map fun field => (field.1, f field.2)) =
      (sortFields fields).map fun field => (field.1, f field.2) := by
  unfold sortFields
  rw [List.map_mergeSort]
  exact fun _ _ _ _ => rfl

theorem pairwise_sortFields {α : Type} (fields : List (String × α)) :
    (sortFields fields).Pairwise fun a b => (compare (Text.points a.1) (Text.points b.1)).isLE = true := by
  have htrans : ∀ a b c : String × α, (compare (Text.points a.1) (Text.points b.1)).isLE = true →
      (compare (Text.points b.1) (Text.points c.1)).isLE = true →
      (compare (Text.points a.1) (Text.points c.1)).isLE = true := fun a b c => Std.TransCmp.isLE_trans
  have htotal : ∀ a b : String × α, ((compare (Text.points a.1) (Text.points b.1)).isLE ||
      (compare (Text.points b.1) (Text.points a.1)).isLE) = true := by
    intro a b
    have hswap : compare (Text.points b.1) (Text.points a.1) =
        (compare (Text.points a.1) (Text.points b.1)).swap := Std.OrientedCmp.eq_swap
    rw [hswap]
    cases compare (Text.points a.1) (Text.points b.1) <;> rfl
  exact List.pairwise_mergeSort htrans htotal fields

/-- Fields of different names have one order. -/
theorem sortFields_eq_of_perm {α : Type} {fields others : List (String × α)} (h : fields.Perm others)
    (hnodup : (fields.map Prod.fst).Nodup) : sortFields fields = sortFields others := by
  have hsorted : (sortFields fields).Perm (sortFields others) :=
    (perm_sortFields _).trans (h.trans (perm_sortFields _).symm)
  refine hsorted.eq_of_pairwise (fun a b ha hb hab hba => ?_) (pairwise_sortFields _) (pairwise_sortFields _)
  have hname : a.1 = b.1 :=
    Text.points_injective (Std.LawfulEqCmp.eq_of_compare (Std.OrientedCmp.isLE_antisymm hab hba))
  exact List.inj_on_of_nodup_map hnodup ((perm_sortFields _).mem_iff.1 ha)
    (h.mem_iff.2 ((perm_sortFields _).mem_iff.1 hb)) hname

theorem mem_sortFields_iff {α : Type} {fields : List (String × α)} {field : String × α} :
    field ∈ sortFields fields ↔ field ∈ fields :=
  (perm_sortFields _).mem_iff

def writeField (field : String × Document) : List Char :=
  (writeText field.1).toList ++ ':' :: field.2.canonical.toList

theorem toList_canonical_list (items : List Document) : (canonical (.list items)).toList =
    '[' :: ([','].intercalate (items.map fun item => item.canonical.toList) ++ [']']) := by
  rw [canonical, write, writeItems_eq, Text.joinWith]
  simp [String.toList_intercalate, Layout.compact, Function.comp_def, canonical]

theorem toList_canonical_object (fields : List (String × Document)) : (canonical (.object fields)).toList =
    '\x7b' :: ([','].intercalate ((sortFields fields).map writeField) ++ ['\x7d']) := by
  have hfield : ∀ field : String × Document,
      (writeText field.1 ++ Layout.compact.name ++ field.2.write .compact).toList = writeField field := by
    intro field
    simp [Layout.compact, writeField, canonical]
  rw [canonical, write, writeFields_eq, sortFields_map, Text.joinWith]
  simp [String.toList_intercalate, Function.comp_def, hfield]
  rfl

/-! ### Telling a document from its text -/

def kindAt (c : Char) : String :=
  if c = 'n' then "NoneType"
  else if c = 't' ∨ c = 'f' then "bool"
  else if c = '-' ∨ c.isDigit = true then "int"
  else if c = '"' then "str"
  else if c = '[' then "list"
  else if c = '\x7b' then "dict"
  else ""

theorem kindAt_of_isDigit {c : Char} (h : c.isDigit = true) : kindAt c = "int" := by
  have hne : ∀ d : Char, d.isDigit = false → c ≠ d := by
    intro d hd he
    rw [he, hd] at h
    cases h
  unfold kindAt
  rw [if_neg (hne _ (by decide)), if_neg (not_or.2 ⟨hne _ (by decide), hne _ (by decide)⟩), if_pos (Or.inr h)]

theorem Proper.head?_canonical {d : Document} (h : d.Proper) (rest : List Char) :
    (d.canonical.toList ++ rest).head?.map kindAt = some d.kindName := by
  cases h with
  | null => rfl
  | bool value => cases value <;> rfl
  | whole n =>
    rw [canonical, write, toList_whole]
    split
    · rfl
    · cases hd : Nat.toDigits 10 n.natAbs with
      | nil => exact absurd hd (List.ne_nil_of_length_pos Nat.length_toDigits_pos)
      | cons c cs =>
        have hc : c.isDigit = true := isDigit_of_mem_toDigits (hd ▸ List.mem_cons_self)
        rw [List.cons_append, List.head?_cons, Option.map_some, kindAt_of_isDigit hc, kindName]
  | text s =>
    rw [canonical, write, writeText, String.toList_ofList]
    rfl
  | list _ =>
    rw [toList_canonical_list]
    rfl
  | object _ _ =>
    rw [toList_canonical_object]
    rfl

theorem Proper.kindName_eq {d e : Document} {x y : List Char} (hd : d.Proper) (he : e.Proper)
    (h : d.canonical.toList ++ x = e.canonical.toList ++ y) : d.kindName = e.kindName := by
  have hsame := hd.head?_canonical x
  rw [h, he.head?_canonical y] at hsame
  exact (Option.some.inj hsame).symm

theorem Proper.head?_canonical_ne {d : Document} (h : d.Proper) (rest : List Char) {c : Char}
    (hc : kindAt c = "") : (d.canonical.toList ++ rest).head? ≠ some c := by
  intro hhead
  have hkind := h.head?_canonical rest
  rw [hhead, Option.map_some, hc, Option.some.injEq] at hkind
  cases h <;> simp [kindName] at hkind

/-- Parts with separators between them start with the first part, and go on behind a separator or end. -/
theorem intercalate_cons_append (part : List Char) (parts : List (List Char)) (tail : List Char) :
    [','].intercalate (part :: parts) ++ tail = part ++ match parts with
      | [] => tail
      | next :: rest => ',' :: ([','].intercalate (next :: rest) ++ tail) := by
  cases parts with
  | nil => simp
  | cons next rest => simp [List.intercalate_cons_cons]

/-- **Parts are told one by one**, if each is told from the front of a text and none starts with what closes
them. -/
theorem eq_of_intercalate_append {α β : Type} {write : α → List Char} {f : α → β} {close : Char}
    {as bs : List α} {x y : List Char} (hclose : close ≠ ',' ∧ close.isDigit = false)
    (hopen : ∀ a ∈ as ++ bs, ∀ z, (write a ++ z).head? ≠ some close)
    (htold : ∀ a ∈ as, ∀ b ∈ bs, ∀ x y, Ends x → Ends y → write a ++ x = write b ++ y → f a = f b ∧ x = y)
    (h : [','].intercalate (as.map write) ++ close :: x = [','].intercalate (bs.map write) ++ close :: y) :
    as.map f = bs.map f ∧ x = y := by
  have hends : ∀ (parts : List (List Char)) (z : List Char), Ends (match parts with
      | [] => close :: z
      | next :: rest => ',' :: ([','].intercalate (next :: rest) ++ close :: z)) := by
    intro parts z c hc
    cases parts with
    | nil => exact Option.some.inj hc ▸ hclose.2
    | cons next rest => exact Option.some.inj hc ▸ rfl
  induction as generalizing bs with
  | nil =>
    cases bs with
    | nil => exact ⟨rfl, (List.cons.inj h).2⟩
    | cons b bs =>
      rw [List.map_cons, intercalate_cons_append] at h
      exact absurd (congrArg List.head? h).symm (hopen b List.mem_cons_self _)
  | cons a as ih =>
    rw [List.map_cons, intercalate_cons_append] at h
    cases bs with
    | nil => exact absurd (congrArg List.head? h) (hopen a List.mem_cons_self _)
    | cons b bs =>
      rw [List.map_cons, intercalate_cons_append] at h
      obtain ⟨hab, hrest⟩ := htold a List.mem_cons_self b List.mem_cons_self _ _ (hends _ _) (hends _ _) h
      have hmore : as.map f = bs.map f ∧ x = y := by
        cases as with
        | nil =>
          cases bs with
          | nil => exact ⟨rfl, (List.cons.inj hrest).2⟩
          | cons next rest => exact absurd (List.cons.inj hrest).1 hclose.1
        | cons more others =>
          cases bs with
          | nil => exact absurd (List.cons.inj hrest).1.symm hclose.1
          | cons next rest =>
            refine ih (fun c hc => hopen c ?_)
              (fun c hc d hd => htold c (List.mem_cons_of_mem _ hc) d (List.mem_cons_of_mem _ hd))
              (List.cons.inj hrest).2
            simp only [List.cons_append, List.mem_cons, List.mem_append] at hc ⊢
            tauto
      exact ⟨by rw [List.map_cons, List.map_cons, hab, hmore.1], hmore.2⟩

/-- A document is told from the front of a text, up to the order of fields and to pairs that are not joined. -/
def Told (d : Document) : Prop := ∀ ⦃e : Document⦄ ⦃x y : List Char⦄, e.Proper → Ends x → Ends y →
  d.canonical.toList ++ x = e.canonical.toList ++ y → d.normal.joined = e.normal.joined ∧ x = y

theorem told_null : null.Told := by
  intro e x y he _ _ h
  have hkind := Proper.null.kindName_eq he h
  cases he with
  | null => exact ⟨rfl, List.append_cancel_left h⟩
  | _ => simp [kindName] at hkind

theorem told_bool (value : Bool) : (bool value).Told := by
  intro e x y he _ _ h
  have hkind := (Proper.bool value).kindName_eq he h
  cases he with
  | bool other =>
    cases value <;> cases other
    · exact ⟨rfl, List.append_cancel_left h⟩
    · cases (List.cons.inj h).1
    · cases (List.cons.inj h).1
    · exact ⟨rfl, List.append_cancel_left h⟩
  | _ => simp [kindName] at hkind

theorem told_whole (n : Int) : (whole n).Told := by
  intro e x y he hx hy h
  have hkind := (Proper.whole n).kindName_eq he h
  cases he with
  | whole m =>
    obtain ⟨rfl, hxy⟩ := eq_of_whole_append hx hy h
    exact ⟨rfl, hxy⟩
  | _ => simp [kindName] at hkind

theorem told_text (s : String) : (text s).Told := by
  intro e x y he _ _ h
  have hkind := (Proper.text s).kindName_eq he h
  cases he with
  | text t =>
    obtain ⟨hsame, hxy⟩ := eq_of_writeText_append h
    exact ⟨congrArg text hsame, hxy⟩
  | _ => simp [kindName] at hkind

theorem joined_normal_list (items : List Document) :
    (list items).normal.joined = .list (items.map fun item => item.normal.joined) := by
  rw [normal_list, joined_list, List.map_map]
  rfl

theorem joined_normal_object (fields : List (String × Document)) : (object fields).normal.joined =
    .object ((sortFields fields).map fun field => (Text.joined field.1, field.2.normal.joined)) := by
  rw [normal, normalFields_eq, sortFields_map, joined_object, List.map_map]
  rfl

theorem told_list {items : List Document} (hproper : ∀ item ∈ items, item.Proper)
    (htold : ∀ item ∈ items, item.Told) : (list items).Told := by
  intro e x y he _ _ h
  have hkind := (Proper.list hproper).kindName_eq he h
  cases he with
  | @list others hothers =>
    have hopen : ∀ item ∈ items ++ others, ∀ rest, (item.canonical.toList ++ rest).head? ≠ some ']' := by
      intro item hitem rest
      rcases List.mem_append.1 hitem with hitem | hitem
      · exact (hproper item hitem).head?_canonical_ne rest (by decide)
      · exact (hothers item hitem).head?_canonical_ne rest (by decide)
    rw [toList_canonical_list, toList_canonical_list, List.cons_append, List.cons_append, List.append_assoc,
      List.append_assoc] at h
    obtain ⟨hsame, hxy⟩ := eq_of_intercalate_append (f := fun item => item.normal.joined) (by decide) hopen
      (fun item hitem other hother _ _ => htold item hitem (hothers other hother)) (List.cons.inj h).2
    exact ⟨by rw [joined_normal_list, joined_normal_list, hsame], hxy⟩
  | _ => simp [kindName] at hkind

theorem told_object {fields : List (String × Document)} (hproper : (object fields).Proper)
    (htold : ∀ field ∈ fields, field.2.Told) : (object fields).Told := by
  intro e x y he _ _ h
  have hkind := hproper.kindName_eq he h
  cases he with
  | @object others _ hothers =>
    have hopen : ∀ field ∈ sortFields fields ++ sortFields others, ∀ rest,
        (writeField field ++ rest).head? ≠ some '\x7d' := by
      intro field _ rest
      simp [writeField, writeText]
    -- A field is its name, which ends with a quote, and then its value.
    have hfield : ∀ a ∈ sortFields fields, ∀ b ∈ sortFields others, ∀ x y, Ends x → Ends y →
        writeField a ++ x = writeField b ++ y →
        (Text.joined a.1, a.2.normal.joined) = (Text.joined b.1, b.2.normal.joined) ∧ x = y := by
      intro a ha b hb x y hx hy h
      rw [writeField, writeField, List.append_assoc, List.append_assoc, List.cons_append,
        List.cons_append] at h
      obtain ⟨hname, hrest⟩ := eq_of_writeText_append h
      obtain ⟨hvalue, hxy⟩ := htold a (mem_sortFields_iff.1 ha) (hothers b (mem_sortFields_iff.1 hb)) hx hy
        (List.cons.inj hrest).2
      exact ⟨by rw [hname, hvalue], hxy⟩
    rw [toList_canonical_object, toList_canonical_object, List.cons_append, List.cons_append,
      List.append_assoc, List.append_assoc] at h
    obtain ⟨hsame, hxy⟩ := eq_of_intercalate_append
      (f := fun field : String × Document => (Text.joined field.1, field.2.normal.joined)) (by decide) hopen
      hfield (List.cons.inj h).2
    exact ⟨by rw [joined_normal_object, joined_normal_object, hsame], hxy⟩
  | _ => simp [kindName] at hkind

/-- **A document is told from the front of its canonical text.** -/
theorem Proper.told {d : Document} (h : d.Proper) : d.Told := by
  induction h with
  | null => exact told_null
  | bool value => exact told_bool value
  | whole n => exact told_whole n
  | text s => exact told_text s
  | list hproper ih => exact told_list hproper ih
  | object hnodup hproper ih => exact told_object (.object hnodup hproper) ih

/-- **Documents with one joined normal form have one canonical text.** -/
theorem Proper.canonical_eq_of_joined {d e : Document} (hd : d.Proper) (h : d.normal.joined = e.normal.joined) :
    d.canonical = e.canonical := by
  induction hd generalizing e with
  | null =>
    cases e with
    | null => rfl
    | _ => cases h
  | bool value =>
    cases e with
    | bool other => exact congrArg canonical h
    | _ => cases h
  | whole n =>
    cases e with
    | whole m => exact congrArg canonical h
    | _ => cases h
  | text s =>
    cases e with
    | text t =>
      rw [canonical, canonical, write, write, ← writeText_joined s, Document.text.inj h, writeText_joined]
    | _ => cases h
  | @list items _ ih =>
    cases e with
    | list others =>
      rw [joined_normal_list, joined_normal_list, Document.list.injEq] at h
      have hitems := map_eq_map_of_imp (g := fun item : Document => item.canonical.toList)
        (fun item hitem _ _ hsame => congrArg String.toList (ih item hitem hsame)) h
      rw [← String.toList_inj, toList_canonical_list, toList_canonical_list, hitems]
    | _ => cases h
  | @object fields _ _ ih =>
    cases e with
    | object others =>
      rw [joined_normal_object, joined_normal_object, Document.object.injEq] at h
      have hfields : (sortFields fields).map writeField = (sortFields others).map writeField := by
        refine map_eq_map_of_imp (fun field hfield other _ hsame => ?_) h
        obtain ⟨hname, hvalue⟩ := Prod.mk.inj hsame
        rw [writeField, writeField, ih field (mem_sortFields_iff.1 hfield) hvalue, ← writeText_joined field.1,
          hname, writeText_joined]
      rw [← String.toList_inj, toList_canonical_object, toList_canonical_object, hfields]
    | _ => cases h

/-- **Documents have one canonical text exactly when they have one normal form, with pairs joined.** -/
theorem Proper.canonical_eq_iff_joined {d e : Document} (hd : d.Proper) (he : e.Proper) :
    d.canonical = e.canonical ↔ d.normal.joined = e.normal.joined :=
  ⟨fun h => (hd.told he ends_nil ends_nil (congrArg (fun s : String => s.toList ++ []) h)).1,
    hd.canonical_eq_of_joined⟩

theorem Proper.isJoined_normal {d : Document} (h : d.Proper) (hjoined : d.isJoined = true) :
    d.normal.isJoined = true := by
  induction h with
  | @list items _ ih =>
    rw [normal_list, isJoined_list_iff, List.forall_mem_map]
    exact fun item hitem => ih item hitem (isJoined_list_iff.1 hjoined item hitem)
  | @object fields _ _ ih =>
    rw [normal, normalFields_eq, sortFields_map, isJoined_object_iff, List.forall_mem_map]
    intro field hfield
    have hfield := mem_sortFields_iff.1 hfield
    obtain ⟨hname, hvalue⟩ := isJoined_object_iff.1 hjoined field hfield
    exact ⟨hname, ih field hfield hvalue⟩
  | _ => exact hjoined

/-- **Joined documents have one canonical text exactly when they have one normal form.** -/
theorem Proper.canonical_eq_iff_normal {d e : Document} (hd : d.Proper) (he : e.Proper)
    (hjoined : d.isJoined = true) (hjoined' : e.isJoined = true) :
    d.canonical = e.canonical ↔ d.normal = e.normal := by
  rw [hd.canonical_eq_iff_joined he, joined_eq_self (hd.isJoined_normal hjoined),
    joined_eq_self (he.isJoined_normal hjoined')]

/-! ### Equal documents -/

mutual

/-- **Whether two documents are equal as values:** the items of a list in order, and the fields of an object
by their names. -/
def agrees : Document → Document → Bool
  | .list items, .list others => agreesItems items others
  | .object fields, .object others => fields.length == others.length && agreesFields fields others
  | .list _, _ => false
  | .object _, _ => false
  | d, e => d.same e

def agreesItems : List Document → List Document → Bool
  | [], [] => true
  | item :: rest, other :: others => item.agrees other && agreesItems rest others
  | _, _ => false

def agreesFields : List (String × Document) → List (String × Document) → Bool
  | [], _ => true
  | (name, value) :: rest, others =>
    (match others.lookup name with
      | some other => value.agrees other
      | none => false) && agreesFields rest others

end

theorem agreesItems_iff {items others : List Document} :
    agreesItems items others = true ↔
      List.Forall₂ (fun item other => item.agrees other = true) items others := by
  induction items generalizing others with
  | nil => cases others <;> simp [agreesItems]
  | cons item rest ih => cases others <;> simp [agreesItems, ih]

theorem agreesFields_iff {fields others : List (String × Document)} : agreesFields fields others = true ↔
    ∀ field ∈ fields, ∃ other, others.lookup field.1 = some other ∧ field.2.agrees other = true := by
  induction fields with
  | nil => exact iff_of_true rfl nofun
  | cons field rest ih =>
    rw [agreesFields, Bool.and_eq_true, ih, List.forall_mem_cons]
    cases others.lookup field.1 <;> simp

theorem Proper.agrees_self {d : Document} (h : d.Proper) : d.agrees d = true := by
  induction h with
  | list _ ih => exact agreesItems_iff.2 (List.forall₂_same.2 ih)
  | object hnodup _ ih =>
    rw [agrees, beq_self_eq_true, Bool.true_and, agreesFields_iff]
    intro field hfield
    exact ⟨field.2, (mem_iff_lookup_eq_some hnodup).1 hfield, ih field hfield⟩
  | _ => exact (same_iff _ _).2 rfl

theorem map_normal_eq_of_agrees {items others : List Document}
    (hsame : ∀ item ∈ items, ∀ {other : Document}, item.agrees other = true → item.normal = other.normal)
    (h : List.Forall₂ (fun item other => item.agrees other = true) items others) :
    items.map normal = others.map normal := by
  induction h with
  | nil => rfl
  | cons hfirst _ ih =>
    rw [List.map_cons, List.map_cons, hsame _ List.mem_cons_self hfirst,
      ih fun item hitem => hsame item (List.mem_cons_of_mem _ hitem)]

/-- Fields that are all found among as many others are those, in some order. -/
theorem perm_normalFields_of_agrees {fields others : List (String × Document)}
    (hnodup : (fields.map Prod.fst).Nodup) (hlength : fields.length = others.length)
    (h : ∀ field ∈ fields, ∃ other, others.lookup field.1 = some other ∧ field.2.normal = other.normal) :
    (normalFields fields).Perm (normalFields others) := by
  have hkeys : (normalFields fields).map Prod.fst = fields.map Prod.fst := by
    rw [normalFields_eq, List.map_map]
    rfl
  have hsubset : normalFields fields ⊆ normalFields others := by
    intro entry hentry
    rw [normalFields_eq, List.mem_map] at hentry
    obtain ⟨field, hfield, rfl⟩ := hentry
    obtain ⟨other, hfound, hsame⟩ := h field hfield
    obtain ⟨before, after, hothers, -⟩ := List.lookup_eq_some_iff.1 hfound
    rw [normalFields_eq, hsame, List.mem_map]
    exact ⟨(field.1, other), by simp [hothers], rfl⟩
  have hnodup' : ((normalFields fields).map Prod.fst).Nodup := hkeys ▸ hnodup
  have hsubperm := List.subperm_of_subset hnodup'.of_map hsubset
  refine hsubperm.perm_of_length_le (Nat.le_of_eq ?_)
  rw [normalFields_eq, normalFields_eq, List.length_map, List.length_map, hlength]

/-- **Documents that are equal as values have one normal form.** -/
theorem Proper.normal_eq_of_agrees {d e : Document} (hd : d.Proper) (h : d.agrees e = true) :
    d.normal = e.normal := by
  induction hd generalizing e with
  | list _ ih =>
    cases e with
    | list others =>
      rw [normal_list, normal_list, map_normal_eq_of_agrees (fun item hitem _ h => ih item hitem h)
        (agreesItems_iff.1 h)]
    | _ => cases h
  | @object fields hnodup _ ih =>
    cases e with
    | object others =>
      rw [agrees, Bool.and_eq_true, beq_iff_eq, agreesFields_iff] at h
      have hperm : (normalFields fields).Perm (normalFields others) := by
        refine perm_normalFields_of_agrees hnodup h.1 fun field hfield => ?_
        obtain ⟨other, hfound, hagrees⟩ := h.2 field hfield
        exact ⟨other, hfound, ih field hfield hagrees⟩
      have hkeys : ((normalFields fields).map Prod.fst).Nodup := by
        rw [normalFields_eq, List.map_map]
        exact hnodup
      rw [normal, normal, sortFields_eq_of_perm hperm hkeys]
    | _ => cases h
  | _ => rw [(same_iff _ _).1 h]

end Document

end TaintFlow
