import TaintFlow.Proofs.Flow.Inputs
import TaintFlow.Proofs.Flow.Observation
import TaintFlow.Proofs.Result
import TaintFlow.Proofs.Summary.Published

/-!
# Keys of a program

A key is a function's id and a part, with a separator in between, and is taken apart at the last separator in
it.  So it is read back exactly if the separator is the last one, which depends on the part alone
(`IsPart`, `functionOf_functionKey_iff`).  Markers of parameters and of the receiver are such parts, ids of
nodes can be any text.

Hence the keys of a program (`Program.keys`) are unique and those of its nodes are read back exactly when the
ids of the nodes are parts, no node is called like a marker of its function, and no key of a global is read as
a point of a function (`keysResolve_iff`).
-/

namespace TaintFlow

/-! ### The last separator of a text -/

namespace Text

variable {separator l front back : List Char}

theorem afterChars?_eq_none_iff : afterChars? separator l = none ↔ ¬ separator <+: l := by
  rw [Option.eq_none_iff_forall_ne_some, List.prefix_iff_exists_append_eq, not_exists]
  exact forall_congr' fun back => not_congr (afterChars?_eq_some_iff.trans eq_comm)

theorem splitLastChars?_eq_none_iff (hseparator : separator ≠ []) :
    splitLastChars? separator l = none ↔ ¬ separator <:+: l := by
  induction l with
  | nil => simpa [splitLastChars?] using hseparator
  | cons c rest ih =>
    rw [splitLastChars?, List.infix_cons_iff, not_or, ← ih, ← afterChars?_eq_none_iff]
    cases splitLastChars? separator rest <;> simp

theorem append_of_splitLastChars? (h : splitLastChars? separator l = some (front, back)) :
    l = front ++ (separator ++ back) := by
  induction l generalizing front with
  | nil => cases h
  | cons c rest ih =>
    rw [splitLastChars?] at h
    split at h
    · next f b hrest =>
      cases h
      rw [ih hrest, List.cons_append]
    · obtain ⟨b, hafter, hb⟩ := Option.map_eq_some_iff.1 h
      cases hb
      rw [List.nil_append]
      exact afterChars?_eq_some_iff.1 hafter

/-- What is put before a text does not move its last separator. -/
theorem splitLastChars?_append (before : List Char)
    (h : splitLastChars? separator l = some (front, back)) :
    splitLastChars? separator (before ++ l) = some (before ++ front, back) := by
  induction before with
  | nil => exact h
  | cons c before ih => rw [List.cons_append, splitLastChars?, ih, List.cons_append]

end Text

/-! ### Keys that are read back -/

/-- A text that has no separator and makes none with a colon before it. -/
def IsPart (part : String) : Prop := ¬ keySeparator.toList <:+: ':' :: part.toList

instance (part : String) : Decidable (IsPart part) :=
  inferInstanceAs (Decidable (¬ keySeparator.toList <:+: ':' :: part.toList))

namespace Program

variable {function part key : String}

/-- A key is split behind its function or further on. -/
theorem splitLast?_functionKey (function part : String) : ∃ front back,
    Text.splitLast? keySeparator (functionKey function part) = some (front, back) ∧
      functionKey function part = functionKey front back ∧ (front = function ↔ IsPart part) := by
  have hkey : ∀ function part : String, (functionKey function part).toList =
      function.toList ++ ':' :: ':' :: part.toList := fun function part => by
    rw [functionKey, String.toList_append, String.toList_append, List.append_assoc]
    rfl
  have hnone : Text.splitLastChars? keySeparator.toList (':' :: part.toList) = none ↔ IsPart part :=
    Text.splitLastChars?_eq_none_iff (by decide)
  obtain ⟨front, back, hsplit, hfront⟩ : ∃ front back,
      Text.splitLastChars? keySeparator.toList (':' :: ':' :: part.toList) = some (front, back) ∧
        (front = [] ↔ IsPart part) := by
    rw [Text.splitLastChars?]
    cases h : Text.splitLastChars? keySeparator.toList (':' :: part.toList) with
    | none => exact ⟨[], part.toList, rfl, iff_of_true rfl (hnone.1 h)⟩
    | some found =>
      obtain ⟨front, back⟩ := found
      refine ⟨':' :: front, back, rfl, iff_of_false nofun fun hpart => ?_⟩
      cases h.symm.trans (hnone.2 hpart)
  refine ⟨String.ofList (function.toList ++ front), String.ofList back, ?_, ?_, ?_⟩
  · rw [Text.splitLast?, hkey, Text.splitLastChars?_append _ hsplit]
    rfl
  · refine String.toList_inj.1 ?_
    rw [hkey, hkey, String.toList_ofList, String.toList_ofList, List.append_assoc,
      Text.append_of_splitLastChars? hsplit]
    rfl
  · rw [← hfront, ← String.toList_inj, String.toList_ofList, List.append_right_eq_self]

theorem functionOf_functionKey_iff : functionOf (functionKey function part) = function ↔ IsPart part := by
  obtain ⟨front, back, hsplit, -, hfront⟩ := splitLast?_functionKey function part
  rw [functionOf, hsplit]
  exact hfront

theorem eq_functionKey_of_splitKey {front back : String}
    (h : splitKey (functionKey function part) = (front, back)) :
    functionKey function part = functionKey front back := by
  obtain ⟨found, rest, hsplit, heq, -⟩ := splitLast?_functionKey function part
  rw [splitKey, hsplit] at h
  cases h
  exact heq

/-- **A key is read back exactly if its part is one.** -/
theorem splitKey_functionKey_iff : splitKey (functionKey function part) = (function, part) ↔ IsPart part := by
  obtain ⟨front, back, hsplit, heq, hfront⟩ := splitLast?_functionKey function part
  rw [splitKey, hsplit, Option.getD_some, ← hfront, Prod.mk.injEq, and_iff_left_iff_imp]
  rintro rfl
  have heq : front ++ keySeparator ++ part = front ++ keySeparator ++ back := heq
  simpa using heq.symm

end Program

theorem isPart_paramMarker (index : Nat) : IsPart (paramMarker index) := by
  intro hinfix
  have hdigits : ∀ c ∈ Nat.toDigits 10 index, c.isDigit = true := fun c hc =>
    Nat.isDigit_of_mem_toDigits (by decide) (by decide) hc
  have hno : ¬ [':', ':'] <:+: Nat.toDigits 10 index := fun h =>
    absurd (hdigits ':' (h.subset (by simp))) (by decide)
  have hfirst : ¬ [':'] <+: Nat.toDigits 10 index := fun h =>
    absurd (hdigits ':' (h.subset (by simp))) (by decide)
  have hchars : (paramMarker index).toList = "param:".toList ++ Nat.toDigits 10 index := by
    simp [paramMarker]
  rw [hchars] at hinfix
  simp [List.infix_cons_iff, keySeparator, hno, hfirst] at hinfix

theorem isPart_receiverMarker : IsPart receiverMarker := by decide

/-! ### The points of a function -/

namespace Function

variable {f : Function} {part : String}

/-- What stands for the parameters and, if there is one, for the receiver. -/
def markers (f : Function) : List String :=
  (List.range f.params.length).map paramMarker ++ if f.receiver.isTruthy then [receiverMarker] else []

/-- Everything of a function that has a key: its nodes, its parameters and its receiver. -/
def points (f : Function) : List String := f.nodes.keys ++ f.markers

def keys (f : Function) : List String :=
  f.nodes.keys.map f.key ++
    ((List.range f.params.length).map f.paramKey ++ if f.receiver.isTruthy then [f.receiverKey] else [])

theorem keys_eq (f : Function) : f.keys = f.points.map f.key := by
  rw [keys, points, markers, List.map_append, List.map_append, List.map_map]
  split <;> rfl

theorem isPart_of_mem_markers (h : part ∈ f.markers) : IsPart part := by
  rw [markers, List.mem_append] at h
  rcases h with h | h
  · obtain ⟨index, -, rfl⟩ := List.mem_map.1 h
    exact isPart_paramMarker index
  · split at h
    · obtain rfl := List.mem_singleton.1 h
      exact isPart_receiverMarker
    · cases h

theorem nodup_markers (f : Function) : f.markers.Nodup := by
  refine List.Nodup.append (List.nodup_range.map fun _ _ => paramMarker_injective) ?_ ?_
  · split <;> simp
  · intro marker hparam hreceiver
    obtain ⟨index, -, rfl⟩ := List.mem_map.1 hparam
    split at hreceiver
    · exact receiverMarker_ne_paramMarker index (List.mem_singleton.1 hreceiver).symm
    · cases hreceiver

theorem nodup_points_iff : f.points.Nodup ↔ ∀ marker ∈ f.markers, marker ∉ f.nodes.keys := by
  rw [points, List.nodup_append']
  constructor
  · intro h marker hmarker hnode
    exact h.2.2 hnode hmarker
  · intro h
    exact ⟨f.nodes.distinct, f.nodup_markers, fun part hnode hmarker => h part hmarker hnode⟩

end Function

/-! ### The keys of a program -/

namespace Program

variable {p : Program} {f : Function} {id node : String} {n : Node}

/-- The keys of all nodes, parameters, receivers and globals. -/
def keys (p : Program) : List String :=
  p.functions.values.flatMap Function.keys ++ p.globals.toList.map globalKey

/-- The keys of a program are unique, and those of its nodes are read back. -/
structure KeysResolve (p : Program) : Prop where
  nodup : p.keys.Nodup
  leadsBack : ∀ f ∈ p.functions.values, ∀ node n, f.node? node = some n →
    p.node? (f.key node) = some n ∧ functionOf (f.key node) = f.id

/-- The ids of a program keep clear of its keys. -/
structure KeepsClear (p : Program) : Prop where
  isPart : ∀ f ∈ p.functions.values, ∀ node ∈ f.nodes.keys, IsPart node
  marker : ∀ f ∈ p.functions.values, ∀ marker ∈ f.markers, marker ∉ f.nodes.keys
  globalKey : ∀ name ∈ p.globals.toList, ∀ f ∈ p.functions.values, ∀ part ∈ f.points,
    splitKey (globalKey name) ≠ (f.id, part)

instance (p : Program) : Decidable p.KeepsClear :=
  decidable_of_iff (_ ∧ _ ∧ _) ⟨fun h => ⟨h.1, h.2.1, h.2.2⟩, fun h => ⟨h.isPart, h.marker, h.globalKey⟩⟩

theorem isPart_of_mem_points (h : p.KeepsClear) (hf : f ∈ p.functions.values) {part : String}
    (hpart : part ∈ f.points) : IsPart part := by
  rcases List.mem_append.1 hpart with hnode | hmarker
  · exact h.isPart f hf part hnode
  · exact Function.isPart_of_mem_markers hmarker

/-- The key of a node leads back to it if its id is a part. -/
theorem node?_key (hkeyed : p.WellKeyed) (hf : f ∈ p.functions.values) (hpart : IsPart node) :
    p.node? (f.key node) = f.node? node := by
  obtain ⟨id, hid⟩ := Table.mem_values_iff.1 hf
  obtain rfl := hkeyed id f hid
  rw [Program.node?, Function.key, splitKey_functionKey_iff.2 hpart]
  exact congrArg (fun o => o.bind (fun g => g.node? node)) hid

theorem pairwise_ids (hkeyed : p.WellKeyed) : p.functions.values.Pairwise (fun f g => f.id ≠ g.id) := by
  have hids : p.functions.values.map Function.id = p.functions.keys := by
    rw [Table.values, Table.keys, List.map_map]
    exact List.map_congr_left fun entry hentry => hkeyed _ _ (Table.mem_entries_iff.1 hentry)
  exact List.pairwise_map.1 (hids ▸ p.functions.distinct)

theorem nodup_functionKeys (hkeyed : p.WellKeyed) (h : p.KeepsClear) :
    (p.functions.values.flatMap Function.keys).Nodup := by
  refine List.nodup_flatMap.2 ⟨fun f hf => ?_, ?_⟩
  · rw [Function.keys_eq]
    exact (Function.nodup_points_iff.2 (h.marker f hf)).map fun _ _ => Frame.key_injective f
  · refine (pairwise_ids hkeyed).imp_of_mem fun {f g} hf hg hne => ?_
    show f.keys.Disjoint g.keys
    rw [Function.keys_eq, Function.keys_eq]
    intro key hkey hkey'
    obtain ⟨part, hpart, rfl⟩ := List.mem_map.1 hkey
    obtain ⟨other, hother, hsame⟩ := List.mem_map.1 hkey'
    have hsplit : splitKey (functionKey f.id part) = (f.id, part) :=
      splitKey_functionKey_iff.2 (isPart_of_mem_points h hf hpart)
    have hsplit' : splitKey (functionKey g.id other) = (g.id, other) :=
      splitKey_functionKey_iff.2 (isPart_of_mem_points h hg hother)
    have hsame : functionKey g.id other = functionKey f.id part := hsame
    rw [hsame, hsplit] at hsplit'
    exact hne (Prod.mk.inj hsplit').1

/-- **Keys are unique and lead back to their nodes exactly when the ids keep clear of them.** -/
theorem keysResolve_iff {d : Document} (hread : ofDocument d = .ok p) : p.KeysResolve ↔ p.KeepsClear := by
  have hkeyed := wellKeyed_of_ofDocument hread
  constructor
  · intro h
    obtain ⟨hfunctions, -, hglobals⟩ := List.nodup_append'.1 h.nodup
    refine ⟨fun f hf node hnode => ?_, fun f hf => ?_, fun name hname f hf part hpart hsplit => ?_⟩
    · obtain ⟨n, hn⟩ := Table.mem_keys_iff.1 hnode
      exact functionOf_functionKey_iff.1 (h.leadsBack f hf node n hn).2
    · have hkeys := (List.nodup_flatMap.1 hfunctions).1 f hf
      rw [Function.keys_eq] at hkeys
      exact Function.nodup_points_iff.1 hkeys.of_map
    · have hsame : globalKey name = f.key part := eq_functionKey_of_splitKey hsplit
      refine hglobals (a := f.key part) (List.mem_flatMap.2 ⟨f, hf, ?_⟩) (List.mem_map.2 ⟨name, hname, hsame⟩)
      rw [Function.keys_eq]
      exact List.mem_map_of_mem hpart
  · intro h
    refine ⟨List.Nodup.append (nodup_functionKeys hkeyed h) ?_ ?_, fun f hf node n hn => ?_⟩
    · refine p.globals.nodup_toList.map fun name other hsame => ?_
      have hsame : "<global>" ++ keySeparator ++ name = "<global>" ++ keySeparator ++ other := hsame
      simpa using hsame
    · intro key hkey hglobal
      obtain ⟨f, hf, hkey⟩ := List.mem_flatMap.1 hkey
      rw [Function.keys_eq] at hkey
      obtain ⟨part, hpart, rfl⟩ := List.mem_map.1 hkey
      obtain ⟨name, hname, hsame⟩ := List.mem_map.1 hglobal
      refine h.globalKey name hname f hf part hpart ?_
      rw [hsame]
      exact splitKey_functionKey_iff.2 (isPart_of_mem_points h hf hpart)
    · have hnode := h.isPart f hf node (Table.mem_keys_iff.2 ⟨n, hn⟩)
      exact ⟨(node?_key hkeyed hf hnode).trans hn, functionOf_functionKey_iff.2 hnode⟩

/-- Two methods that read a setting, one with a receiver and one with parameters. -/
def methods : Document := .object [
  ("globals", .list [.text "CONFIG", .text "app::LIMIT"]),
  ("functions", .list [
    .object [("id", .text "app::Page.show"), ("receiver", .text "self"), ("params", .list [.text "q"]),
      ("nodes", .list [.object [("id", .text "read"), ("succ", .list [.text "end"])],
        .object [("id", .text "end"), ("kind", .text "return")]])],
    .object [("id", .text "app"), ("params", .list [.text "a", .text "b"]),
      ("nodes", .list [.object [("id", .text "param:2")], .object [("id", .text "receiver")]])]])]

theorem keysResolve_methods : ∃ p, ofDocument methods = .ok p ∧ p.KeysResolve := by
  obtain ⟨p, hread, hclear⟩ := Result.exists_ok_of_any (r := ofDocument methods)
    (p := fun p => decide p.KeepsClear) (by decide +kernel)
  exact ⟨p, hread, (keysResolve_iff hread).2 (of_decide_eq_true hclear)⟩

/-- A function with a node whose id has a separator in it. -/
def nested : Document := .object [("globals", .list []), ("functions", .list [
  .object [("id", .text "f"), ("nodes", .list [.object [("id", .text "a::b"), ("kind", .text "return")]])]])]

/-- **The key of a node whose id has a separator leads to another function.** -/
theorem not_keysResolve_nested : ∃ p, ofDocument nested = .ok p ∧
    (∃ f, p.functions.get? "f" = some f ∧ (f.node? "a::b").isSome ∧ p.node? (f.key "a::b") = none ∧
      functionOf (f.key "a::b") = "f::a") ∧ ¬ p.KeysResolve := by
  obtain ⟨p, hread, hp⟩ := Result.exists_ok_of_any (r := ofDocument nested)
    (p := fun p => (p.functions.get? "f").any fun f =>
      (f.node? "a::b").isSome && (p.node? (f.key "a::b")).isNone && functionOf (f.key "a::b") == "f::a")
    (by decide +kernel)
  obtain ⟨f, hf, hp⟩ := (Option.any_eq_true _ _).1 hp
  simp only [Bool.and_eq_true, Option.isNone_iff_eq_none, beq_iff_eq] at hp
  obtain ⟨⟨hnode, hlost⟩, hother⟩ := hp
  refine ⟨p, hread, ⟨f, hf, hnode, hlost, hother⟩, fun h => ?_⟩
  obtain ⟨n, hn⟩ := Option.isSome_iff_exists.1 hnode
  have hback := (h.leadsBack f (Table.mem_values_iff.2 ⟨"f", hf⟩) "a::b" n hn).1
  cases hlost.symm.trans hback

end Program

end TaintFlow
