import TaintFlow.Proofs.Document.Joined
import TaintFlow.Proofs.Program.RoundTrip

/-!
# Functions with joined texts

The texts of a function are those of the document that it is read from, notations of values in it and names of
kinds, contexts and origins.  So the document of a function that is read from a joined document is joined
(`Function.isJoined_toDocument`).
-/

namespace TaintFlow

namespace Document

variable {d : Document}

theorem isJoined_membersOf {name : String} {items : List Document} (h : d.isJoined = true)
    (hitems : membersOf (d.field? name) = .ok items) : ∀ item ∈ items, item.isJoined = true := by
  unfold membersOf at hitems
  split at hitems
  · next hfield => exact isJoined_members (isJoined_field h hfield) hitems
  · obtain rfl := Except.ok.inj hitems
    exact List.forall_mem_nil _

theorem isJoined_ofTexts {texts : List String} (h : ∀ s ∈ texts, Text.isJoined s = true) :
    (ofTexts texts).isJoined = true := by
  rw [ofTexts, isJoined_list_iff, List.forall_mem_map]
  exact h

theorem isJoined_contextsDocument (contexts : List Context) : (contextsDocument contexts).isJoined = true := by
  refine isJoined_ofTexts (List.forall_mem_map.2 fun c _ => Text.isJoined_of_plain ?_)
  cases c <;> decide

end Document

open Document (isJoined_asText isJoined_field isJoined_getD isJoined_membersOf)

structure Node.Joined (n : Node) : Prop where
  succ : ∀ s ∈ n.succ, Text.isJoined s = true
  target : n.target.isJoined = true
  operands : ∀ s ∈ n.operands, Text.isJoined s = true
  embeds : ∀ slot ∈ n.embeds.keys, Text.isJoined slot = true
  operator : n.operator.isJoined = true
  api : n.api.isJoined = true
  callee : n.callee.isJoined = true
  args : ∀ arg ∈ n.args, ∀ s, arg = some s → Text.isJoined s = true
  receiver : n.receiver.isJoined = true
  file : n.file.isJoined = true

/-! ### Reading -/

namespace Decode

variable {d : Document} {name : String}

theorem joined_texts {l : List String} (h : d.isJoined = true) (hl : texts (d.field? name) = .ok l) :
    ∀ s ∈ l, Text.isJoined s = true := by
  obtain ⟨items, hitems, hl⟩ := Result.exists_of_bind_eq_ok hl
  obtain rfl := Except.ok.inj hl
  exact List.forall_mem_map.2 fun item hitem => isJoined_asText (isJoined_membersOf h hitems item hitem)

theorem joined_optionalFields {fields : List (String × Document)} (h : d.isJoined = true)
    (hfields : optionalFields (d.field? name) = .ok fields) : ∀ field ∈ fields, Text.isJoined field.1 = true := by
  unfold optionalFields at hfields
  split at hfields
  · next value hvalue =>
    split at hfields
    · cases value with
      | object found =>
        obtain rfl := Except.ok.inj hfields
        exact fun field hfield => (Document.isJoined_object_iff.1 (isJoined_field h hvalue) field hfield).1
      | _ => cases hfields
    · obtain rfl := Except.ok.inj hfields
      exact List.forall_mem_nil _
  · obtain rfl := Except.ok.inj hfields
    exact List.forall_mem_nil _

theorem joined_embeds {m : NameMap (List Context)} (h : d.isJoined = true)
    (hm : embeds (d.field? name) = .ok m) : ∀ slot ∈ m.keys, Text.isJoined slot = true := by
  obtain ⟨fields, hfields, hm⟩ := Result.exists_of_bind_eq_ok hm
  have hjoined := joined_optionalFields h hfields
  refine Result.foldlM_induction (motive := fun m : NameMap (List Context) =>
    ∀ slot ∈ m.keys, Text.isJoined slot = true) hm nofun fun found entry next hentry hfound hnext => ?_
  obtain ⟨contexts, -, hnext⟩ := Result.exists_of_bind_eq_ok hnext
  obtain rfl := Except.ok.inj hnext
  intro slot hslot
  obtain ⟨value, hvalue⟩ := OrderedMap.mem_keys_iff.1 hslot
  rw [OrderedMap.get?_set] at hvalue
  split at hvalue
  · next he => exact he ▸ hjoined entry hentry
  · exact hfound slot (OrderedMap.mem_keys_iff.2 ⟨value, hvalue⟩)

theorem joined_args {items : List Document} (h : d.isJoined = true)
    (hitems : Document.membersOf (d.field? name) = .ok items) :
    ∀ arg ∈ items.map (fun arg => if arg.isNull then none else some arg.asText), ∀ s, arg = some s →
      Text.isJoined s = true := by
  refine List.forall_mem_map.2 fun item hitem s hs => ?_
  split at hs
  · cases hs
  · obtain rfl := Option.some.inj hs
    exact isJoined_asText (isJoined_membersOf h hitems item hitem)

theorem joined_of_node {function : String} {entry : String × Node} (hd : d.isJoined = true)
    (h : node function d = .ok entry) : Text.isJoined entry.1 = true ∧ entry.2.Joined := by
  cases d with
  | object fields =>
    unfold node at h
    dsimp only at h
    rw [Result.ok_bind] at h
    split at h
    · next hid =>
      have hshown := isJoined_asText (isJoined_field hd hid)
      split at h
      · obtain ⟨embeds, hembeds, h⟩ := Result.exists_of_bind_eq_ok h
        obtain ⟨enclosing, -, h⟩ := Result.exists_of_bind_eq_ok h
        obtain ⟨succ, hsucc, h⟩ := Result.exists_of_bind_eq_ok h
        obtain ⟨operands, hoperands, h⟩ := Result.exists_of_bind_eq_ok h
        obtain ⟨args, hargs, h⟩ := Result.exists_of_bind_eq_ok h
        have hsucc := joined_texts hd hsucc
        have hoperands := joined_texts hd hoperands
        have hembeds := joined_embeds hd (eq_ok_of_orMalformed hembeds)
        have hargs := joined_args hd hargs
        split at h
        · obtain ⟨line, -, h⟩ := Result.exists_of_bind_eq_ok h
          obtain rfl := Except.ok.inj h
          exact ⟨hshown, hsucc, isJoined_getD hd rfl, hoperands, hembeds, isJoined_getD hd rfl,
            isJoined_getD hd rfl, isJoined_getD hd rfl, hargs, isJoined_getD hd rfl, isJoined_getD hd rfl⟩
        · obtain rfl := Except.ok.inj h
          exact ⟨hshown, hsucc, isJoined_getD hd rfl, hoperands, hembeds, isJoined_getD hd rfl,
            isJoined_getD hd rfl, isJoined_getD hd rfl, hargs, isJoined_getD hd rfl, isJoined_getD hd rfl⟩
      · cases h
    · cases h
  | _ => cases h

theorem joined_of_param {p : Param} (hd : d.isJoined = true) (h : param d = .ok p) :
    Text.isJoined p.name = true := by
  cases d with
  | text s =>
    obtain rfl := Except.ok.inj h
    exact hd
  | object fields =>
    unfold param at h
    dsimp only at h
    split at h
    · next hname =>
      obtain ⟨origin, -, h⟩ := Result.exists_of_bind_eq_ok h
      obtain ⟨context, -, h⟩ := Result.exists_of_bind_eq_ok h
      obtain rfl := Except.ok.inj h
      exact isJoined_asText (isJoined_field hd hname)
    · cases h
  | _ => cases h

theorem joined_of_params {function : String} {declared : List Param} (hd : d.isJoined = true)
    (h : params function (d.field? name) = .ok declared) : ∀ p ∈ declared, Text.isJoined p.name = true := by
  unfold params at h
  obtain ⟨items, hitems, h⟩ := Result.exists_of_bind_eq_ok h
  split at h
  · cases h
  · cases h
  · intro p hp
    obtain ⟨item, hitem, hparam⟩ := (Result.mem_iff_of_mapM h).1 hp
    exact joined_of_param (isJoined_membersOf hd hitems item hitem) hparam

end Decode

/-! ### Writing -/

theorem forall_mem_fieldIf {present : Bool} {name : String} {value : Document}
    {motive : String × Document → Prop} :
    (∀ field ∈ fieldIf present name value, motive field) ↔ (present = true → motive (name, value)) := by
  cases present <;> simp [fieldIf]

theorem forall_mem_textIfPresent {name : String} {value : Option String} {motive : String × Document → Prop} :
    (∀ field ∈ textIfPresent name value, motive field) ↔ ∀ s, value = some s → motive (name, .text s) := by
  cases value <;> simp [textIfPresent]

def JoinedField (field : String × Document) : Prop :=
  Text.isJoined field.1 = true ∧ field.2.isJoined = true

theorem joinedField_of_plain {name : String} {value : Document} (hname : Text.Plain name)
    (h : value.isJoined = true) : JoinedField (name, value) :=
  ⟨Text.isJoined_of_plain hname, h⟩

theorem isJoined_object {fields : List (String × Document)} (h : ∀ field ∈ fields, JoinedField field) :
    (Document.object fields).isJoined = true :=
  Document.isJoined_object_iff.2 h

theorem isJoined_contexts {κ : Type} (name : κ → String) {entries : List (κ × List Context)}
    (h : ∀ entry ∈ entries, Text.isJoined (name entry.1) = true) :
    (Document.object (entries.map fun entry => (name entry.1, contextsDocument entry.2))).isJoined = true :=
  Document.isJoined_object_iff.2 (List.forall_mem_map.2 fun entry hentry =>
    ⟨h entry hentry, Document.isJoined_contextsDocument entry.2⟩)

theorem Node.Joined.isJoined_toDocument {n : Node} (h : n.Joined) {id : String}
    (hid : Text.isJoined id = true) : (n.toDocument id).isJoined = true := by
  have hkind : Text.isJoined n.kind.name = true := by cases n.kind <;> decide
  have hargs : (Document.list (n.args.map .ofText?)).isJoined = true := by
    refine Document.isJoined_list_iff.2 (List.forall_mem_map.2 fun arg harg => ?_)
    cases arg with
    | none => rfl
    | some s => exact h.args _ harg s rfl
  have hembeds := isJoined_contexts (fun slot : String => slot)
    fun entry (hentry : entry ∈ n.embeds.entries) => h.embeds entry.1 (List.mem_map_of_mem hentry)
  have henclosing := isJoined_contexts (fun i : Int => toString i)
    fun entry (_ : entry ∈ n.enclosing.entries) => Text.isJoined_of_plain (Text.plain_whole entry.1)
  have hfield : ∀ {name : String} {value : Document}, Text.Plain name → value.isJoined = true →
      JoinedField (name, value) := joinedField_of_plain
  refine isJoined_object ?_
  simp only [unlessNull, ifTruthy, List.forall_mem_append, List.forall_mem_cons, forall_mem_fieldIf,
    and_assoc]
  exact ⟨hfield (by decide) hid, hfield (by decide) hkind,
    hfield (by decide) (Document.isJoined_ofTexts h.succ), List.forall_mem_nil _,
    fun _ => hfield (by decide) h.target, fun _ => hfield (by decide) (Document.isJoined_ofTexts h.operands),
    fun _ => hfield (by decide) hembeds, fun _ => hfield (by decide) h.operator,
    fun _ => hfield (by decide) h.api, fun _ => hfield (by decide) h.callee, fun _ => hfield (by decide) rfl,
    fun _ => hfield (by decide) hargs, fun _ => hfield (by decide) h.receiver,
    fun _ => hfield (by decide) henclosing, fun _ => hfield (by decide) rfl,
    fun _ => hfield (by decide) h.file⟩

theorem Param.isJoined_toDocument {p : Param} (h : Text.isJoined p.name = true) :
    p.toDocument.isJoined = true := by
  have horigin : ∀ o : Origin, Text.Plain o.name := fun o => by cases o <;> decide
  have hcontext : ∀ c : Context, Text.Plain c.name := fun c => by cases c <;> decide
  have hname : ∀ {α : Type} {write : α → String} (value : Option α), (∀ a, Text.Plain (write a)) →
      ∀ s, value.map write = some s → (Document.text s).isJoined = true := by
    intro α write value hplain s hs
    obtain ⟨a, -, rfl⟩ := Option.map_eq_some_iff.1 hs
    exact Text.isJoined_of_plain (hplain a)
  refine isJoined_object ?_
  simp only [List.forall_mem_append, List.forall_mem_cons, forall_mem_fieldIf, forall_mem_textIfPresent,
    and_assoc]
  exact ⟨joinedField_of_plain (by decide) h, List.forall_mem_nil _,
    fun s hs => joinedField_of_plain (by decide) (hname p.origin horigin s hs),
    fun _ => joinedField_of_plain (by decide) rfl,
    fun s hs => joinedField_of_plain (by decide) (hname p.context hcontext s hs)⟩

/-- **A function that is read from a joined document is written as one.** -/
theorem Function.isJoined_toDocument {d : Document} {f : Function} (hd : d.isJoined = true)
    (h : ofDocument d = .ok f) : f.toDocument.isJoined = true := by
  cases d with
  | object fields =>
    have hget : ∀ name, (Document.object fields).get? name = .ok (fields.lookup name) := fun _ => rfl
    unfold ofDocument at h
    simp only [hget, Result.ok_bind] at h
    split at h
    · cases h
    obtain ⟨nodes, hnodes, h⟩ := Result.exists_of_bind_eq_ok h
    obtain ⟨params, hparams, h⟩ := Result.exists_of_bind_eq_ok h
    obtain rfl := Except.ok.inj h
    obtain ⟨ds, hds, hread⟩ := Decode.of_nodes hnodes
    have hjoined : ∀ entry ∈ nodes.entries, Text.isJoined entry.1 = true ∧ entry.2.Joined := by
      intro entry hentry
      obtain ⟨node, hnode, hentry⟩ := hread entry hentry
      exact Decode.joined_of_node (isJoined_membersOf hd hds node hnode) hentry
    have hid : Text.isJoined ((fields.lookup "id").getD (.text "")).asText = true :=
      isJoined_asText (isJoined_getD hd rfl)
    have hfirst : Text.isJoined (nodes.keys.headD "") = true := by
      cases hkeys : nodes.keys with
      | nil => rfl
      | cons key rest =>
        obtain ⟨entry, hentry, hkey⟩ := List.mem_map.1 (show key ∈ nodes.keys from hkeys ▸ List.mem_cons_self)
        exact hkey ▸ (hjoined entry hentry).1
    refine isJoined_object ?_
    simp only [ifTruthy, List.forall_mem_append, List.forall_mem_cons, forall_mem_fieldIf, and_assoc]
    refine ⟨joinedField_of_plain (by decide) hid, joinedField_of_plain (by decide) ?entry,
      joinedField_of_plain (by decide) ?params, joinedField_of_plain (by decide) ?nodes, List.forall_mem_nil _,
      fun _ => joinedField_of_plain (by decide) (isJoined_getD hd rfl),
      fun _ => joinedField_of_plain (by decide) rfl,
      fun _ => joinedField_of_plain (by decide) (isJoined_getD hd rfl)⟩
    case entry =>
      rw [Document.isJoined]
      split
      · next hvalue => exact isJoined_asText (isJoined_field hd (Option.eq_some_of_filter_eq_some hvalue))
      · exact hfirst
    case params =>
      exact Document.isJoined_list_iff.2 (List.forall_mem_map.2 fun p hp =>
        Param.isJoined_toDocument (Decode.joined_of_params hd hparams p hp))
    case nodes =>
      exact Document.isJoined_list_iff.2 (List.forall_mem_map.2 fun entry hmem =>
        (hjoined entry hmem).2.isJoined_toDocument (hjoined entry hmem).1)
  | _ => cases h

end TaintFlow
