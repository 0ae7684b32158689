import Mathlib.Data.List.Perm.Basic
import TaintFlow.Program.Encode
import TaintFlow.Proofs.Flow.Core

/-!
# Functions with the same document

Two documents that differ in the order of fields say the same, and have the same canonical text.  From
what the document of a function says, its core can be told (`core_eq_of_toDocument`): so functions with
the same document have the same analyses.
-/

namespace TaintFlow

namespace Document

mutual

/-- The document with all fields in increasing order of their names. -/
def normal : Document → Document
  | .list items => .list (normalItems items)
  | .object fields => .object (sortFields (normalFields fields))
  | d => d

def normalItems : List Document → List Document
  | [] => []
  | item :: rest => item.normal :: normalItems rest

def normalFields : List (String × Document) → List (String × Document)
  | [] => []
  | (name, value) :: rest => (name, value.normal) :: normalFields rest

end

theorem normalItems_eq (items : List Document) : normalItems items = items.map normal := by
  induction items with
  | nil => rw [normalItems, List.map_nil]
  | cons item rest ih => rw [normalItems, ih, List.map_cons]

theorem normalFields_eq (fields : List (String × Document)) :
    normalFields fields = fields.map (fun field => (field.1, field.2.normal)) := by
  induction fields with
  | nil => rw [normalFields, List.map_nil]
  | cons field rest ih => rw [normalFields, ih, List.map_cons]

theorem normal_list (items : List Document) : (list items).normal = .list (items.map normal) := by
  rw [normal, normalItems_eq]

theorem normal_ofTexts (texts : List String) : (ofTexts texts).normal = ofTexts texts := by
  rw [ofTexts, normal_list, List.map_map]
  simp [Function.comp_def, normal]

theorem normal_ofText? (text : Option String) : (ofText? text).normal = ofText? text := by
  cases text <;> simp [ofText?, normal]

theorem perm_sortFields {α : Type} (fields : List (String × α)) : (sortFields fields).Perm fields :=
  List.mergeSort_perm _ _

theorem field?_normal {fields : List (String × Document)} (h : (fields.map Prod.fst).Nodup)
    (name : String) : (object fields).normal.field? name = (fields.lookup name).map normal := by
  have hperm := perm_sortFields (normalFields fields)
  have hkeys : (normalFields fields).map Prod.fst = fields.map Prod.fst := by
    rw [normalFields_eq, List.map_map]
    rfl
  have hnodup : ((normalFields fields).map Prod.fst).Nodup := hkeys ▸ h
  have hsorted : ((sortFields (normalFields fields)).map Prod.fst).Nodup :=
    (hperm.map Prod.fst).nodup_iff.2 hnodup
  rw [← lookup_map_snd, ← normalFields_eq, normal, field?]
  refine Option.ext fun d => ?_
  rw [← mem_iff_lookup_eq_some hsorted, ← mem_iff_lookup_eq_some hnodup]
  exact hperm.mem_iff

theorem outline_normal (d : Document) : d.normal.outline = d.outline := by
  cases d with
  | list items => cases items <;> simp [normal_list, outline]
  | object fields =>
    have hempty : (sortFields (normalFields fields)).isEmpty = fields.isEmpty := by
      rw [Bool.eq_iff_iff, List.isEmpty_iff_length_eq_zero, List.isEmpty_iff_length_eq_zero,
        (perm_sortFields _).length_eq, normalFields_eq, List.length_map]
    rw [normal, outline, outline, hempty]
  | _ => simp [normal]

end Document

/-! ### Reading fields back -/

theorem lookup_fieldIf (present : Bool) (name other : String) (value : Document) :
    (fieldIf present name value).lookup other =
      if other = name ∧ present = true then some value else none := by
  cases present <;> by_cases h : other = name <;> simp [fieldIf, h, List.lookup_cons, beq_eq_false_iff_ne.2]

theorem lookup_textIfPresent (name other : String) (value : Option String) :
    (textIfPresent name value).lookup other =
      if other = name then value.map Document.text else none := by
  cases value <;> by_cases h : other = name <;>
    simp [textIfPresent, h, List.lookup_cons, beq_eq_false_iff_ne.2]

theorem Document.lookup_of_normal_eq {fields fields' : List (String × Document)}
    (h : (Document.object fields).normal = (Document.object fields').normal)
    (hnodup : (fields.map Prod.fst).Nodup) (hnodup' : (fields'.map Prod.fst).Nodup) (name : String) :
    (fields.lookup name).map normal = (fields'.lookup name).map normal := by
  rw [← field?_normal hnodup, ← field?_normal hnodup', h]

theorem sublist_fieldIf (present : Bool) (name : String) (value : Document) :
    ((fieldIf present name value).map Prod.fst).Sublist [name] := by
  cases present
  · exact List.nil_sublist _
  · exact List.Sublist.refl _

theorem sublist_textIfPresent (name : String) (value : Option String) :
    ((textIfPresent name value).map Prod.fst).Sublist [name] := by
  cases value
  · exact List.nil_sublist _
  · exact List.Sublist.refl _

theorem NodeKind.name_injective {a b : NodeKind} (h : a.name = b.name) : a = b := by
  cases a <;> cases b <;> first | rfl | exact absurd h (by decide)

theorem outline_eq_of_unlessNull {d e : Document}
    (h : (if d.isNull then none else some d).map Document.normal =
      (if e.isNull then none else some e).map Document.normal) : d.outline = e.outline := by
  have hnull : ∀ {d : Document}, d.isNull = true → d = .null := by
    intro d h
    cases d <;> first | rfl | cases h
  split at h <;> split at h
  · next hd he => rw [hnull hd, hnull he]
  · cases h
  · cases h
  · rw [← Document.outline_normal, Option.some.inj h, Document.outline_normal]

theorem eq_of_ifSet {b c : Bool}
    (h : (if b then some (Document.bool true) else none).map Document.normal =
      (if c then some (Document.bool true) else none).map Document.normal) : b = c := by
  cases b <;> cases c <;> first | rfl | cases h

theorem normal_ofTexts_injective {l m : List String}
    (h : (Document.ofTexts l).normal = (Document.ofTexts m).normal) : l = m := by
  rw [Document.normal_ofTexts, Document.normal_ofTexts, Document.ofTexts, Document.ofTexts,
    Document.list.injEq] at h
  exact List.map_injective_iff.2 (fun a b hab => Document.text.inj hab) h

theorem normal_args_injective {l m : List (Option String)}
    (h : (Document.list (l.map Document.ofText?)).normal = (Document.list (m.map Document.ofText?)).normal) :
    l = m := by
  rw [Document.normal_list, Document.normal_list, Document.list.injEq, List.map_map, List.map_map] at h
  refine List.map_injective_iff.2 (fun a b hab => ?_) h
  rw [Function.comp_apply, Function.comp_apply, Document.normal_ofText?, Document.normal_ofText?] at hab
  cases a <;> cases b <;> simp_all [Document.ofText?]

theorem eq_of_unlessEmpty {α : Type} (write : List α → Document) {l m : List α}
    (hwrite : (write l).normal = (write m).normal → l = m)
    (h : (if l = [] then none else some (write l)).map Document.normal =
      (if m = [] then none else some (write m)).map Document.normal) : l = m := by
  split at h <;> split at h
  · next hl hm => rw [hl, hm]
  · cases h
  · cases h
  · exact hwrite (Option.some.inj h)

def Node.fields (id : String) (n : Node) : List (String × Document) :=
  [("id", .text id), ("kind", .text n.kind.name), ("succ", .ofTexts n.succ)]
    ++ unlessNull "target" n.target
    ++ fieldIf (!n.operands.isEmpty) "operands" (.ofTexts n.operands)
    ++ fieldIf (!n.embeds.isEmpty) "embeds"
      (.object (n.embeds.entries.map (fun (slot, cs) => (slot, contextsDocument cs))))
    ++ ifTruthy "operator" n.operator
    ++ unlessNull "api" n.api
    ++ unlessNull "callee" n.callee
    ++ fieldIf n.dynamic "dynamic" (.bool true)
    ++ fieldIf (!n.args.isEmpty) "args" (.list (n.args.map .ofText?))
    ++ unlessNull "receiver" n.receiver
    ++ fieldIf (!n.enclosing.isEmpty) "enclosing"
      (.object (n.enclosing.entries.map (fun (i, cs) => (toString i, contextsDocument cs))))
    ++ fieldIf (n.line ≠ 0) "line" (.whole n.line)
    ++ ifTruthy "file" n.file

theorem Node.nodup_fields (id : String) (n : Node) : ((n.fields id).map Prod.fst).Nodup := by
  have hnames : (["id", "kind", "succ"] ++ ["target"] ++ ["operands"] ++ ["embeds"] ++ ["operator"]
      ++ ["api"] ++ ["callee"] ++ ["dynamic"] ++ ["args"] ++ ["receiver"] ++ ["enclosing"] ++ ["line"]
      ++ ["file"]).Nodup := by decide
  refine hnames.sublist ?_
  simp only [fields, List.map_append]
  repeat' apply List.Sublist.append
  all_goals first | exact sublist_fieldIf _ _ _ | exact List.Sublist.refl _

theorem Node.lookup_fields (id : String) (n : Node) :
    (n.fields id).lookup "id" = some (.text id) ∧
    (n.fields id).lookup "kind" = some (.text n.kind.name) ∧
    (n.fields id).lookup "succ" = some (.ofTexts n.succ) ∧
    (n.fields id).lookup "target" = (if n.target.isNull then none else some n.target) ∧
    (n.fields id).lookup "operands" = (if n.operands = [] then none else some (.ofTexts n.operands)) ∧
    (n.fields id).lookup "api" = (if n.api.isNull then none else some n.api) ∧
    (n.fields id).lookup "callee" = (if n.callee.isNull then none else some n.callee) ∧
    (n.fields id).lookup "dynamic" = (if n.dynamic then some (.bool true) else none) ∧
    (n.fields id).lookup "args" =
      (if n.args = [] then none else some (.list (n.args.map .ofText?))) ∧
    (n.fields id).lookup "receiver" = (if n.receiver.isNull then none else some n.receiver) := by
  refine ⟨?_, ?_, ?_, ?_, ?_, ?_, ?_, ?_, ?_, ?_⟩ <;>
    simp [fields, List.lookup_append, List.lookup_cons, lookup_fieldIf, unlessNull, ifTruthy]
  all_goals split <;> simp_all

/-- **The document of a node tells its id and its core.** -/
theorem Node.core_eq_of_toDocument {id id' : String} {n m : Node}
    (h : (n.toDocument id).normal = (m.toDocument id').normal) : id = id' ∧ n.core = m.core := by
  have hfield : ∀ name, ((n.fields id).lookup name).map Document.normal =
      ((m.fields id').lookup name).map Document.normal :=
    Document.lookup_of_normal_eq h (n.nodup_fields id) (m.nodup_fields id')
  obtain ⟨nid, nkind, nsucc, ntarget, noperands, napi, ncallee, ndynamic, nargs, nreceiver⟩ :=
    n.lookup_fields id
  obtain ⟨mid, mkind, msucc, mtarget, moperands, mapi, mcallee, mdynamic, margs, mreceiver⟩ :=
    m.lookup_fields id'
  have hid : id = id' := by
    simpa [nid, mid, Document.normal] using hfield "id"
  have hkind : n.kind = m.kind := by
    refine NodeKind.name_injective ?_
    simpa [nkind, mkind, Document.normal] using hfield "kind"
  have hsucc : n.succ = m.succ := by
    refine normal_ofTexts_injective ?_
    simpa [nsucc, msucc] using hfield "succ"
  have htarget : n.target.outline = m.target.outline :=
    outline_eq_of_unlessNull (by rw [← ntarget, ← mtarget]; exact hfield "target")
  have hoperands : n.operands = m.operands :=
    eq_of_unlessEmpty _ normal_ofTexts_injective (by rw [← noperands, ← moperands]; exact hfield "operands")
  have hapi : n.api.outline = m.api.outline :=
    outline_eq_of_unlessNull (by rw [← napi, ← mapi]; exact hfield "api")
  have hcallee : n.callee.outline = m.callee.outline :=
    outline_eq_of_unlessNull (by rw [← ncallee, ← mcallee]; exact hfield "callee")
  have hdynamic : n.dynamic = m.dynamic :=
    eq_of_ifSet (by rw [← ndynamic, ← mdynamic]; exact hfield "dynamic")
  have hargs : n.args = m.args :=
    eq_of_unlessEmpty (fun args => .list (args.map .ofText?)) normal_args_injective
      (by rw [← nargs, ← margs]; exact hfield "args")
  have hreceiver : n.receiver.outline = m.receiver.outline :=
    outline_eq_of_unlessNull (by rw [← nreceiver, ← mreceiver]; exact hfield "receiver")
  refine ⟨hid, ?_⟩
  unfold core
  rw [htarget, hapi, hcallee, hreceiver, hkind, hsucc, hoperands, hdynamic, hargs]

/-! ### Parameters and functions -/

def Param.fields (p : Param) : List (String × Document) :=
  [("name", .text p.name)]
    ++ textIfPresent "origin" (p.origin.map Origin.name)
    ++ fieldIf p.out "out" (.bool true)
    ++ textIfPresent "context" (p.context.map Context.name)

theorem Param.nodup_fields (p : Param) : (p.fields.map Prod.fst).Nodup := by
  have hnames : (["name"] ++ ["origin"] ++ ["out"] ++ ["context"]).Nodup := by decide
  refine hnames.sublist ?_
  simp only [fields, List.map_append]
  repeat' apply List.Sublist.append
  all_goals first
    | exact sublist_fieldIf _ _ _
    | exact sublist_textIfPresent _ _
    | exact List.Sublist.refl _

theorem Param.lookup_fields (p : Param) : p.fields.lookup "name" = some (.text p.name) ∧
    p.fields.lookup "origin" = (p.origin.map Origin.name).map .text ∧
    p.fields.lookup "out" = (if p.out then some (.bool true) else none) ∧
    p.fields.lookup "context" = (p.context.map Context.name).map .text := by
  refine ⟨?_, ?_, ?_, ?_⟩ <;>
    simp [fields, List.lookup_append, List.lookup_cons, lookup_fieldIf, lookup_textIfPresent]

theorem Param.eq_of_toDocument {p q : Param} (h : p.toDocument.normal = q.toDocument.normal) :
    p = q := by
  have hfield : ∀ name, (p.fields.lookup name).map Document.normal =
      (q.fields.lookup name).map Document.normal :=
    Document.lookup_of_normal_eq h p.nodup_fields q.nodup_fields
  obtain ⟨pname, porigin, pout, pcontext⟩ := p.lookup_fields
  obtain ⟨qname, qorigin, qout, qcontext⟩ := q.lookup_fields
  have htext : ∀ {α : Type} {name : α → String} (_ : ∀ a b, name a = name b → a = b)
      {a b : Option α}, ((a.map name).map Document.text).map Document.normal =
        ((b.map name).map Document.text).map Document.normal → a = b := by
    intro α name hname a b hab
    cases a <;> cases b <;> simp_all [Document.normal]
    exact hname _ _ hab
  have hname : p.name = q.name := by
    simpa [pname, qname, Document.normal] using hfield "name"
  have horigin : p.origin = q.origin :=
    htext (fun _ _ => Origin.name_injective) (by rw [← porigin, ← qorigin]; exact hfield "origin")
  have hout : p.out = q.out := eq_of_ifSet (by rw [← pout, ← qout]; exact hfield "out")
  have hcontext : p.context = q.context :=
    htext (fun _ _ => Context.name_injective) (by rw [← pcontext, ← qcontext]; exact hfield "context")
  change Param.mk p.name p.origin p.out p.context = Param.mk q.name q.origin q.out q.context
  rw [hname, horigin, hout, hcontext]

def Function.fields (f : Function) : List (String × Document) :=
  [("id", .text f.id), ("entry", .text f.entry),
    ("params", .list (f.params.map Param.toDocument)),
    ("nodes", .list (f.nodes.entries.map (fun (id, node) => node.toDocument id)))]
    ++ ifTruthy "receiver" f.receiver
    ++ fieldIf f.entryPoint "entry_point" (.bool true)
    ++ ifTruthy "file" f.file

theorem Function.nodup_fields (f : Function) : (f.fields.map Prod.fst).Nodup := by
  have hnames : (["id", "entry", "params", "nodes"] ++ ["receiver"] ++ ["entry_point"]
      ++ ["file"]).Nodup := by decide
  refine hnames.sublist ?_
  simp only [fields, List.map_append]
  repeat' apply List.Sublist.append
  all_goals first | exact sublist_fieldIf _ _ _ | exact List.Sublist.refl _

theorem Function.lookup_fields (f : Function) : f.fields.lookup "id" = some (.text f.id) ∧
    f.fields.lookup "entry" = some (.text f.entry) ∧
    f.fields.lookup "params" = some (.list (f.params.map Param.toDocument)) ∧
    f.fields.lookup "nodes" =
      some (.list (f.nodes.entries.map (fun entry => entry.2.toDocument entry.1))) ∧
    f.fields.lookup "receiver" = (if f.receiver.isTruthy then some f.receiver else none) ∧
    f.fields.lookup "entry_point" = (if f.entryPoint then some (.bool true) else none) ∧
    f.fields.lookup "file" = (if f.file.isTruthy then some f.file else none) := by
  refine ⟨?_, ?_, ?_, ?_, ?_, ?_, ?_⟩ <;>
    simp [fields, List.lookup_append, List.lookup_cons, lookup_fieldIf, ifTruthy]

theorem map_eq_map_of_imp {α β γ : Type} {f : α → β} {g : α → γ} {l m : List α}
    (h : ∀ a ∈ l, ∀ b ∈ m, f a = f b → g a = g b) (hlm : l.map f = m.map f) : l.map g = m.map g := by
  induction l generalizing m with
  | nil =>
    rw [List.map_nil, eq_comm, List.map_eq_nil_iff] at hlm
    rw [hlm]
  | cons a rest ih =>
    cases m with
    | nil => cases hlm
    | cons b more =>
      rw [List.map_cons, List.map_cons, List.cons.injEq] at hlm
      have hrest := ih (fun c hc d hd => h c (List.mem_cons_of_mem _ hc) d (List.mem_cons_of_mem _ hd)) hlm.2
      rw [List.map_cons, List.map_cons, h a List.mem_cons_self b List.mem_cons_self hlm.1, hrest]

/-- **What the document of a function says tells its core.** -/
theorem Function.core_eq_of_toDocument {f g : Function} (h : f.toDocument.normal = g.toDocument.normal) :
    f.core = g.core := by
  have hfield : ∀ name, (f.fields.lookup name).map Document.normal =
      (g.fields.lookup name).map Document.normal :=
    Document.lookup_of_normal_eq h f.nodup_fields g.nodup_fields
  obtain ⟨fid, fentry, fparams, fnodes, freceiver, -⟩ := f.lookup_fields
  obtain ⟨gid, gentry, gparams, gnodes, greceiver, -⟩ := g.lookup_fields
  have hid : f.id = g.id := by
    simpa [fid, gid, Document.normal] using hfield "id"
  have hentry : f.entry = g.entry := by
    simpa [fentry, gentry, Document.normal] using hfield "entry"
  have hparams : f.params = g.params := by
    have h := hfield "params"
    rw [fparams, gparams, Option.map_some, Option.map_some, Option.some.injEq, Document.normal_list,
      Document.normal_list, Document.list.injEq, List.map_map, List.map_map] at h
    exact List.map_injective_iff.2 (fun _ _ => Param.eq_of_toDocument) h
  have hnodes : f.nodes.mapValues Node.core = g.nodes.mapValues Node.core := by
    have h := hfield "nodes"
    rw [fnodes, gnodes, Option.map_some, Option.map_some, Option.some.injEq, Document.normal_list,
      Document.normal_list, Document.list.injEq, List.map_map, List.map_map] at h
    have hentries : f.nodes.entries.map (fun entry => (entry.1, entry.2.core)) =
        g.nodes.entries.map (fun entry => (entry.1, entry.2.core)) := by
      refine map_eq_map_of_imp (fun a _ b _ hab => ?_) h
      obtain ⟨hname, hcore⟩ := Node.core_eq_of_toDocument hab
      rw [hname, hcore]
    unfold Table.mapValues
    simp only [hentries]
  have hreceiver : (if f.receiver.isTruthy then f.receiver.outline else .null) =
      if g.receiver.isTruthy then g.receiver.outline else .null := by
    have h := hfield "receiver"
    rw [freceiver, greceiver] at h
    cases hf : f.receiver.isTruthy <;> cases hg : g.receiver.isTruthy <;> rw [hf, hg] at h
    · rfl
    · cases h
    · cases h
    · have hnormal : f.receiver.normal = g.receiver.normal := Option.some.inj h
      rw [if_pos rfl, if_pos rfl, ← Document.outline_normal, hnormal, Document.outline_normal]
  unfold core
  rw [hreceiver, hnodes, hparams, hentry, hid]

end TaintFlow
