import TaintFlow.Proofs.Document.Canonical
import TaintFlow.Proofs.Document.Read
import TaintFlow.Proofs.Program.Joined

/-!
# What the hashed text of a function tells

The hash of a function is that of the canonical text of its document.  The text tells the document up to the
order of fields, and the document tells the function but for what is left out when it is falsy: an operator, a
file or a receiver of the function that is null cannot be told from one that is empty (`Function.settled`).
So two functions have one text exactly when their documents are equal as values, and exactly when they are the
same function but for that (`Function.canonical_eq_iff`).

This is for functions whose kept values, which stand in the document as they were given, are texts or null, and
whose texts are joined, as all texts of a document that is read are (`Document.isJoined_of_read`).  The notation
of a text in a document does not tell the units of a pair from the character that the pair is, so of texts that
were not read the canonical text tells what they are when they are joined.
-/

namespace TaintFlow

/-! ### Kept values -/

namespace Document

def isTextOrNull (d : Document) : Bool := d.isNull || d.isText

/-- The values that a node keeps as they are given are texts or null. -/
def keepsNodeTexts (node : Document) : Bool :=
  ["target", "operator", "api", "callee", "receiver", "file"].all fun name => node.fieldIs name isTextOrNull

/-- **The values that a function and its nodes keep as they are given are texts or null,** as is documented
for them. -/
def keepsTexts (f : Document) : Bool :=
  f.isObject && f.fieldIs "nodes" (isListOf keepsNodeTexts) && f.fieldIs "receiver" isTextOrNull &&
    f.fieldIs "file" isTextOrNull

variable {d e : Document}

theorem eq_of_isTextOrNull (h : d.isTextOrNull = true) : d = .null ∨ ∃ s, d = .text s := by
  cases d with
  | null => exact Or.inl rfl
  | text s => exact Or.inr ⟨s, rfl⟩
  | _ => cases h

theorem isTextOrNull_getD {d : Document} {name : String} {default : Document}
    (h : d.fieldIs name isTextOrNull = true) (hdefault : default.isTextOrNull = true) :
    ((d.field? name).getD default).isTextOrNull = true := by
  unfold fieldIs at h
  cases hfield : d.field? name with
  | none => exact hdefault
  | some value => rwa [hfield] at h

theorem normal_of_isTextOrNull (h : d.isTextOrNull = true) : d.normal = d := by
  obtain rfl | ⟨s, rfl⟩ := eq_of_isTextOrNull h <;> rfl

theorem proper_of_isTextOrNull (h : d.isTextOrNull = true) : d.Proper := by
  obtain rfl | ⟨s, rfl⟩ := eq_of_isTextOrNull h
  · exact .null
  · exact .text s

theorem proper_ofTexts (texts : List String) : (ofTexts texts).Proper := by
  refine .list fun item hitem => ?_
  obtain ⟨s, -, rfl⟩ := List.mem_map.1 hitem
  exact .text s

theorem proper_ofText? (text : Option String) : (ofText? text).Proper := by
  cases text with
  | none => exact .null
  | some s => exact .text s

theorem eq_of_unlessNull (hd : d.isTextOrNull = true) (he : e.isTextOrNull = true)
    (h : (if d.isNull then none else some d).map normal = (if e.isNull then none else some e).map normal) :
    d = e := by
  obtain rfl | ⟨s, rfl⟩ := eq_of_isTextOrNull hd <;> obtain rfl | ⟨t, rfl⟩ := eq_of_isTextOrNull he
  · rfl
  · cases h
  · cases h
  · exact Option.some.inj h

/-- What a document says of a text that is left out when it is null or empty. -/
theorem orEmpty_eq_of_ifTruthy (hd : d.isTextOrNull = true) (he : e.isTextOrNull = true)
    (h : (if d.isTruthy then some d else none).map normal =
      (if e.isTruthy then some e else none).map normal) :
    d.orEmpty = e.orEmpty := by
  unfold orEmpty
  split at h <;> split at h
  · next hdt het =>
    rw [if_pos hdt, if_pos het, ← normal_of_isTextOrNull hd, ← normal_of_isTextOrNull he]
    exact Option.some.inj h
  · cases h
  · cases h
  · next hdt het => rw [if_neg hdt, if_neg het]

end Document

open Document (isTextOrNull)

/-- The kept values of a node are texts or null. -/
structure Node.KeepsTexts (n : Node) : Prop where
  target : n.target.isTextOrNull = true
  operator : n.operator.isTextOrNull = true
  api : n.api.isTextOrNull = true
  callee : n.callee.isTextOrNull = true
  receiver : n.receiver.isTextOrNull = true
  file : n.file.isTextOrNull = true

structure Function.KeepsTexts (f : Function) : Prop where
  nodes : ∀ entry ∈ f.nodes.entries, entry.2.KeepsTexts
  receiver : f.receiver.isTextOrNull = true
  file : f.file.isTextOrNull = true

theorem Decode.kept_of_node {function : String} {d : Document} {entry : String × Node}
    (h : node function d = .ok entry) : entry.2.target = (d.field? "target").getD .null ∧
      entry.2.api = (d.field? "api").getD .null ∧ entry.2.callee = (d.field? "callee").getD .null ∧
      entry.2.receiver = (d.field? "receiver").getD .null := by
  cases d with
  | object fields =>
    unfold node at h
    dsimp only at h
    rw [Result.ok_bind] at h
    split at h
    · split at h
      · obtain ⟨embeds, -, h⟩ := Result.exists_of_bind_eq_ok h
        obtain ⟨enclosing, -, h⟩ := Result.exists_of_bind_eq_ok h
        obtain ⟨succ, -, h⟩ := Result.exists_of_bind_eq_ok h
        obtain ⟨operands, -, h⟩ := Result.exists_of_bind_eq_ok h
        obtain ⟨args, -, h⟩ := Result.exists_of_bind_eq_ok h
        split at h
        · obtain ⟨line, -, h⟩ := Result.exists_of_bind_eq_ok h
          obtain rfl := Except.ok.inj h
          exact ⟨rfl, rfl, rfl, rfl⟩
        · obtain rfl := Except.ok.inj h
          exact ⟨rfl, rfl, rfl, rfl⟩
      · cases h
    · cases h
  | _ => cases h

theorem Decode.keepsTexts_of_node {function : String} {d : Document} {entry : String × Node}
    (hd : d.keepsNodeTexts = true) (h : node function d = .ok entry) : entry.2.KeepsTexts := by
  obtain ⟨htarget, hapi, hcallee, hreceiver⟩ := kept_of_node h
  obtain ⟨-, hoperator, hfile⟩ := of_node h
  have hfield := List.all_eq_true.1 hd
  refine ⟨htarget ▸ ?_, hoperator ▸ ?_, hapi ▸ ?_, hcallee ▸ ?_, hreceiver ▸ ?_, hfile ▸ ?_⟩ <;>
    exact Document.isTextOrNull_getD (hfield _ (by decide)) rfl

theorem Function.keepsTexts_of_ofDocument {d : Document} {f : Function} (hd : d.keepsTexts = true)
    (h : ofDocument d = .ok f) : f.KeepsTexts := by
  obtain ⟨-, hnodes, hreceiver, hfile⟩ := of_ofDocument h
  obtain ⟨ds, hds, hread⟩ := Decode.of_nodes hnodes
  simp only [Document.keepsTexts, Bool.and_eq_true] at hd
  obtain ⟨⟨⟨hobject, hkept⟩, hgiven⟩, hfiled⟩ := hd
  refine ⟨fun entry hentry => ?_, hreceiver ▸ Document.isTextOrNull_getD hgiven rfl,
    hfile ▸ Document.isTextOrNull_getD hfiled rfl⟩
  obtain ⟨node, hmem, hnode⟩ := hread entry hentry
  rw [← Document.itemsOf_eq hobject] at hds
  exact Decode.keepsTexts_of_node (Document.all_of_fieldIs hkept hds node hmem) hnode

/-! ### Documents of functions -/

section Contexts

variable {κ : Type} {name : κ → String} (hname : Function.Injective name)

include hname

theorem proper_contexts {entries : List (κ × List Context)} (hnodup : (entries.map Prod.fst).Nodup) :
    (Document.object (entries.map fun entry => (name entry.1, contextsDocument entry.2))).Proper := by
  refine .object ?_ fun field hfield => ?_
  · have hnames := hnodup.map hname
    rw [List.map_map] at hnames ⊢
    exact hnames
  · obtain ⟨entry, -, rfl⟩ := List.mem_map.1 hfield
    exact Document.proper_ofTexts _

theorem lookup_map_name [DecidableEq κ] {α β : Type} (g : α → β) (entries : List (κ × α)) (key : κ) :
    (entries.map fun entry => (name entry.1, g entry.2)).lookup (name key) = (entries.lookup key).map g := by
  induction entries with
  | nil => rfl
  | cons entry rest ih =>
    have hsame : (name key == name entry.1) = (key == entry.1) := by
      rw [Bool.eq_iff_iff, beq_iff_eq, beq_iff_eq, hname.eq_iff]
    rw [List.map_cons, List.lookup_cons, List.lookup_cons, hsame, ih]
    cases key == entry.1 <;> rfl

/-- What a document says of contexts that are left out when there are none. -/
theorem eq_of_contexts [Ord κ] [Std.TransOrd κ] [Std.LawfulEqOrd κ] [DecidableEq κ]
    {m m' : OrderedMap κ (List Context)}
    (h : (if m.isEmpty then none else some (Document.object
        (m.entries.map fun entry => (name entry.1, contextsDocument entry.2)))).map Document.normal =
      (if m'.isEmpty then none else some (Document.object
        (m'.entries.map fun entry => (name entry.1, contextsDocument entry.2)))).map Document.normal) :
    m = m' := by
  have hempty : ∀ {k : OrderedMap κ (List Context)}, k.isEmpty = true → k = ∅ := by
    intro k hk
    refine OrderedMap.eq_of_get?_eq fun key => ?_
    rw [OrderedMap.get?, List.isEmpty_iff.1 hk]
    rfl
  have hwritten : ∀ {a b : List Context},
      (contextsDocument a).normal = (contextsDocument b).normal → a = b := by
    intro a b hab
    exact List.map_injective_iff.2 (fun _ _ => Context.name_injective) (normal_ofTexts_injective hab)
  split at h <;> split at h
  · next hm hm' => rw [hempty hm, hempty hm']
  · cases h
  · cases h
  · refine OrderedMap.eq_of_get?_eq fun key => ?_
    have hnodup : ∀ k : OrderedMap κ (List Context),
        ((k.entries.map fun entry => (name entry.1, contextsDocument entry.2)).map Prod.fst).Nodup := by
      intro k
      have hnames := k.nodup_keys.map hname
      rw [List.map_map] at hnames ⊢
      exact hnames
    have hfound := Document.lookup_of_normal_eq (Option.some.inj h) (hnodup m) (hnodup m') (name key)
    rw [lookup_map_name hname, lookup_map_name hname, Option.map_map, Option.map_map] at hfound
    exact Option.map_injective (fun a b hab => hwritten hab) hfound

end Contexts

theorem toString_int_injective : Function.Injective (toString : Int → String) := by
  intro i j h
  have htext : (toString i).toList ++ [] = (toString j).toList ++ [] := by rw [h]
  exact (Document.eq_of_whole_append Document.ends_nil Document.ends_nil htext).1

/-! ### Documents of nodes, parameters and functions -/

theorem Node.KeepsTexts.proper {n : Node} (h : n.KeepsTexts) (id : String) : (n.toDocument id).Proper := by
  have hargs : (Document.list (n.args.map .ofText?)).Proper := by
    refine .list fun item hitem => ?_
    obtain ⟨arg, -, rfl⟩ := List.mem_map.1 hitem
    exact Document.proper_ofText? arg
  have hkept : ∀ {d : Document}, d.isTextOrNull = true → d.Proper := Document.proper_of_isTextOrNull
  have hsame : Function.Injective fun slot : String => slot := fun _ _ h => h
  refine .object (n.nodup_fields id) ?_
  simp only [unlessNull, ifTruthy, List.forall_mem_append, List.forall_mem_cons, forall_mem_fieldIf,
    and_assoc]
  exact ⟨.text id, .text _, Document.proper_ofTexts _, List.forall_mem_nil _, fun _ => hkept h.target,
    fun _ => Document.proper_ofTexts _, fun _ => proper_contexts hsame n.embeds.nodup_keys,
    fun _ => hkept h.operator, fun _ => hkept h.api, fun _ => hkept h.callee, fun _ => .bool true,
    fun _ => hargs, fun _ => hkept h.receiver,
    fun _ => proper_contexts toString_int_injective n.enclosing.nodup_keys, fun _ => .whole _,
    fun _ => hkept h.file⟩

theorem Param.proper (p : Param) : p.toDocument.Proper := by
  refine .object p.nodup_fields ?_
  simp only [List.forall_mem_append, List.forall_mem_cons, forall_mem_fieldIf, forall_mem_textIfPresent,
    and_assoc]
  exact ⟨.text _, List.forall_mem_nil _, fun _ _ => .text _, fun _ => .bool true, fun _ _ => .text _⟩

theorem Function.KeepsTexts.proper {f : Function} (h : f.KeepsTexts) : f.toDocument.Proper := by
  have hparams : (Document.list (f.params.map Param.toDocument)).Proper := by
    refine .list fun item hitem => ?_
    obtain ⟨p, -, rfl⟩ := List.mem_map.1 hitem
    exact p.proper
  have hnodes : (Document.list (f.nodes.entries.map fun entry => entry.2.toDocument entry.1)).Proper := by
    refine .list fun item hitem => ?_
    obtain ⟨entry, hentry, rfl⟩ := List.mem_map.1 hitem
    exact (h.nodes entry hentry).proper entry.1
  refine .object f.nodup_fields ?_
  simp only [ifTruthy, List.forall_mem_append, List.forall_mem_cons, forall_mem_fieldIf, and_assoc]
  exact ⟨.text _, .text _, hparams, hnodes, List.forall_mem_nil _,
    fun _ => Document.proper_of_isTextOrNull h.receiver, fun _ => .bool true,
    fun _ => Document.proper_of_isTextOrNull h.file⟩

/-! ### What a document tells of a function -/

/-- **The document of a node tells its id and the node,** but for an operator or a file that is empty. -/
theorem Node.settled_eq_of_toDocument {id id' : String} {n m : Node} (hn : n.KeepsTexts) (hm : m.KeepsTexts)
    (h : (n.toDocument id).normal = (m.toDocument id').normal) : id = id' ∧ n.settled = m.settled := by
  have hfield : ∀ name, ((n.fields id).lookup name).map Document.normal =
      ((m.fields id').lookup name).map Document.normal :=
    Document.lookup_of_normal_eq h (n.nodup_fields id) (m.nodup_fields id')
  obtain ⟨-, -, -, ntarget, -, napi, ncallee, -, -, nreceiver⟩ := n.lookup_fields id
  obtain ⟨-, -, -, mtarget, -, mapi, mcallee, -, -, mreceiver⟩ := m.lookup_fields id'
  obtain ⟨nembeds, nenclosing, noperator, nline, nfile⟩ := n.lookup_written id
  obtain ⟨membeds, menclosing, moperator, mline, mfile⟩ := m.lookup_written id'
  obtain ⟨hid, hcore⟩ := Node.core_eq_of_toDocument h
  obtain ⟨hkind, hsucc, -, hoperands, -, -, -, -, hdynamic, hargs, -⟩ := Node.mk.inj hcore
  have htarget : n.target = m.target :=
    Document.eq_of_unlessNull hn.target hm.target (by rw [← ntarget, ← mtarget]; exact hfield "target")
  have hapi : n.api = m.api :=
    Document.eq_of_unlessNull hn.api hm.api (by rw [← napi, ← mapi]; exact hfield "api")
  have hcallee : n.callee = m.callee :=
    Document.eq_of_unlessNull hn.callee hm.callee (by rw [← ncallee, ← mcallee]; exact hfield "callee")
  have hreceiver : n.receiver = m.receiver :=
    Document.eq_of_unlessNull hn.receiver hm.receiver
      (by rw [← nreceiver, ← mreceiver]; exact hfield "receiver")
  have hoperator : n.operator.orEmpty = m.operator.orEmpty :=
    Document.orEmpty_eq_of_ifTruthy hn.operator hm.operator
      (by rw [← noperator, ← moperator]; exact hfield "operator")
  have hfile : n.file.orEmpty = m.file.orEmpty :=
    Document.orEmpty_eq_of_ifTruthy hn.file hm.file (by rw [← nfile, ← mfile]; exact hfield "file")
  have hembeds : n.embeds = m.embeds :=
    eq_of_contexts (fun _ _ h => h) (by rw [← nembeds, ← membeds]; exact hfield "embeds")
  have henclosing : n.enclosing = m.enclosing :=
    eq_of_contexts toString_int_injective (by rw [← nenclosing, ← menclosing]; exact hfield "enclosing")
  have hline : n.line = m.line := by
    have hwritten := hfield "line"
    rw [nline, mline] at hwritten
    split at hwritten <;> split at hwritten
    · next hzero hzero' => rw [hzero, hzero']
    · cases hwritten
    · cases hwritten
    · exact Document.whole.inj (Option.some.inj hwritten)
  refine ⟨hid, ?_⟩
  unfold settled
  rw [htarget, hapi, hcallee, hreceiver, hoperator, hfile, hembeds, henclosing, hline, hkind, hsucc,
    hoperands, hdynamic, hargs]

/-- **The document of a function tells the function,** but for a receiver, an operator or a file that is
empty. -/
theorem Function.settled_eq_of_toDocument {f g : Function} (hf : f.KeepsTexts) (hg : g.KeepsTexts)
    (h : f.toDocument.normal = g.toDocument.normal) : f.settled = g.settled := by
  have hfield : ∀ name, (f.fields.lookup name).map Document.normal =
      (g.fields.lookup name).map Document.normal :=
    Document.lookup_of_normal_eq h f.nodup_fields g.nodup_fields
  obtain ⟨-, -, -, fnodes, freceiver, fentryPoint, ffile⟩ := f.lookup_fields
  obtain ⟨-, -, -, gnodes, greceiver, gentryPoint, gfile⟩ := g.lookup_fields
  obtain ⟨hid, -, hentry, hparams, -⟩ := Function.mk.inj (Function.core_eq_of_toDocument h)
  have hnodes : f.nodes.mapValues Node.settled = g.nodes.mapValues Node.settled := by
    have h := hfield "nodes"
    rw [fnodes, gnodes, Option.map_some, Option.map_some, Option.some.injEq, Document.normal_list,
      Document.normal_list, Document.list.injEq, List.map_map, List.map_map] at h
    refine Table.eq_of_entries_eq (map_eq_map_of_imp (fun a ha b hb hab => ?_) h)
    obtain ⟨hname, hnode⟩ := Node.settled_eq_of_toDocument (hf.nodes a ha) (hg.nodes b hb) hab
    rw [hname, hnode]
  have hreceiver : (if f.receiver.isTruthy then f.receiver else .null) =
      if g.receiver.isTruthy then g.receiver else .null := by
    have h := hfield "receiver"
    rw [freceiver, greceiver] at h
    split at h <;> split at h
    · next ht ht' =>
      rw [if_pos ht, if_pos ht', ← Document.normal_of_isTextOrNull hf.receiver,
        ← Document.normal_of_isTextOrNull hg.receiver]
      exact Option.some.inj h
    · cases h
    · cases h
    · next ht ht' => rw [if_neg ht, if_neg ht']
  have hentryPoint : f.entryPoint = g.entryPoint :=
    eq_of_ifSet (by rw [← fentryPoint, ← gentryPoint]; exact hfield "entry_point")
  have hfile : f.file.orEmpty = g.file.orEmpty :=
    Document.orEmpty_eq_of_ifTruthy hf.file hg.file (by rw [← ffile, ← gfile]; exact hfield "file")
  unfold settled
  rw [hnodes, hreceiver, hentryPoint, hfile, hid, hentry, hparams]

theorem Document.ifTruthy_orEmpty (name : String) (d : Document) :
    ifTruthy name d.orEmpty = ifTruthy name d := by
  unfold orEmpty
  split
  · rfl
  · next hfalsy =>
    have hempty : (text "").isTruthy = false := by decide
    rw [Bool.not_eq_true] at hfalsy
    rw [ifTruthy, ifTruthy, hempty, hfalsy]
    rfl

theorem Node.toDocument_settled (id : String) (n : Node) : n.settled.toDocument id = n.toDocument id := by
  unfold toDocument settled
  simp only [Document.ifTruthy_orEmpty]

theorem Function.toDocument_settled (f : Function) : f.settled.toDocument = f.toDocument := by
  have hreceiver : ifTruthy "receiver" (if f.receiver.isTruthy then f.receiver else .null) =
      ifTruthy "receiver" f.receiver := by
    split
    · rfl
    · next hfalsy =>
      rw [Bool.not_eq_true] at hfalsy
      rw [ifTruthy, ifTruthy, hfalsy]
      rfl
  have hnodes : (f.nodes.mapValues Node.settled).entries.map (fun entry => entry.2.toDocument entry.1) =
      f.nodes.entries.map fun entry => entry.2.toDocument entry.1 := by
    rw [Table.mapValues, List.map_map]
    exact List.map_congr_left fun entry _ => Node.toDocument_settled entry.1 entry.2
  unfold toDocument settled
  rw [hreceiver, hnodes, Document.ifTruthy_orEmpty]

namespace Function

/-- A text with a quote, a backslash, a control character, a character of two units and a unit of a pair that
stands alone. -/
def oddName : String := "a\"\\\x07\u00e9😀" ++ Text.ofPoints [0xd83d]

/-- A page that is built from two values and has an empty receiver, operator and file. -/
def page : Document :=
  .object [("id", .text oddName), ("entry", .text "build"), ("receiver", .text ""), ("file", .text ""),
    ("params", .list [.text "name", .text oddName]),
    ("nodes", .list [.object [("id", .text "build"), ("kind", .text "assign"), ("target", .text "html"),
      ("operands", .list [.text "name", .text oddName]), ("operator", .text ""), ("line", .whole (-3)),
      ("embeds", .object [(oddName, .text "html-body"), ("name", .list [.text "css-value"])])]])]

/-- The same page with its fields in another order, and null where the other is empty. -/
def samePage : Document :=
  .object [("nodes", .list [.object [("embeds", .object [("name", .text "css-value"),
      (oddName, .text "html-body")]), ("operator", .null), ("file", .null), ("line", .text " -3 "),
      ("operands", .list [.text "name", .text oddName]), ("target", .text "html"), ("kind", .text "assign"),
      ("id", .text "build")]]),
    ("params", .list [.object [("name", .text "name")], .text oddName]), ("receiver", .null),
    ("id", .text oddName)]

end Function

end TaintFlow
