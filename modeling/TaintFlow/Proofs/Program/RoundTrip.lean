import TaintFlow.Program.Validate
import TaintFlow.Proofs.Number
import TaintFlow.Proofs.Program.Identity
import TaintFlow.Proofs.Program.Isolation

/-!
# Functions written and read back

What is read from a document can be written as a document again, and is read back from it.  Parts that are
left out when they hold their default are read as their default (`Node.lookup_written`), contexts, origins
and numbers are read as they are written, and tables are filled again in the order of their entries
(`Decode.nodes_toDocument`).  Only what is kept as it was given and is then left out for being falsy comes
back as the default (`Function.settled`): an operator, a file or a receiver that is empty or of another kind.
-/

namespace TaintFlow

open Result (Yields)

/-! ### Names -/

theorem Context.ofDocument_name (c : Context) : Context.ofDocument (.text c.name) = .ok c := by
  cases c <;> decide +kernel

theorem Origin.ofDocument_name (o : Origin) : Origin.ofDocument (.text o.name) = .ok o := by
  cases o <;> decide +kernel

theorem Context.ofDocuments_asList (contexts : List Context) :
    Context.ofDocuments (contextsDocument contexts).asList = .ok contexts := by
  have hread := Result.mapM_map_eq_ok (l := contexts) fun c _ => Context.ofDocument_name c
  rw [List.map_id'] at hread
  rw [contextsDocument, Document.ofTexts, Document.asList, List.map_map]
  exact hread

theorem Decode.kind?_name (kind : NodeKind) : Decode.kind? (some (.text kind.name)) = some kind := by
  cases kind <;> decide +kernel

/-! ### Fields -/

theorem Node.lookup_written (id : String) (n : Node) :
    (n.fields id).lookup "embeds" = (if n.embeds.isEmpty then none else
      some (.object (n.embeds.entries.map (fun (slot, cs) => (slot, contextsDocument cs))))) ∧
    (n.fields id).lookup "enclosing" = (if n.enclosing.isEmpty then none else
      some (.object (n.enclosing.entries.map (fun (i, cs) => (toString i, contextsDocument cs))))) ∧
    (n.fields id).lookup "operator" = (if n.operator.isTruthy then some n.operator else none) ∧
    (n.fields id).lookup "line" = (if n.line = 0 then none else some (.whole n.line)) ∧
    (n.fields id).lookup "file" = (if n.file.isTruthy then some n.file else none) := by
  refine ⟨?_, ?_, ?_, ?_, ?_⟩ <;>
    simp [fields, List.lookup_append, List.lookup_cons, lookup_fieldIf, unlessNull, ifTruthy]
  all_goals split <;> simp_all

/-- Every index that encloses something can be read as it is written. -/
def Node.Legible (n : Node) : Prop := ∀ i ∈ n.enclosing.keys, i.natAbs < 10 ^ digitLimit

/-- A document that is left out when it counts as absent, and is then read as the empty text. -/
def Document.orEmpty (d : Document) : Document := if d.isTruthy then d else .text ""

/-- A node after it was written and read back. -/
def Node.settled (n : Node) : Node := { n with operator := n.operator.orEmpty, file := n.file.orEmpty }

namespace Decode

theorem optionalFields_written (fields : List (String × Document)) :
    optionalFields (if fields.isEmpty then none else some (.object fields)) = .ok fields := by
  cases fields <;> rfl

theorem embeds_written (m : NameMap (List Context)) :
    embeds (if m.isEmpty then none else
      some (.object (m.entries.map (fun (slot, cs) => (slot, contextsDocument cs))))) = .ok m := by
  have hfields := optionalFields_written (m.entries.map (fun (slot, cs) => (slot, contextsDocument cs)))
  rw [List.isEmpty_map] at hfields
  unfold embeds OrderedMap.isEmpty
  rw [hfields, Result.ok_bind]
  refine (Result.foldlM_map_eq_ok (fun entry _ found => ?_) ∅).trans (congrArg _ m.ofList_entries)
  dsimp only
  rw [Context.ofDocuments_asList]
  rfl

theorem toWhole_written {i : Int} (h : i.natAbs < 10 ^ digitLimit) :
    (Document.text (toString i)).toWhole = .ok i := by
  change Document.wholeIn (toString i) = .ok i
  rw [Document.wholeIn, wholeOfText_toString h]

theorem enclosing_written {m : OrderedMap Int (List Context)}
    (h : ∀ i ∈ m.keys, i.natAbs < 10 ^ digitLimit) :
    enclosing (if m.isEmpty then none else
      some (.object (m.entries.map (fun (i, cs) => (toString i, contextsDocument cs))))) = .ok m := by
  have hfields := optionalFields_written (m.entries.map (fun (i, cs) => (toString i, contextsDocument cs)))
  rw [List.isEmpty_map] at hfields
  unfold enclosing OrderedMap.isEmpty
  rw [hfields, Result.ok_bind]
  refine (Result.foldlM_map_eq_ok (fun entry hentry found => ?_) ∅).trans (congrArg _ m.ofList_entries)
  dsimp only
  rw [toWhole_written (h entry.1 (List.mem_map_of_mem hentry)), Result.ok_bind, Context.ofDocuments_asList]
  rfl

theorem texts_ofTexts (written : List String) : texts (some (.ofTexts written)) = .ok written := by
  change Except.ok ((written.map Document.text).map Document.asText) = _
  rw [List.map_map]
  exact congrArg _ (List.map_id written)

theorem texts_written (written : List String) :
    texts (if written = [] then none else some (.ofTexts written)) = .ok written := by
  split
  · next hnil => rw [hnil]; rfl
  · exact texts_ofTexts written

theorem membersOf_written {items : List Document} {α : Type} {args : List α} (h : args = [] → items = []) :
    Document.membersOf (if args = [] then none else some (.list items)) = .ok items := by
  split
  · next hnil => rw [h hnil]; rfl
  · rfl

theorem args_ofText? (args : List (Option String)) :
    (args.map Document.ofText?).map (fun arg => if arg.isNull then none else some arg.asText) = args := by
  rw [List.map_map]
  refine (List.map_congr_left fun arg _ => ?_).trans (List.map_id args)
  cases arg <;> rfl

theorem getD_unlessNull (d : Document) : (if d.isNull then none else some d).getD .null = d := by
  cases d <;> rfl

theorem flag_ifSet (b : Bool) : flag (if b then some (.bool true) else none) = b := by
  cases b <;> rfl

theorem getD_ifTruthy (d : Document) : (if d.isTruthy then some d else none).getD (.text "") = d.orEmpty := by
  unfold Document.orEmpty
  split <;> rfl

/-- **A node is read as it was written.** -/
theorem node_toDocument (function id : String) {n : Node} (h : n.Legible) :
    node function (n.toDocument id) = .ok (id, n.settled) := by
  obtain ⟨hid, hkind, hsucc, htarget, hoperands, hapi, hcallee, hdynamic, hargs, hreceiver⟩ :=
    n.lookup_fields id
  obtain ⟨hembeds, henclosing, hoperator, hline, hfile⟩ := n.lookup_written id
  change node function (.object (n.fields id)) = _
  unfold node
  dsimp only
  rw [Result.ok_bind, hid]
  dsimp only
  rw [hkind, kind?_name]
  dsimp only
  rw [hembeds, embeds_written, henclosing, enclosing_written h, hsucc, texts_ofTexts, hoperands,
    texts_written, hargs, membersOf_written fun hnil => by rw [hnil]; rfl]
  simp only [orMalformed, Result.ok_bind, hline]
  rw [htarget, hapi, hcallee, hreceiver, hdynamic, hoperator, hfile]
  simp only [getD_unlessNull, flag_ifSet, getD_ifTruthy, args_ofText?]
  by_cases hzero : n.line = 0
  · rw [if_pos hzero, Node.settled, hzero]
    rfl
  · rw [if_neg hzero]
    rfl

theorem present?_name {α : Type} {name : α → String} (hname : ∀ a, name a ≠ "") (value : Option α) :
    present? ((value.map name).map .text) = (value.map name).map .text := by
  cases value with
  | none => rfl
  | some a => exact Option.filter_some_pos (by simpa [Document.isTruthy] using hname a)

/-- **A parameter is read as it was written.** -/
theorem param_toDocument (p : Param) : param p.toDocument = .ok p := by
  obtain ⟨hname, horigin, hout, hcontext⟩ := p.lookup_fields
  have hmapM : ∀ {α : Type} {name : α → String} {read : Document → Result α}
      (_ : ∀ a, read (.text (name a)) = .ok a) (value : Option α),
      ((value.map name).map Document.text).mapM read = .ok value := by
    intro α name read hread value
    cases value with
    | none => rfl
    | some a =>
      rw [Option.map_some, Option.map_some, Option.mapM_some, hread]
      rfl
  change param (.object p.fields) = _
  unfold param
  dsimp only
  rw [hname, horigin, hcontext, hout, present?_name (by intro o; cases o <;> decide),
    present?_name (by intro c; cases c <;> decide)]
  dsimp only
  rw [hmapM Origin.ofDocument_name, Result.ok_bind, hmapM Context.ofDocument_name, Result.ok_bind, flag_ifSet]
  rfl

theorem params_toDocument (function : String) (declared : List Param) :
    params function (some (.list (declared.map Param.toDocument))) = .ok declared := by
  have hread := Result.mapM_map_eq_ok (l := declared) fun p _ => param_toDocument p
  rw [List.map_id'] at hread
  unfold params
  rw [Document.membersOf]
  dsimp only [Document.members]
  rw [Result.ok_bind, hread]

theorem addNode_toDocument (function : String) {id : String} {n : Node} {found : Table Node} (h : n.Legible)
    (hnew : id ∉ found.keys) :
    addNode function found (n.toDocument id) = .ok (found.set id n.settled) := by
  have habsent : ¬ found.contains id = true := fun hcontains =>
    hnew (Table.mem_keys_iff.2 (Option.isSome_iff_exists.1 hcontains))
  rw [addNode, node_toDocument function id h, Result.ok_bind]
  exact if_neg habsent

/-- Nodes of other ids are added behind those that were read. -/
theorem foldlM_addNode (function : String) (found : Table Node) {written : List (String × Node)}
    (hnodup : ((found.entries ++ written).map Prod.fst).Nodup)
    (h : ∀ entry ∈ written, entry.2.Legible) :
    ∃ filled, (written.map fun entry => entry.2.toDocument entry.1).foldlM (addNode function) found =
        .ok filled ∧
      filled.entries = found.entries ++ written.map fun entry => (entry.1, entry.2.settled) := by
  induction written generalizing found with
  | nil => exact ⟨found, rfl, (List.append_nil _).symm⟩
  | cons entry rest ih =>
    have hnew : entry.1 ∉ found.keys := fun hmem => by
      rw [List.map_append, List.map_cons] at hnodup
      exact (List.nodup_append.1 hnodup).2.2 _ hmem _ List.mem_cons_self rfl
    have hset : (found.set entry.1 entry.2.settled).entries =
        found.entries ++ [(entry.1, entry.2.settled)] := Table.put_of_not_mem hnew
    obtain ⟨filled, hfilled, hentries⟩ := ih (found.set entry.1 entry.2.settled)
      (by simpa [hset] using hnodup) fun other ho => h other (List.mem_cons_of_mem _ ho)
    refine ⟨filled, ?_, ?_⟩
    · rw [List.map_cons, List.foldlM_cons,
        addNode_toDocument function (h entry List.mem_cons_self) hnew, Result.ok_bind]
      exact hfilled
    · rw [hentries, hset, List.append_assoc]
      rfl

/-- **The nodes of a function are read in the order in which they were written.** -/
theorem nodes_toDocument (function : String) {t : Table Node} (h : ∀ entry ∈ t.entries, entry.2.Legible) :
    nodes function (some (.list (t.entries.map fun entry => entry.2.toDocument entry.1))) =
      .ok (t.mapValues Node.settled) := by
  obtain ⟨filled, hfilled, hentries⟩ := foldlM_addNode function ∅ t.distinct h
  exact hfilled.trans (congrArg _ (Table.eq_of_entries_eq hentries))

end Decode

namespace Function

/-- A function that can be read as it is written. -/
structure Legible (f : Function) : Prop where
  id : f.id ≠ ""
  nodes : ∀ entry ∈ f.nodes.entries, entry.2.Legible

def settled (f : Function) : Function :=
  { f with
    nodes := f.nodes.mapValues Node.settled
    receiver := if f.receiver.isTruthy then f.receiver else .null
    file := f.file.orEmpty }

/-- **A function is read as it was written.** -/
theorem Legible.read_written {f : Function} (h : f.Legible) :
    Function.ofDocument f.toDocument = .ok f.settled := by
  obtain ⟨hid, hentry, hparams, hnodes, hreceiver, hentryPoint, hfile⟩ := f.lookup_fields
  have hget : ∀ name, (Document.object f.fields).get? name = .ok (f.fields.lookup name) := fun _ => rfl
  have hreceiver' : (if f.receiver.isTruthy then some f.receiver else none).getD .null =
      if f.receiver.isTruthy then f.receiver else .null := by
    split <;> rfl
  change Function.ofDocument (.object f.fields) = _
  unfold Function.ofDocument
  simp only [hget, Result.ok_bind, hid, hentry, hparams, hnodes, hreceiver, hentryPoint, hfile,
    Decode.params_toDocument, Decode.flag_ifSet, Decode.getD_ifTruthy, hreceiver', Option.getD_some]
  have hne : (Document.text f.id).asText.isEmpty = false := by simpa [Document.asText] using h.id
  rw [hne, if_neg Bool.false_ne_true, Document.asText, Decode.nodes_toDocument f.id h.nodes]
  rfl

end Function

/-! ### What is read can be written -/

namespace Decode

variable {function : String} {d : Document} {field : Option Document}

theorem natAbs_lt_of_toWhole {s : String} {i : Int} (h : (Document.text s).toWhole = .ok i) :
    i.natAbs < 10 ^ digitLimit := by
  change Document.wholeIn s = .ok i at h
  unfold Document.wholeIn at h
  split at h
  · next n hn =>
    obtain rfl := Except.ok.inj h
    exact natAbs_lt_of_wholeOfText hn
  · cases h
  · cases h

theorem enclosing_lt {m : OrderedMap Int (List Context)} (h : enclosing field = .ok m) :
    ∀ i ∈ m.keys, i.natAbs < 10 ^ digitLimit := by
  obtain ⟨fields, -, h⟩ := Result.exists_of_bind_eq_ok h
  refine Result.foldlM_induction (motive := fun m => ∀ i ∈ m.keys, i.natAbs < 10 ^ digitLimit) h nofun
    fun found entry next _ hfound hnext => ?_
  obtain ⟨index, hindex, hnext⟩ := Result.exists_of_bind_eq_ok hnext
  obtain ⟨contexts, -, hnext⟩ := Result.exists_of_bind_eq_ok hnext
  obtain rfl := Except.ok.inj hnext
  intro i hi
  obtain ⟨value, hvalue⟩ := OrderedMap.mem_keys_iff.1 hi
  rw [OrderedMap.get?_set] at hvalue
  split at hvalue
  · next he => exact he ▸ natAbs_lt_of_toWhole hindex
  · exact hfound i (OrderedMap.mem_keys_iff.2 ⟨value, hvalue⟩)

theorem eq_ok_of_orMalformed {α : Type} {cause : Invalid → Malformed.Cause} {r : Result α} {a : α}
    (h : orMalformed function cause r = .ok a) : r = .ok a := by
  unfold orMalformed at h
  split at h
  · cases h
  · exact h

theorem of_node {entry : String × Node} (h : node function d = .ok entry) :
    enclosing (d.field? "enclosing") = .ok entry.2.enclosing ∧
      entry.2.operator = (d.field? "operator").getD (.text "") ∧
      entry.2.file = (d.field? "file").getD (.text "") := by
  cases d with
  | object fields =>
    unfold node at h
    dsimp only at h
    rw [Result.ok_bind] at h
    split at h
    · split at h
      · obtain ⟨embeds, -, h⟩ := Result.exists_of_bind_eq_ok h
        obtain ⟨enclosing, henclosing, h⟩ := Result.exists_of_bind_eq_ok h
        obtain ⟨succ, -, h⟩ := Result.exists_of_bind_eq_ok h
        obtain ⟨operands, -, h⟩ := Result.exists_of_bind_eq_ok h
        obtain ⟨args, -, h⟩ := Result.exists_of_bind_eq_ok h
        split at h
        · obtain ⟨line, -, h⟩ := Result.exists_of_bind_eq_ok h
          obtain rfl := Except.ok.inj h
          exact ⟨eq_ok_of_orMalformed henclosing, rfl, rfl⟩
        · obtain rfl := Except.ok.inj h
          exact ⟨eq_ok_of_orMalformed henclosing, rfl, rfl⟩
      · cases h
    · cases h
  | _ => cases h

theorem of_nodes {t : Table Node} (h : nodes function field = .ok t) :
    ∃ ds, Document.membersOf field = .ok ds ∧ ∀ entry ∈ t.entries, ∃ d ∈ ds, node function d = .ok entry := by
  rw [nodes_eq] at h
  obtain ⟨ds, hds, h⟩ := Result.exists_of_bind_eq_ok h
  refine ⟨ds, hds, ?_⟩
  refine Result.foldlM_induction
    (motive := fun t : Table Node => ∀ entry ∈ t.entries, ∃ d ∈ ds, node function d = .ok entry) h nofun
    fun found d next hd hfound hnext => ?_
  obtain ⟨⟨id, n⟩, hread, hnext⟩ := Result.exists_of_bind_eq_ok hnext
  split at hnext
  · cases hnext
  · obtain rfl := Except.ok.inj hnext
    rintro ⟨name, value⟩ hentry
    rw [Table.mem_entries_iff, Table.get?_set] at hentry
    split at hentry
    · next he =>
      obtain rfl := he
      obtain rfl := Option.some.inj hentry
      exact ⟨d, hd, hread⟩
    · exact hfound _ (Table.mem_entries_iff.2 hentry)

end Decode

namespace Document

theorem isTruthy_text_iff {s : String} : (text s).isTruthy = true ↔ s ≠ "" := by
  simp [isTruthy]

theorem orEmpty_eq_self {d : Document} (h : d.isText = true) : d.orEmpty = d := by
  cases d with
  | text s =>
    unfold orEmpty
    split
    · rfl
    · next hempty => rw [isTruthy_text_iff, not_not] at hempty; rw [hempty]
  | _ => cases h

theorem isText_getD {d : Document} {name : String} (h : d.fieldIs name isText = true) :
    ((d.field? name).getD (.text "")).isText = true := by
  unfold fieldIs at h
  cases hfield : d.field? name with
  | none => rfl
  | some value => rwa [hfield] at h

theorem itemsOf_eq {d : Document} (h : d.isObject = true) (name : String) :
    d.itemsOf name = membersOf (d.field? name) := by
  cases d with
  | object fields => rfl
  | _ => cases h

end Document

namespace Function

variable {d : Document} {f : Function}

theorem of_ofDocument (h : Function.ofDocument d = .ok f) : f.id ≠ "" ∧
    Decode.nodes f.id (d.field? "nodes") = .ok f.nodes ∧ f.receiver = (d.field? "receiver").getD .null ∧
      f.file = (d.field? "file").getD (.text "") := by
  cases d with
  | object fields =>
    have hget : ∀ name, (Document.object fields).get? name = .ok (fields.lookup name) := fun _ => rfl
    unfold Function.ofDocument at h
    simp only [hget, Result.ok_bind] at h
    split at h
    · cases h
    · next hid =>
      obtain ⟨nodes, hnodes, h⟩ := Result.exists_of_bind_eq_ok h
      obtain ⟨params, -, h⟩ := Result.exists_of_bind_eq_ok h
      obtain rfl := Except.ok.inj h
      exact ⟨by simpa using hid, hnodes, rfl, rfl⟩
  | _ => cases h

/-- What is read from a document can be read as it is written. -/
theorem legible_of_ofDocument (h : Function.ofDocument d = .ok f) : f.Legible := by
  obtain ⟨hid, hnodes, -, -⟩ := of_ofDocument h
  obtain ⟨ds, -, hread⟩ := Decode.of_nodes hnodes
  refine ⟨hid, fun entry hentry => ?_⟩
  obtain ⟨node, -, hnode⟩ := hread entry hentry
  exact Decode.enclosing_lt (Decode.of_node hnode).1

/-- A function whose fields have their types comes back as it was, but for a receiver that is empty. -/
theorem settled_of_isWellTyped (hd : d.isWellTyped = true) (h : Function.ofDocument d = .ok f) :
    f.settled = { f with receiver := if f.receiver = .text "" then .null else f.receiver } := by
  obtain ⟨-, hnodes, hreceiver, hfile⟩ := of_ofDocument h
  obtain ⟨ds, hds, hread⟩ := Decode.of_nodes hnodes
  simp only [Document.isWellTyped, Bool.and_eq_true] at hd
  obtain ⟨⟨⟨⟨hobject, htyped⟩, -⟩, hgiven⟩, hfiled⟩ := hd
  have hnodes : f.nodes.mapValues Node.settled = f.nodes := by
    refine Table.eq_of_entries_eq ((List.map_congr_left fun entry hentry => ?_).trans (List.map_id _))
    obtain ⟨node, hmem, hnode⟩ := hread entry hentry
    rw [← Document.itemsOf_eq hobject] at hds
    obtain ⟨-, hoperator, hfile⟩ := Decode.of_node hnode
    have hnode := Document.all_of_fieldIs htyped hds node hmem
    simp only [Document.isTypedNode, Bool.and_eq_true] at hnode
    rw [Node.settled, Document.orEmpty_eq_self (hoperator ▸ Document.isText_getD hnode.1.2),
      Document.orEmpty_eq_self (hfile ▸ Document.isText_getD hnode.2)]
    rfl
  have hfile : f.file.orEmpty = f.file := Document.orEmpty_eq_self (hfile ▸ Document.isText_getD hfiled)
  have hreceiver : (if f.receiver.isTruthy then f.receiver else .null) =
      if f.receiver = .text "" then .null else f.receiver := by
    rw [hreceiver]
    rw [Document.fieldIs] at hgiven
    cases hfield : d.field? "receiver" with
    | none => rfl
    | some value =>
      rw [hfield] at hgiven
      cases value with
      | null => rfl
      | text s => by_cases hs : s = "" <;> simp [Document.isTruthy_text_iff, hs]
      | _ => exact absurd hgiven Bool.false_ne_true
  rw [settled, hnodes, hfile, hreceiver]

/-- **A function that is read from a document can be written and read back:** it comes back as it was, but
for a receiver that is empty, and so it is written, hashed and validated as before. -/
theorem ofDocument_toDocument (hd : d.isWellTyped = true) (h : Function.ofDocument d = .ok f) :
    ∃ g, Function.ofDocument f.toDocument = .ok g ∧
      g = { f with receiver := if f.receiver = .text "" then .null else f.receiver } ∧
      g.toDocument = f.toDocument ∧ g.contentHash = f.contentHash ∧
      ∀ known, g.validate known = f.validate known := by
  refine ⟨_, (legible_of_ofDocument h).read_written, settled_of_isWellTyped hd h, ?_⟩
  rw [settled_of_isWellTyped hd h]
  have hwritten : toDocument { f with receiver := if f.receiver = .text "" then .null else f.receiver } =
      f.toDocument := by
    split
    · next hempty => simp [toDocument, ifTruthy, fieldIf, Document.isTruthy, hempty]
    · rfl
  refine ⟨hwritten, ?_, fun known => rfl⟩
  rw [contentHash, contentHash, hwritten]

/-- A function of which every field is given, with contexts, origins and numbers in other spellings than
those that are written. -/
def renderer : Document :=
  .object [("id", .text "view"), ("entry", .text "render"), ("receiver", .text ""), ("file", .text "view.py"),
    ("entry_point", .whole 1),
    ("params", .list [.text "page", .object [("name", .text "q"), ("origin", .text "Network-Parameter"),
      ("out", .bool true), ("context", .text "HTML_BODY")]]),
    ("nodes", .list
      [.object [("id", .whole 7), ("kind", .text "assign"), ("target", .text "html"),
          ("operands", .list [.text "q", .text "page"]), ("operator", .text "concat"),
          ("embeds", .object [("q", .text "html-body"),
            ("page", .list [.text "html-body", .text "css-value"])]),
          ("succ", .list [.text "render"]), ("line", .whole 12), ("file", .text "page.html")],
        .object [("id", .text "render"), ("kind", .text "call"), ("api", .text "write"), ("callee", .null),
          ("target", .text "done"), ("receiver", .text "out"), ("dynamic", .bool true),
          ("args", .list [.null, .text "html"]),
          ("enclosing", .object [(" 01", .list [.text "html-body"]), ("-2", .text "log-record")]),
          ("succ", .list [])]])]

theorem ofDocument_toDocument_renderer : ∃ f, Function.ofDocument renderer = .ok f ∧
    renderer.isWellTyped = true ∧ f.receiver = .text "" ∧
    ∃ g, Function.ofDocument f.toDocument = .ok g ∧ g = { f with receiver := .null } ∧
      g.contentHash = f.contentHash := by
  have htyped : renderer.isWellTyped = true := by decide +kernel
  obtain ⟨f, hf, hreceiver⟩ := Result.exists_ok_of_any (r := Function.ofDocument renderer)
    (p := fun f => f.receiver = .text "") (by decide +kernel)
  obtain ⟨g, hg, heq, -, hhash, -⟩ := ofDocument_toDocument htyped hf
  rw [if_pos (of_decide_eq_true hreceiver)] at heq
  exact ⟨f, hf, htyped, of_decide_eq_true hreceiver, g, hg, heq, hhash⟩

end Function

end TaintFlow
