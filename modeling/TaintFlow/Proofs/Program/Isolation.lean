import TaintFlow.Proofs.Program.Declared

/-!
# Entries that stop the reading

A defect of one function does not concern the others: an entry that cannot be read leaves its id malformed,
and what an entry says makes no difference to the other ids.  This holds as long as every entry has the
shape of a function (`Document.isWellTyped`).  A field of another kind than the one that is needed is no
defect of the function but stops the reading of the whole program (`Document.StopsReading`,
`Program.exists_ofDocument_iff`).
-/

namespace TaintFlow

open Result (Stops Yields)

/-! ### Fields of another kind -/

def Fault.OutsideDomain (fault : Fault) : Prop := ∃ why, fault = .invalid why

/-- A fault that is no defect of a function even where values outside their domains are one. -/
def Fault.Uncaught (fault : Fault) : Prop := fault.Plain ∧ ¬ fault.OutsideDomain

theorem Fault.OutsideDomain.not_uncaught {fault : Fault} (h : fault.OutsideDomain) : ¬ fault.Uncaught :=
  fun hu => hu.2 h

namespace Document

/-- Texts, lists and objects have members. -/
def hasMembers : Document → Bool
  | .text _ | .list _ | .object _ => true
  | _ => false

def isText : Document → Bool
  | .text _ => true
  | _ => false

/-- A field that is given, and has no members. -/
def Memberless (d : Document) (name : String) : Prop :=
  ∃ value, d.field? name = some value ∧ value.hasMembers = false

/-- A field that counts as present, and has no fields. -/
def Fieldless (d : Document) (name : String) : Prop :=
  ∃ value, d.field? name = some value ∧ value.isTruthy = true ∧ value.isObject = false

theorem stops_membersOf_iff {field : Option Document} :
    Stops Fault.Plain (membersOf field) ↔ ∃ value, field = some value ∧ value.hasMembers = false := by
  cases field with
  | none => simp [membersOf]
  | some value => cases value <;> simp [membersOf, members, hasMembers, Fault.Plain]

/-- A number that cannot be read stops the reading. -/
theorem stops_toWhole_iff_forall {d : Document} : Stops Fault.Plain d.toWhole ↔ ∀ n, d.toWhole ≠ .ok n := by
  rcases (yields_toWhole d).cases with ⟨n, hn, -⟩ | ⟨fault, hfault, hplain⟩
  · rw [hn]
    exact iff_of_false (Result.not_stops_ok n) fun h => h n rfl
  · rw [hfault]
    exact iff_of_true ⟨fault, rfl, hplain⟩ nofun

theorem yields_wholeIn (s : String) :
    Yields Fault.OutsideDomain (fun _ => True) (Document.text s).toWhole := by
  change Yields _ _ (wholeIn s)
  unfold wholeIn
  split
  · trivial
  · exact ⟨_, rfl⟩
  · exact ⟨_, rfl⟩

end Document

theorem Origin.outsideDomain_ofDocument (d : Document) :
    Yields Fault.OutsideDomain (fun _ => True) (Origin.ofDocument d) := by
  unfold Origin.ofDocument
  split
  · trivial
  · exact ⟨_, rfl⟩

theorem Context.outsideDomain_ofDocument (d : Document) :
    Yields Fault.OutsideDomain (fun _ => True) (Context.ofDocument d) := by
  unfold Context.ofDocument
  split
  · trivial
  · exact ⟨_, rfl⟩

theorem Context.outsideDomain_ofDocuments (ds : List Document) :
    Yields Fault.OutsideDomain (fun _ => True) (Context.ofDocuments ds) :=
  (Result.yields_mapM fun d _ => Context.outsideDomain_ofDocument d).forget

namespace Decode

variable {field : Option Document} {kind : Fault → Prop}

theorem stops_optionalFields_iff (h : kind .notAnObject) : Stops kind (optionalFields field) ↔
    ∃ value, field = some value ∧ value.isTruthy = true ∧ value.isObject = false := by
  cases field with
  | none => simp [optionalFields]
  | some value =>
    by_cases htruthy : value.isTruthy = true
    · cases value <;> simp [optionalFields, htruthy, Document.fieldsOf, Document.isObject, h]
    · simp [optionalFields, htruthy]

theorem stops_texts_iff : Stops Fault.Plain (texts field) ↔
    ∃ value, field = some value ∧ value.hasMembers = false := by
  unfold texts
  rw [Result.stops_bind_iff, Document.stops_membersOf_iff, or_iff_left]
  rintro ⟨_, -, h⟩
  exact Result.not_stops_ok _ h

theorem stops_orMalformed_iff {α : Type} {function : String} {cause : Invalid → Malformed.Cause}
    {r : Result α} : Stops Fault.Plain (orMalformed function cause r) ↔ Stops Fault.Uncaught r := by
  unfold orMalformed
  split
  · next why =>
    rw [Result.stops_error_iff, Result.stops_error_iff]
    exact iff_of_false id fun h => h.2 ⟨why, rfl⟩
  · next hother =>
    refine exists_congr fun fault => and_congr_right fun he => ?_
    refine (and_iff_left ?_).symm
    rintro ⟨why, rfl⟩
    exact hother why he

/-- Entries whose values can only be outside their domain stop nothing if they are there. -/
theorem stops_entries_iff {β : Type} {read : β → String × Document → Result β} {start : β}
    (h : ∀ found entry, Yields Fault.OutsideDomain (fun _ => True) (read found entry)) :
    Stops Fault.Uncaught (optionalFields field >>= fun fields => fields.foldlM read start) ↔
      ∃ value, field = some value ∧ value.isTruthy = true ∧ value.isObject = false := by
  rw [Result.stops_bind_iff, stops_optionalFields_iff ⟨trivial, nofun⟩, or_iff_left]
  rintro ⟨fields, -, hstops⟩
  have hread : Yields Fault.OutsideDomain (fun _ => True) (fields.foldlM read start) :=
    Result.yields_foldlM trivial fun found _ entry _ => h found entry
  exact hread.not_stops (fun _ => Fault.OutsideDomain.not_uncaught) hstops

theorem stops_embeds_iff : Stops Fault.Uncaught (embeds field) ↔
    ∃ value, field = some value ∧ value.isTruthy = true ∧ value.isObject = false :=
  stops_entries_iff fun _ _ => (Context.outsideDomain_ofDocuments _).bind fun _ _ => trivial

theorem stops_enclosing_iff : Stops Fault.Uncaught (enclosing field) ↔
    ∃ value, field = some value ∧ value.isTruthy = true ∧ value.isObject = false := by
  refine stops_entries_iff fun _ _ => ?_
  refine (Document.yields_wholeIn _).bind fun _ _ => ?_
  exact (Context.outsideDomain_ofDocuments _).bind fun _ _ => trivial

end Decode

/-! ### Nodes -/

/-- **A node that stops the reading.**  It is no object, or is good as far as its contexts and has a field of
another kind. -/
def Document.StopsNode (node : Document) : Prop :=
  node.isObject = false ∨
    ((node.field? "id").isSome = true ∧ (Decode.kind? (node.field? "kind")).isSome = true) ∧
      (node.Fieldless "embeds" ∨ (∃ contexts, Decode.embeds (node.field? "embeds") = .ok contexts) ∧
        (node.Fieldless "enclosing" ∨
          (∃ contexts, Decode.enclosing (node.field? "enclosing") = .ok contexts) ∧
            (node.Memberless "succ" ∨ node.Memberless "operands" ∨ node.Memberless "args" ∨
              ∃ line, node.field? "line" = some line ∧ ∀ n, line.toWhole ≠ .ok n)))

namespace Decode

theorem exists_orMalformed_iff {α : Type} {function : String} {cause : Invalid → Malformed.Cause}
    {r : Result α} : (∃ a, orMalformed function cause r = .ok a) ↔ ∃ a, r = .ok a := by
  unfold orMalformed
  split
  · exact iff_of_false nofun nofun
  · exact Iff.rfl

theorem stops_node_iff {function : String} {d : Document} :
    Stops Fault.Plain (node function d) ↔ d.StopsNode := by
  unfold Document.StopsNode
  cases d with
  | object fields =>
    have hfield : ∀ name, (Document.object fields).field? name = fields.lookup name := fun _ => rfl
    rw [or_iff_right (by simp [Document.isObject])]
    simp only [Document.Fieldless, Document.Memberless, hfield]
    unfold node
    dsimp only
    rw [Result.ok_bind]
    cases fields.lookup "id" with
    | none => simp [Fault.Plain]
    | some shownId =>
      cases kind? (fields.lookup "kind") with
      | none => simp [Fault.Plain]
      | some kind =>
        rw [and_iff_right ⟨rfl, rfl⟩, Result.stops_bind_iff_and, stops_orMalformed_iff, stops_embeds_iff,
          exists_orMalformed_iff]
        intro contexts
        rw [Result.stops_bind_iff_and, stops_orMalformed_iff, stops_enclosing_iff, exists_orMalformed_iff]
        intro enclosing
        rw [Result.stops_bind_iff_or (yields_texts _), stops_texts_iff]
        intro succ
        rw [Result.stops_bind_iff_or (yields_texts _), stops_texts_iff]
        intro operands
        rw [Result.stops_bind_iff_or (Document.yields_membersOf _), Document.stops_membersOf_iff]
        intro args
        cases fields.lookup "line" with
        | none => exact iff_of_false (Result.not_stops_ok _) nofun
        | some line =>
          dsimp only
          rw [Result.stops_bind_iff, or_iff_left, Document.stops_toWhole_iff_forall]
          · simp
          · rintro ⟨n, -, h⟩
            exact Result.not_stops_ok _ h
  | _ => exact iff_of_true ⟨.wrongKind, rfl, trivial⟩ (Or.inl rfl)

def addNode (function : String) (found : Table Node) (d : Document) : Result (Table Node) :=
  node function d >>= fun entry =>
    if found.contains entry.1 then .error (.malformed ⟨function, .duplicateNode entry.1⟩)
    else .ok (found.set entry.1 entry.2)

theorem nodes_eq (function : String) (field : Option Document) :
    nodes function field = Document.membersOf field >>= fun ds => ds.foldlM (addNode function) ∅ := rfl

theorem stops_addNode_iff {function : String} {found : Table Node} {d : Document} :
    Stops Fault.Plain (addNode function found d) ↔ d.StopsNode := by
  unfold addNode
  rw [Result.stops_bind_iff, stops_node_iff, or_iff_left]
  rintro ⟨entry, -, h⟩
  split at h
  · exact Result.stops_error_iff.1 h
  · exact Result.not_stops_ok _ h

/-- Nodes are read up to the first that stops the reading. -/
theorem stops_nodes_iff {function : String} {field : Option Document} :
    Stops Fault.Plain (nodes function field) ↔
      (∃ value, field = some value ∧ value.hasMembers = false) ∨
        ∃ before node after found, Document.membersOf field = .ok (before ++ node :: after) ∧
          nodes function (some (.list before)) = .ok found ∧ node.StopsNode := by
  rw [nodes_eq, Result.stops_bind_iff, Document.stops_membersOf_iff]
  refine or_congr_right ⟨?_, ?_⟩
  · rintro ⟨_, hds, h⟩
    obtain ⟨before, d, after, found, rfl, hfound, hd⟩ := Result.stops_foldlM_iff.1 h
    exact ⟨before, d, after, found, hds, hfound, stops_addNode_iff.1 hd⟩
  · rintro ⟨before, d, after, found, hds, hfound, hd⟩
    exact ⟨_, hds, Result.stops_foldlM_iff.2 ⟨before, d, after, found, rfl, hfound,
      stops_addNode_iff.2 hd⟩⟩

end Decode

/-! ### Parameters -/

/-- The fault of a parameter that makes the function malformed. -/
def Fault.BadParameter (fault : Fault) : Prop := fault.OutsideDomain ∨ ∃ name, fault = .missing name

/-- A fault that is no defect of a function even in a parameter. -/
def Fault.Shapeless (fault : Fault) : Prop := fault.Plain ∧ ¬ fault.BadParameter

namespace Decode

theorem yields_param_object (fields : List (String × Document)) :
    Yields Fault.BadParameter (fun _ => True) (param (.object fields)) := by
  unfold param
  dsimp only
  cases fields.lookup "name" with
  | none => exact Or.inr ⟨"name", rfl⟩
  | some name =>
    refine (Result.yields_mapM_option fun d _ =>
      (Origin.outsideDomain_ofDocument d).mono fun _ => Or.inl).bind fun _ _ => ?_
    exact (Result.yields_mapM_option fun d _ =>
      (Context.outsideDomain_ofDocument d).mono fun _ => Or.inl).bind fun _ _ => trivial

theorem stops_param_iff {d : Document} :
    Stops Fault.Shapeless (param d) ↔ d.isText = false ∧ d.isObject = false := by
  cases d with
  | text name => exact iff_of_false (Result.not_stops_ok _) nofun
  | object fields =>
    refine iff_of_false ((yields_param_object fields).not_stops fun _ hbad h => h.2 hbad) nofun
  | _ =>
    refine iff_of_true ⟨.notAnObject, rfl, trivial, ?_⟩ ⟨rfl, rfl⟩
    simp [Fault.BadParameter, Fault.OutsideDomain]

/-- Parameters are read up to the first that is neither a name nor an object. -/
theorem stops_params_iff {function : String} {field : Option Document} :
    Stops Fault.Plain (params function field) ↔
      (∃ value, field = some value ∧ value.hasMembers = false) ∨
        ∃ before d after, Document.membersOf field = .ok (before ++ d :: after) ∧
          (∀ other ∈ before, ∃ p, param other = .ok p) ∧ d.isText = false ∧ d.isObject = false := by
  have hmembers : (∃ before d after, Document.membersOf field = .ok (before ++ d :: after) ∧
      (∀ other ∈ before, ∃ p, param other = .ok p) ∧ d.isText = false ∧ d.isObject = false) ↔
        ∃ declared, Document.membersOf field = .ok declared ∧
          Stops Fault.Shapeless (declared.mapM param) := by
    simp only [Result.stops_mapM_iff, stops_param_iff]
    constructor
    · rintro ⟨before, d, after, hdeclared, hbefore, hd⟩
      exact ⟨_, hdeclared, before, d, after, rfl, hbefore, hd⟩
    · rintro ⟨_, hdeclared, before, d, after, rfl, hbefore, hd⟩
      exact ⟨before, d, after, hdeclared, hbefore, hd⟩
  unfold params
  rw [Result.stops_bind_iff, Document.stops_membersOf_iff, hmembers]
  refine or_congr_right (exists_congr fun declared => and_congr_right fun _ => ?_)
  split
  · next why he =>
    rw [he, Result.stops_error_iff, Result.stops_error_iff]
    exact iff_of_false id fun h => h.2 (Or.inl ⟨why, rfl⟩)
  · next name he =>
    rw [he, Result.stops_error_iff, Result.stops_error_iff]
    exact iff_of_false id fun h => h.2 (Or.inr ⟨name, rfl⟩)
  · next hinvalid hmissing =>
    refine exists_congr fun fault => and_congr_right fun he => (and_iff_left ?_).symm
    rintro (⟨why, rfl⟩ | ⟨name, rfl⟩)
    · exact hinvalid why he
    · exact hmissing name he

end Decode

/-! ### Functions -/

/-- **An entry that stops the reading of a program.**  It is no object, or is good up to a node that stops the
reading, or has parameters of another kind. -/
def Document.StopsReading (f : Document) : Prop :=
  f.isObject = false ∨ f.functionId ≠ "" ∧
    ((f.Memberless "nodes" ∨ ∃ before node after found, f.itemsOf "nodes" = .ok (before ++ node :: after) ∧
        Decode.nodes f.functionId (some (.list before)) = .ok found ∧ node.StopsNode) ∨
      (∃ found, Decode.nodes f.functionId (f.field? "nodes") = .ok found) ∧
        (f.Memberless "params" ∨ ∃ before d after, f.itemsOf "params" = .ok (before ++ d :: after) ∧
          (∀ other ∈ before, ∃ p, Decode.param other = .ok p) ∧ d.isText = false ∧ d.isObject = false))

theorem Function.stops_ofDocument_iff {d : Document} :
    Stops Fault.Plain (Function.ofDocument d) ↔ d.StopsReading := by
  unfold Document.StopsReading
  cases d with
  | object fields =>
    have hget : ∀ name, (Document.object fields).get? name = .ok (fields.lookup name) := fun _ => rfl
    have hid : (Document.object fields).functionId = ((fields.lookup "id").getD (.text "")).asText := rfl
    rw [or_iff_right (by simp [Document.isObject])]
    unfold Function.ofDocument
    simp only [hget, Result.ok_bind, ← hid]
    by_cases hempty : (Document.object fields).functionId = ""
    · simp [hempty, Fault.Plain]
    · rw [if_neg (by simpa using hempty), and_iff_right hempty, Result.stops_bind_iff_and,
        Decode.stops_nodes_iff]
      · rfl
      · intro nodes
        rw [Result.stops_bind_iff, Decode.stops_params_iff, or_iff_left]
        · rfl
        · rintro ⟨params, -, h⟩
          exact Result.not_stops_ok _ h
  | _ => exact iff_of_true ⟨.notAnObject, rfl, trivial⟩ (Or.inl rfl)

/-! ### Entries of the right shape -/

namespace Document

def isWhole : Document → Bool
  | .whole _ => true
  | _ => false

def isListOf (type : Document → Bool) : Document → Bool
  | .list items => items.all type
  | _ => false

def fieldIs (d : Document) (name : String) (type : Document → Bool) : Bool := (d.field? name).all type

def isTypedNode (node : Document) : Bool :=
  node.isObject && node.fieldIs "succ" (isListOf fun _ => true) &&
    node.fieldIs "operands" (isListOf fun _ => true) && node.fieldIs "args" (isListOf fun _ => true) &&
    node.fieldIs "embeds" (fun d => d.isNull || d.isObject) &&
    node.fieldIs "enclosing" (fun d => d.isNull || d.isObject) && node.fieldIs "line" isWhole &&
    node.fieldIs "operator" isText && node.fieldIs "file" isText

/-- **The fields of a function and of its nodes have the types that are documented for them.**  Fields that
can be of any type are left out. -/
def isWellTyped (f : Document) : Bool :=
  f.isObject && f.fieldIs "nodes" (isListOf isTypedNode) &&
    f.fieldIs "params" (isListOf fun d => d.isText || d.isObject) &&
    f.fieldIs "receiver" (fun d => d.isNull || d.isText) && f.fieldIs "file" isText

theorem not_memberless_of_fieldIs {d : Document} {name : String} {type : Document → Bool}
    (h : d.fieldIs name (isListOf type) = true) : ¬ d.Memberless name := by
  rintro ⟨value, hvalue, hmembers⟩
  rw [fieldIs, hvalue] at h
  cases value <;> first | exact Bool.false_ne_true h | exact Bool.false_ne_true hmembers.symm

theorem not_fieldless_of_fieldIs {d : Document} {name : String}
    (h : d.fieldIs name (fun d => d.isNull || d.isObject) = true) : ¬ d.Fieldless name := by
  rintro ⟨value, hvalue, htruthy, hobject⟩
  rw [fieldIs, hvalue, Option.all_some, hobject, Bool.or_false] at h
  cases value <;> first | exact Bool.false_ne_true h | exact Bool.false_ne_true htruthy

theorem all_of_fieldIs {d : Document} {name : String} {type : Document → Bool} {items : List Document}
    (h : d.fieldIs name (isListOf type) = true) (hitems : d.itemsOf name = .ok items) :
    ∀ item ∈ items, type item = true := by
  obtain ⟨field, hfield, hitems⟩ := Result.exists_of_bind_eq_ok hitems
  have hgiven : d.field? name = field := by
    cases d <;> cases hfield
    rfl
  rw [fieldIs, hgiven] at h
  cases field with
  | none =>
    cases hitems
    nofun
  | some value =>
    cases value with
    | list given =>
      cases hitems
      exact List.all_eq_true.1 h
    | _ => exact absurd h Bool.false_ne_true

theorem not_stopsNode_of_isTypedNode {node : Document} (h : node.isTypedNode = true) : ¬ node.StopsNode := by
  simp only [isTypedNode, Bool.and_eq_true] at h
  obtain ⟨⟨⟨⟨⟨⟨⟨⟨hobject, hsucc⟩, hoperands⟩, hargs⟩, hembeds⟩, henclosing⟩, hline⟩, -⟩, -⟩ := h
  rintro (hother | ⟨-, hstops | ⟨-, hstops | ⟨-, hstops | hstops | hstops | ⟨line, hgiven, hstops⟩⟩⟩⟩)
  · exact Bool.false_ne_true (hother.symm.trans hobject)
  · exact not_fieldless_of_fieldIs hembeds hstops
  · exact not_fieldless_of_fieldIs henclosing hstops
  · exact not_memberless_of_fieldIs hsucc hstops
  · exact not_memberless_of_fieldIs hoperands hstops
  · exact not_memberless_of_fieldIs hargs hstops
  · rw [fieldIs, hgiven] at hline
    cases line <;> first | exact Bool.false_ne_true hline | exact hstops _ rfl

/-- **An entry of the right shape never stops the reading.** -/
theorem not_stopsReading_of_isWellTyped {f : Document} (h : f.isWellTyped = true) : ¬ f.StopsReading := by
  simp only [isWellTyped, Bool.and_eq_true] at h
  obtain ⟨⟨⟨⟨hobject, hnodes⟩, hparams⟩, -⟩, -⟩ := h
  rintro (hother | ⟨-, (hstops | ⟨before, node, after, found, hitems, -, hstops⟩) |
    ⟨-, hstops | ⟨before, d, after, hitems, -, htext, hobject⟩⟩⟩)
  · exact Bool.false_ne_true (hother.symm.trans hobject)
  · exact not_memberless_of_fieldIs hnodes hstops
  · exact not_stopsNode_of_isTypedNode (all_of_fieldIs hnodes hitems node (by simp)) hstops
  · exact not_memberless_of_fieldIs hparams hstops
  · have hd := all_of_fieldIs hparams hitems d (by simp)
    rw [htext, hobject] at hd
    cases hd

end Document

/-! ### Programs -/

namespace Program

variable {p : Program} {fs : List Document} {d : Document}

theorem exists_addRead_iff {r : Result Function} :
    (∃ p', p.addRead r = .ok p') ↔ ¬ Stops Fault.Plain r := by
  cases r with
  | ok f => exact iff_of_true ⟨_, rfl⟩ (Result.not_stops_ok f)
  | error fault =>
    rw [Result.stops_error_iff]
    cases fault with
    | malformed what => exact iff_of_true ⟨_, rfl⟩ id
    | _ => exact iff_of_false nofun fun h => h trivial

theorem exists_readAll_iff : (∃ q, readAll fs p = .ok q) ↔ ∀ f ∈ fs, ¬ f.StopsReading := by
  induction fs generalizing p with
  | nil => exact iff_of_true ⟨p, rfl⟩ nofun
  | cons f rest ih =>
    rw [List.forall_mem_cons, ← Function.stops_ofDocument_iff, ← exists_addRead_iff (p := p), readAll_cons]
    constructor
    · rintro ⟨q, hq⟩
      obtain ⟨p', hp', hq⟩ := Result.exists_of_bind_eq_ok hq
      exact ⟨⟨p', hp'⟩, ih.1 ⟨q, hq⟩⟩
    · rintro ⟨⟨p', hp'⟩, hrest⟩
      dsimp only
      rw [hp', Result.ok_bind]
      exact ih.2 hrest

theorem ofDocument_eq_readAll {names : List Document} (hglobals : d.itemsOf "globals" = .ok names)
    (hfs : d.itemsOf "functions" = .ok fs) :
    ofDocument d = readAll fs { empty with globals := .ofList (names.map Document.asText) } := by
  obtain ⟨field, hfield, hnames⟩ := Result.exists_of_bind_eq_ok hglobals
  rw [ofDocument_eq hfs, hfield, Result.ok_bind, Decode.texts, hnames]
  rfl

theorem readings_set {i : Nat} {f f' : Document} {id : String} (hf : fs[i]? = some f)
    (hid : f'.filedId = f.filedId) (hne : id ≠ f.filedId) : readings (fs.set i f') id = readings fs id := by
  have hfiled : declarations (fs.set i f') id = declarations fs id := by
    induction fs generalizing i with
    | nil => cases hf
    | cons g rest ih =>
      cases i with
      | zero =>
        obtain rfl := Option.some.inj hf
        simp [declarations, hid, Ne.symm hne]
      | succ i =>
        have hrest := ih (i := i) hf
        simp only [declarations] at hrest
        simp only [declarations, List.set_cons_succ, List.filter_cons, hrest]
  rw [readings, hfiled, readings]

/-- An entry that cannot be read leaves its id malformed. -/
theorem Records.malformed_of_unread {f : Document} (h : p.Records fs f.filedId) (hf : f ∈ fs)
    (hunread : ∀ g, Function.ofDocument f ≠ .ok g) : p.malformed.contains f.filedId = true := by
  rw [h.malformed]
  refine Or.inl (List.length_filterMap_lt_length_iff_exists.2 ⟨f, ?_, ?_⟩)
  · exact List.mem_filter.2 ⟨hf, decide_eq_true rfl⟩
  · cases hread : Function.ofDocument f with
    | ok g => exact absurd hread (hunread g)
    | error fault => rfl

/-- **No entry spoils the others, as long as none stops the reading.**  An entry that cannot be read leaves
its id malformed, and with another entry in its place the other ids stand for the same functions. -/
theorem ofDocument_isolated {names : List Document} (hglobals : d.itemsOf "globals" = .ok names)
    (hfs : d.itemsOf "functions" = .ok fs) :
    ((∃ p, ofDocument d = .ok p) ↔ ∀ f ∈ fs, ¬ f.StopsReading) ∧
      ∀ p, ofDocument d = .ok p →
        (∀ f ∈ fs, (∀ g, Function.ofDocument f ≠ .ok g) → p.malformed.contains f.filedId = true) ∧
        ∀ (d' : Document) (i : Nat) (f f' : Document), fs[i]? = some f → f'.filedId = f.filedId →
          ¬ f'.StopsReading → d'.itemsOf "globals" = .ok names →
          d'.itemsOf "functions" = .ok (fs.set i f') →
            ∃ p', ofDocument d' = .ok p' ∧
              ∀ id, id ≠ f.filedId → p'.functions.get? id = p.functions.get? id := by
  refine ⟨by rw [ofDocument_eq_readAll hglobals hfs, exists_readAll_iff], fun p hread => ⟨?_, ?_⟩⟩
  · exact fun f hf => (records_ofDocument hread hfs f.filedId).malformed_of_unread hf
  · intro d' i f f' hf hid hstops hglobals' hfs'
    have hgood := exists_readAll_iff.1 ⟨p, (ofDocument_eq_readAll hglobals hfs).symm.trans hread⟩
    obtain ⟨p', hread'⟩ : ∃ p', ofDocument d' = .ok p' := by
      rw [ofDocument_eq_readAll hglobals' hfs', exists_readAll_iff]
      intro g hg
      rcases List.mem_or_eq_of_mem_set hg with hg | rfl
      · exact hgood g hg
      · exact hstops
    refine ⟨p', hread', fun id hne => ?_⟩
    rw [(records_ofDocument hread' hfs' id).functions, (records_ofDocument hread hfs id).functions,
      readings_set hf hid hne]

/-- A function that cannot be read between two that can. -/
def mixedFunctions : List Document := [returning "f" "a", unreadable "g", returning "h" "c"]

theorem isolated_mixedFunctions : ∃ p, ofDocument (programOf mixedFunctions) = .ok p ∧
    p.malformed.contains "g" = true ∧
    ∃ p', ofDocument (programOf (mixedFunctions.set 1 (returning "g" "b"))) = .ok p' ∧
      ∀ id, id ≠ "g" → p'.functions.get? id = p.functions.get? id := by
  have hglobals : ∀ fs, (programOf fs).itemsOf "globals" = .ok [] := fun _ => rfl
  have hfs : ∀ fs, (programOf fs).itemsOf "functions" = .ok fs := fun _ => rfl
  obtain ⟨hreads, hread⟩ := ofDocument_isolated (hglobals mixedFunctions) (hfs mixedFunctions)
  have hgood : ∀ f ∈ mixedFunctions, ¬ f.StopsReading := fun f hf =>
    Document.not_stopsReading_of_isWellTyped (List.all_eq_true.1 (by decide +kernel) f hf)
  obtain ⟨p, hp⟩ := hreads.2 hgood
  obtain ⟨hunread, hset⟩ := hread p hp
  have hg : ∀ g, Function.ofDocument (unreadable "g") ≠ .ok g := by
    intro g hg
    have hnone : (Function.ofDocument (unreadable "g")).toOption.isNone = true := by decide +kernel
    rw [hg] at hnone
    cases hnone
  refine ⟨p, hp, hunread (unreadable "g") (by simp [mixedFunctions]) hg, ?_⟩
  exact hset _ 1 (unreadable "g") (returning "g" "b") rfl rfl
    (Document.not_stopsReading_of_isWellTyped (by decide +kernel)) (hglobals _) (hfs _)

/-- A function that can be read, and one with a node of which the line is null. -/
def lineless : List Document :=
  [returning "f" "a",
    .object [("id", .text "g"), ("nodes", .list [.object [("id", .text "b"), ("line", .null)]])]]

/-- **A line that is null is no defect of the second function:** the first is lost as well. -/
theorem not_isolated_lineless : (∀ f ∈ lineless, f.isObject = true) ∧
    (programOf lineless).itemsOf "globals" = .ok [] ∧
    (programOf lineless).itemsOf "functions" = .ok lineless ∧
    ∀ p, ofDocument (programOf lineless) ≠ .ok p := by
  refine ⟨List.all_eq_true.1 (by decide +kernel), rfl, rfl, fun p hp => ?_⟩
  have hnone : (ofDocument (programOf lineless)).toOption.isNone = true := by decide +kernel
  rw [hp] at hnone
  cases hnone

end Program

end TaintFlow
