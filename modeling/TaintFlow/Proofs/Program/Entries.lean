import TaintFlow.Program.Decode
import TaintFlow.Proofs.Flow.Faults

/-!
# What an entry of a program concerns

The entry of a function is filed under the id that it gives (`Document.filedId`).  Whether it can be read or
not, it concerns that id and no other: the function that is read has it, and so has every defect that is
found on the way (`Function.yields_ofDocument`).
-/

namespace TaintFlow

open Result (Yields)

/-! ### Ids -/

/-- The id that a document gives the function that it describes, empty if it gives none. -/
def Document.functionId (d : Document) : String := ((d.field? "id").getD (.text "")).asText

/-- The id that a function is filed under.  One without an id is anonymous. -/
def Document.filedId (d : Document) : String :=
  if d.functionId.isEmpty then Malformed.anonymous else d.functionId

/-- No two functions are filed under the same id, except that several may have none at all. -/
def DistinctIds (functions : List Document) : Prop :=
  functions.Pairwise (fun a b => a.filedId ≠ b.filedId ∨ a.functionId = "" ∧ b.functionId = "")

instance (functions : List Document) : Decidable (DistinctIds functions) :=
  inferInstanceAs (Decidable (functions.Pairwise _))

/-! ### Faults on the way -/

/-- A fault that is no defect of a function. -/
def Fault.Plain : Fault → Prop
  | .malformed _ => False
  | _ => True

/-- A fault that is no defect of any function but the given one. -/
def Fault.Concerns (id : String) : Fault → Prop
  | .malformed what => what.function = id
  | _ => True

theorem Fault.Plain.concerns (id : String) (fault : Fault) (h : fault.Plain) : fault.Concerns id := by
  cases fault <;> trivial

namespace Document

theorem yields_members (d : Document) : Yields Fault.Plain (fun _ => True) d.members := by
  cases d <;> trivial

theorem yields_membersOf (field : Option Document) :
    Yields Fault.Plain (fun _ => True) (membersOf field) := by
  cases field with
  | none => trivial
  | some d => exact yields_members d

theorem yields_fieldsOf (d : Document) : Yields Fault.Plain (fun _ => True) d.fieldsOf := by
  cases d <;> trivial

theorem yields_toWhole (d : Document) : Yields Fault.Plain (fun _ => True) d.toWhole := by
  cases d with
  | text s =>
    change Yields _ _ (wholeIn s)
    unfold wholeIn
    split <;> trivial
  | real x =>
    unfold toWhole
    dsimp only
    split <;> trivial
  | _ => trivial

end Document

theorem Context.yields_ofDocument (d : Document) :
    Yields Fault.Plain (fun _ => True) (Context.ofDocument d) := by
  unfold Context.ofDocument
  split <;> trivial

theorem Context.yields_ofDocuments (ds : List Document) :
    Yields Fault.Plain (fun _ => True) (Context.ofDocuments ds) :=
  (Result.yields_mapM fun d _ => Context.yields_ofDocument d).forget

theorem Origin.yields_ofDocument (d : Document) :
    Yields Fault.Plain (fun _ => True) (Origin.ofDocument d) := by
  unfold Origin.ofDocument
  split <;> trivial

namespace Decode

theorem yields_texts (field : Option Document) : Yields Fault.Plain (fun _ => True) (texts field) :=
  (Document.yields_membersOf field).bind fun _ _ => trivial

theorem yields_optionalFields (field : Option Document) :
    Yields Fault.Plain (fun _ => True) (optionalFields field) := by
  unfold optionalFields
  split
  · split
    · exact Document.yields_fieldsOf _
    · trivial
  · trivial

theorem yields_embeds (field : Option Document) : Yields Fault.Plain (fun _ => True) (embeds field) :=
  (yields_optionalFields field).bind fun _ _ => Result.yields_foldlM trivial fun _ _ _ _ =>
    (Context.yields_ofDocuments _).bind fun _ _ => trivial

theorem yields_enclosing (field : Option Document) :
    Yields Fault.Plain (fun _ => True) (enclosing field) :=
  (yields_optionalFields field).bind fun _ _ => Result.yields_foldlM trivial fun _ _ _ _ =>
    (Document.yields_toWhole _).bind fun _ _ => (Context.yields_ofDocuments _).bind fun _ _ => trivial

theorem yields_orMalformed {α : Type} (function : String) (cause : Invalid → Malformed.Cause)
    {r : Result α} (h : Yields Fault.Plain (fun _ => True) r) :
    Yields (Fault.Concerns function) (fun _ => True) (orMalformed function cause r) := by
  unfold orMalformed
  split
  · rfl
  · exact h.mono (Fault.Plain.concerns function)

theorem yields_node (function : String) (d : Document) :
    Yields (Fault.Concerns function) (fun _ => True) (node function d) := by
  cases d with
  | object fields =>
    unfold node
    dsimp only
    rw [Result.ok_bind]
    split
    · split
      · refine (yields_orMalformed function _ (yields_embeds _)).bind fun _ _ => ?_
        refine (yields_orMalformed function _ (yields_enclosing _)).bind fun _ _ => ?_
        refine ((yields_texts _).mono (Fault.Plain.concerns function)).bind fun _ _ => ?_
        refine ((yields_texts _).mono (Fault.Plain.concerns function)).bind fun _ _ => ?_
        refine ((Document.yields_membersOf _).mono (Fault.Plain.concerns function)).bind fun _ _ => ?_
        split
        · exact ((Document.yields_toWhole _).mono (Fault.Plain.concerns function)).bind fun _ _ => trivial
        · trivial
      · rfl
    · rfl
  | _ => trivial

theorem yields_nodes (function : String) (field : Option Document) :
    Yields (Fault.Concerns function) (fun _ => True) (nodes function field) := by
  refine ((Document.yields_membersOf field).mono (Fault.Plain.concerns function)).bind fun _ _ => ?_
  refine Result.yields_foldlM trivial fun found _ d _ => ?_
  refine (yields_node function d).bind fun entry _ => ?_
  dsimp only
  split
  · rfl
  · trivial

theorem yields_param (d : Document) : Yields Fault.Plain (fun _ => True) (param d) := by
  cases d with
  | object fields =>
    unfold param
    dsimp only
    split
    · refine (Result.yields_mapM_option fun d _ => Origin.yields_ofDocument d).bind fun _ _ => ?_
      exact (Result.yields_mapM_option fun d _ => Context.yields_ofDocument d).bind fun _ _ => trivial
    · trivial
  | _ => trivial

theorem yields_params (function : String) (field : Option Document) :
    Yields (Fault.Concerns function) (fun _ => True) (params function field) := by
  refine ((Document.yields_membersOf field).mono (Fault.Plain.concerns function)).bind fun ds _ => ?_
  have hparams : Yields Fault.Plain (fun _ => True) (ds.mapM param) :=
    (Result.yields_mapM fun d _ => yields_param d).forget
  split
  · rfl
  · rfl
  · exact hparams.mono (Fault.Plain.concerns function)

end Decode

/-- **An entry concerns the id that it is filed under** and no other. -/
theorem Function.yields_ofDocument (d : Document) :
    Yields (Fault.Concerns d.filedId) (fun f => f.id = d.filedId) (Function.ofDocument d) := by
  cases d with
  | object fields =>
    have hget : ∀ name, (Document.object fields).get? name = .ok (fields.lookup name) := fun _ => rfl
    have hid : (Document.object fields).functionId = ((fields.lookup "id").getD (.text "")).asText := rfl
    unfold Function.ofDocument Document.filedId
    simp only [hget, Result.ok_bind, ← hid]
    split
    · rfl
    · exact (Decode.yields_nodes _ _).bind fun _ _ => (Decode.yields_params _ _).bind fun _ _ => rfl
  | _ => trivial

theorem Function.ofDocument_of_functionId_eq {d : Document} (h : d.functionId = "") :
    Function.ofDocument d = .error .notAnObject ∨
      Function.ofDocument d = .error (.malformed ⟨Malformed.anonymous, .functionWithoutId⟩) := by
  cases d with
  | object fields =>
    have hget : ∀ name, (Document.object fields).get? name = .ok (fields.lookup name) := fun _ => rfl
    have hid : ((fields.lookup "id").getD (.text "")).asText = "" := h
    refine Or.inr ?_
    unfold Function.ofDocument
    simp only [hget, Result.ok_bind, hid]
    rfl
  | _ => exact Or.inl rfl

end TaintFlow
