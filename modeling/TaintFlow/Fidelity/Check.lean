import TaintFlow.Digest.Sha256
import TaintFlow.Document.Text
import TaintFlow.Number.Amount

/-!
# Fidelity checks

At the stages where results could silently disappear, what a stage was to produce is compared with
what it did produce: sink calls during discovery, functions during analysis, paths during
deduplication, findings during output.
-/

namespace TaintFlow.Fidelity

open Text (joinWith)

/-- A digest of a list of documents that does not depend on their order. -/
def fingerprint (items : List Document) : String :=
  let texts := (items.map (Document.write .spaced)).mergeSort (fun a b => (compare a b).isLE)
  ((Sha256.hex (joinWith "\n" texts)).take 16).toString

def note (condition : Bool) (text : String) : List String :=
  if condition then [text] else []

/-- The first five names, for a message. -/
def firstNames (names : List String) : String := joinWith ", " (names.take 5)

/-- Every sink call that was seen during propagation has a sink site. -/
def checkDiscovery (noSources noSinks : Bool) (lost : List String) (unreached : Nat) : Outcome :=
  { stage := .text "discovery"
    errors := note (!lost.isEmpty) ("Discovery lost " ++ toString lost.length
      ++ " sink call(s) observed during propagation: " ++ firstNames lost)
    warnings :=
      note noSources "Discovery found 0 origin nodes - is this expected?"
      ++ note noSinks "Discovery found 0 sink sites - is this expected?"
      ++ note (unreached ≠ 0)
        (toString unreached ++ " sink call(s) never reached by propagation") }

/-- Every function that was to be reached was analysed or failed. -/
def checkAnalysis (expected : Nat) (missing : List String) (degraded : Document) (failed : Nat) :
    Outcome :=
  { stage := .text "analysis"
    errors := note (!missing.isEmpty) ("Analysis accounted for "
      ++ toString (expected - missing.length) ++ "/" ++ toString expected
      ++ " reachable functions - pipeline stalled (missing: " ++ firstNames missing ++ ")")
    warnings :=
      note degraded.isTruthy (degraded.asText ++ " function(s) degraded to UNKNOWN summaries")
      ++ note (failed ≠ 0) (toString failed ++ " function(s) failed concrete analysis") }

/-- Every path is accounted for after deduplication. Findings that are not stated are as many as were
announced. -/
def checkDedup (pre post collapsed : Document) (findings : Option Document) : Outcome :=
  { stage := .text "dedup"
    errors :=
      note (!collapsed.equals pre) ("Dedup lost paths: " ++ pre.asText
        ++ " candidates but collapsed counts sum to " ++ collapsed.asText)
      ++ note (!(findings.getD post).equals post) ("Dedup: manifest=" ++ post.asText
        ++ " findings, receipt=" ++ (findings.getD .null).asText)
    warnings := [] }

/-- Every finding was written. A difference that is not a total loss deserves attention. -/
def checkOutput (expected written : Document) (lost : Bool) (difference : Option Document) :
    Outcome :=
  { stage := .text "json_output"
    errors := note lost ("JSON Output: " ++ expected.asText
      ++ " findings to write, 0 in JSON (100% LOSS)")
    warnings := match difference with
      | some d => ["JSON Output: manifest=" ++ expected.asText ++ ", json=" ++ written.asText
          ++ " (delta=" ++ d.asText ++ ")"]
      | none => [] }

/-- A failed check stops a strict run. -/
def enforce (strict : Bool) (o : Outcome) : Result Outcome :=
  if o.failed && strict then .error (.unfaithful o) else .ok o

def Outcome.toDocument (o : Outcome) : Document := .object (Fault.unfaithful o).details

end TaintFlow.Fidelity
