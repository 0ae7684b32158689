import TaintFlow.Proofs.Concrete.Reorder
import TaintFlow.Proofs.Summary.Rounds
import TaintFlow.Scan

/-!
# Scans of functions in another order

A scan looks functions and nodes up by their names, and counts them.  Whatever the order in which the
functions are listed, it publishes the same summaries, analyses the same functions in the same way, and
reports the same (`Scan.run_reordered`).
-/

namespace TaintFlow

namespace Program.Reordered

variable {p q : Program}

theorem node?_eq (h : p.Reordered q) : q.node? = p.node? := by
  funext key
  unfold Program.node?
  simp only [h.get?_functions]

theorem isMerge_eq (h : p.Reordered q) : q.isMerge = p.isMerge := by
  funext key
  unfold Program.isMerge
  simp only [h.get?_functions]

theorem sinkSites_eq (h : p.Reordered q) (rules : Registry) (analyses : Table Analysis) :
    q.sinkSites rules analyses = p.sinkSites rules analyses := by
  unfold Program.sinkSites Program.analyzed
  simp only [h.get?_functions]

theorem candidates_eq (h : p.Reordered q) (rules : Registry) (scorer : Scorer) (flows : List Flow) :
    Flow.candidates q rules scorer flows = Flow.candidates p rules scorer flows := by
  unfold Flow.candidates Flow.candidate Step.onPath
  simp only [h.node?_eq, h.isMerge_eq]

variable {s : Scan}

theorem discoveryOutcome_eq (h : s.program.Reordered q) (sources : List SourceNode)
    (sites : List SinkSite) (analyses : Table Analysis) :
    ({ s with program := q } : Scan).discoveryOutcome sources sites analyses =
      s.discoveryOutcome sources sites analyses := by
  unfold Scan.discoveryOutcome Scan.observedSinks
  simp only [h.get?_functions]

theorem analysisOutcome_eq {pass : ConcretePass} (h : pass.program.Reordered q) (degraded : Nat)
    (state : ConcreteState) :
    Scan.analysisOutcome { pass with program := q } degraded state =
      Scan.analysisOutcome pass degraded state := by
  have husable : ({ pass with program := q } : ConcretePass).isUsable = pass.isUsable := rfl
  unfold Scan.analysisOutcome Scan.expectedFunctions
  simp only [h.entries_eq, husable]

def withProgram (q : Program) (found : Scan.Propagation) : Scan.Propagation :=
  { found with pass := { found.pass with program := q } }

theorem propagate_eq (h : s.program.Reordered q) (config : Document) (allowance : Allowance)
    (previous : NameMap Summary) :
    ({ s with program := q } : Scan).propagate config allowance previous =
      (s.propagate config allowance previous).map (withProgram q) := by
  unfold Scan.propagate
  cases ResolveLimits.ofConfig config with
  | error fault => rfl
  | ok limits =>
    simp only [Result.ok_bind]
    rw [h.resolver_eq, resolve_eq (r := Resolver.ofProgram s.program s.rules limits previous) h]
    cases (Resolver.ofProgram s.program s.rules limits previous).resolve allowance with
    | error fault => rfl
    | ok resolved =>
      obtain ⟨resolution, left⟩ := resolved
      simp only [Result.ok_bind]
      cases ConcreteLimits.ofConfig config with
      | error fault => rfl
      | ok concrete =>
        let pass : ConcretePass := ⟨s.program, s.rules, resolution.summaries,
          (Resolver.ofProgram s.program s.rules limits previous).graph, concrete⟩
        have hrun : ({ pass with program := q } : ConcretePass).run left = pass.run left :=
          run_eq (p := pass) h left
        change (({ pass with program := q } : ConcretePass).run left >>= _) = _
        rw [hrun]
        change _ = Except.map (withProgram q) (pass.run left >>= _)
        cases pass.run left with
        | error fault => rfl
        | ok state => rfl

theorem program_of_propagate {config : Document} {allowance : Allowance} {previous : NameMap Summary}
    {found : Scan.Propagation} (h : s.propagate config allowance previous = .ok found) :
    found.pass.program = s.program := by
  unfold Scan.propagate at h
  obtain ⟨limits, -, h⟩ := Result.exists_of_bind_eq_ok h
  obtain ⟨resolved, -, h⟩ := Result.exists_of_bind_eq_ok h
  obtain ⟨concrete, -, h⟩ := Result.exists_of_bind_eq_ok h
  obtain ⟨state, -, h⟩ := Result.exists_of_bind_eq_ok h
  cases h
  rfl

theorem report_eq (h : s.program.Reordered q) (config : Document) (notices : List Notice)
    {found : Scan.Propagation} (hpass : found.pass.program = s.program) :
    ({ s with program := q } : Scan).report config notices (withProgram q found) =
      s.report config notices found := by
  have hpass' : found.pass.program.Reordered q := hpass ▸ h
  unfold Scan.report withProgram
  simp only [h.sinkSites_eq, h.discoveryOutcome_eq, analysisOutcome_eq hpass', h.candidates_eq,
    h.functionIds_eq]

theorem scan_eq (h : s.program.Reordered q) (overrides : Document) (allowance : Allowance)
    (previous : NameMap Summary) :
    ({ s with program := q } : Scan).run overrides allowance previous =
      s.run overrides allowance previous := by
  unfold Scan.run
  refine bind_congr fun ⟨settings, notices⟩ => ?_
  dsimp only
  rw [h.propagate_eq]
  cases hfound : s.propagate settings.toDocument allowance previous with
  | error fault => rfl
  | ok found => exact h.report_eq _ _ (program_of_propagate hfound)

end Program.Reordered

namespace Scan

/-- **The order of the functions in the document is irrelevant.**  Of two documents that list the same
functions in different orders, no two functions with the same id, neither can be read, or both are read as
programs of which every scan publishes the same summaries, comes to the same analyses, and reports the
same. -/
theorem run_reordered (d d' : Document) (fs fs' : List Document)
    (hglobals : d'.get? "globals" = d.get? "globals")
    (hfs : d.get? "functions" = .ok (some (.list fs)))
    (hfs' : d'.get? "functions" = .ok (some (.list fs')))
    (hperm : fs.Perm fs') (hdistinct : DistinctIds fs) :
    (∃ fault fault', Program.ofDocument d = .error fault ∧ Program.ofDocument d' = .error fault') ∨
    ∃ p p', Program.ofDocument d = .ok p ∧ Program.ofDocument d' = .ok p' ∧
      ∀ (rules : Registry) (strict : Bool) (allowance : Allowance) (previous : NameMap Summary),
        (∀ config, ((⟨p', rules, strict⟩ : Scan).propagate config allowance previous).map
            (fun found => (found.resolution, found.state)) =
          ((⟨p, rules, strict⟩ : Scan).propagate config allowance previous).map
            (fun found => (found.resolution, found.state))) ∧
        ∀ overrides, (⟨p', rules, strict⟩ : Scan).run overrides allowance previous =
          (⟨p, rules, strict⟩ : Scan).run overrides allowance previous := by
  have hread := Program.readAlike_ofDocument hglobals hfs hfs' hperm hdistinct
  cases hp : Program.ofDocument d with
  | error fault =>
    cases hp' : Program.ofDocument d' with
    | error fault' => exact Or.inl ⟨fault, fault', rfl, rfl⟩
    | ok p' =>
      rw [hp, hp'] at hread
      exact hread.elim
  | ok p =>
    cases hp' : Program.ofDocument d' with
    | error fault' =>
      rw [hp, hp'] at hread
      exact hread.elim
    | ok p' =>
      rw [hp, hp'] at hread
      refine Or.inr ⟨p, p', rfl, rfl, fun rules strict allowance previous => ⟨fun config => ?_, ?_⟩⟩
      · have hpropagate := Program.Reordered.propagate_eq (s := ⟨p, rules, strict⟩) hread config allowance
          previous
        refine (congrArg (Except.map _) hpropagate).trans ?_
        cases (⟨p, rules, strict⟩ : Scan).propagate config allowance previous with
        | error fault => rfl
        | ok found => rfl
      · exact fun overrides => Program.Reordered.scan_eq (s := ⟨p, rules, strict⟩) hread overrides
          allowance previous

end Scan

def single (id : String) (node : List (String × Document)) : Document :=
  .object [("id", .text id), ("nodes", .list [.object (("id", .text "n") :: node)])]

/-- A function that calls another one, and the one that it calls. -/
def pairOf : List Document :=
  [single "f" [("kind", .text "call"), ("callee", .text "g")], single "g" [("kind", .text "return")]]

/-- The called function may come first. -/
theorem run_reordered_pairOf : ∃ p p',
    Program.ofDocument (.object [("functions", .list pairOf)]) = .ok p ∧
      Program.ofDocument (.object [("functions", .list pairOf.reverse)]) = .ok p' ∧
      p.functions.keys = ["f", "g"] ∧ p'.functions.keys = ["g", "f"] ∧
      ∀ rules strict overrides allowance previous,
        (⟨p', rules, strict⟩ : Scan).run overrides allowance previous =
          (⟨p, rules, strict⟩ : Scan).run overrides allowance previous := by
  obtain ⟨p, hp, hkeys⟩ := Result.exists_ok_of_any
    (r := Program.ofDocument (.object [("functions", .list pairOf)]))
    (p := fun p => p.functions.keys == ["f", "g"]) (by decide +kernel)
  obtain ⟨p', hp', hkeys'⟩ := Result.exists_ok_of_any
    (r := Program.ofDocument (.object [("functions", .list pairOf.reverse)]))
    (p := fun p => p.functions.keys == ["g", "f"]) (by decide +kernel)
  refine ⟨p, p', hp, hp', beq_iff_eq.1 hkeys, beq_iff_eq.1 hkeys', ?_⟩
  rcases Scan.run_reordered (.object [("functions", .list pairOf)])
    (.object [("functions", .list pairOf.reverse)]) pairOf pairOf.reverse rfl rfl rfl
    (List.reverse_perm pairOf).symm (by decide +kernel) with ⟨fault, -, hfault, -⟩ |
      ⟨read, read', hread, hread', hsame⟩
  · rw [hp] at hfault
    cases hfault
  · obtain rfl : p = read := Except.ok.inj (hp.symm.trans hread)
    obtain rfl : p' = read' := Except.ok.inj (hp'.symm.trans hread')
    exact fun rules strict overrides allowance previous =>
      (hsame rules strict allowance previous).2 overrides

end TaintFlow
