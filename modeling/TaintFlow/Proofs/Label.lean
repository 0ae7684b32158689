import TaintFlow.Label
import TaintFlow.Proofs.Collection

/-!
# Joining labels

Labels compete by a merit: how specific their origins are, then whether their ways crossed anything unknown, how
long these ways are and by which nodes they go.  A joined label has the merit of the better of the two
(`isLE_compareMerit_join_iff`), and labels of one merit have the same nodes and crossed the same
(`compareWays_eq_iff`).  So joining is idempotent, commutative and associative, and labels of one identity are
joined by taking one of them (`join_cases`).
-/

namespace TaintFlow

theorem Atom.areComparable_of_texts {as bs : List Atom} (ha : ∀ a ∈ as, ∃ name, a = .text name)
    (hb : ∀ b ∈ bs, ∃ name, b = .text name) : Atom.areComparable as bs = true := by
  induction as generalizing bs with
  | nil => rfl
  | cons a as ih =>
    cases bs with
    | nil => rfl
    | cons b bs =>
      obtain ⟨⟨x, rfl⟩, has⟩ := List.forall_mem_cons.1 ha
      obtain ⟨⟨y, rfl⟩, hbs⟩ := List.forall_mem_cons.1 hb
      rw [Atom.areComparable, ih has hbs]
      split <;> rfl

namespace Label

variable {a b c l : Label}

/-! ### Merit -/

/-- Of two ways, the first is the one that crossed nothing unknown, then the shorter one, then the one whose
nodes come first. -/
def compareWays : Label → Label → Ordering :=
  compareLex (compareOn crossedUnknown)
    (compareLex (compareOn fun l => l.provenance.length) (compareOn nodes))

instance : Std.TransCmp compareWays :=
  inferInstanceAs (Std.TransCmp (compareLex (compareOn crossedUnknown)
    (compareLex (compareOn fun l => l.provenance.length) (compareOn nodes))))

/-- Of two labels, the first is the more specific one, then the one with the first way. -/
def compareMerit : Label → Label → Ordering :=
  compareLex (compareOn fun l => -l.specificity) compareWays

instance : Std.TransCmp compareMerit :=
  inferInstanceAs (Std.TransCmp (compareLex (compareOn fun l => -l.specificity) compareWays))

/-- Ways have one place in the order exactly when they go by the same nodes and crossed the same. -/
theorem compareWays_eq_iff :
    compareWays a b = .eq ↔ a.nodes = b.nodes ∧ a.crossedUnknown = b.crossedUnknown := by
  simp only [compareWays, compareLex_eq_eq, compareOn, Std.LawfulEqOrd.compare_eq_iff_eq]
  constructor
  · rintro ⟨hcrossed, -, hnodes⟩
    exact ⟨hnodes, hcrossed⟩
  · rintro ⟨hnodes, hcrossed⟩
    refine ⟨hcrossed, ?_, hnodes⟩
    simpa [nodes] using congrArg List.length hnodes

theorem preferred_iff : a.preferred b = true ↔ (compareMerit a b).isLE = true := by
  have hmerit : (compareMerit a b).isLE = true ↔ b.specificity < a.specificity ∨ a.specificity = b.specificity ∧
      (compare a.crossedUnknown b.crossedUnknown = .lt ∨ a.crossedUnknown = b.crossedUnknown ∧
        (a.provenance.length < b.provenance.length ∨ a.provenance.length = b.provenance.length ∧
          (compare a.nodes b.nodes).isLE = true)) := by
    simp only [compareMerit, compareWays, compareLex, compareOn, Ordering.isLE_then_iff_or, Int.compare_eq_lt,
      Int.neg_lt_neg_iff, Nat.compare_eq_lt, Std.LawfulEqOrd.compare_eq_iff_eq, Int.neg_inj]
  have hcrossing : compare a.crossedUnknown b.crossedUnknown = .lt ↔
      a.crossedUnknown = false ∧ b.crossedUnknown = true := by
    cases a.crossedUnknown <;> cases b.crossedUnknown <;> decide
  rw [hmerit, hcrossing, preferred]
  by_cases hspecificity : a.specificity = b.specificity
  · by_cases hcrossed : a.crossedUnknown = b.crossedUnknown
    · by_cases hlength : a.provenance.length = b.provenance.length
      · simp [hspecificity, hcrossed, hlength]
      · simp [hspecificity, hcrossed, hlength]
    · cases ha : a.crossedUnknown <;> cases hb : b.crossedUnknown <;> simp_all
  · simp [hspecificity]

/-! ### The identity of a joined label -/

theorem mem_origins_join {o : Origin} : o ∈ (a.join b).origins ↔ o ∈ a.origins ∨ o ∈ b.origins :=
  OrderedSet.mem_union

theorem mem_symbols_join {m : String} : m ∈ (a.join b).symbols ↔ m ∈ a.symbols ∨ m ∈ b.symbols :=
  OrderedSet.mem_union

theorem context_join_eq_some_iff {k : Context} :
    (a.join b).context = some k ↔ a.context = some k ∧ b.context = some k := by
  simp only [join]
  split
  · next h => rw [← h, and_self]
  · next h =>
    refine iff_of_false (by simp) ?_
    rintro ⟨ha, hb⟩
    exact h (ha.trans hb.symm)

theorem identity_ext (horigins : ∀ o, o ∈ a.origins ↔ o ∈ b.origins)
    (hcontext : ∀ k, a.context = some k ↔ b.context = some k) (hsymbols : ∀ m, m ∈ a.symbols ↔ m ∈ b.symbols) :
    a.identity = b.identity := by
  show Identity.mk a.origins a.context a.symbols = Identity.mk b.origins b.context b.symbols
  rw [OrderedSet.eq_of_mem_iff horigins, Option.ext hcontext, OrderedSet.eq_of_mem_iff hsymbols]

/-! ### The merit of a joined label -/

theorem specificity_le_iff {k : Int} :
    l.specificity ≤ k ↔ -1 ≤ k ∧ ∀ o ∈ l.origins, o.specificity ≤ k :=
  foldl_max_le_iff Origin.specificity

theorem specificity_join (a b : Label) : (a.join b).specificity = max a.specificity b.specificity := by
  have hle : ∀ k, (a.join b).specificity ≤ k ↔ max a.specificity b.specificity ≤ k := by
    intro k
    simp only [Int.max_le, specificity_le_iff, join, OrderedSet.mem_union, or_imp, forall_and]
    exact and_and_left
  exact Int.le_antisymm ((hle _).2 (Int.le_refl _)) ((hle _).1 (Int.le_refl _))

theorem le_specificity_of_isLE (h : (compareMerit a b).isLE = true) : b.specificity ≤ a.specificity := by
  rw [compareMerit, compareLex, compareOn, Ordering.isLE_then_iff_and, Int.isLE_compare] at h
  omega

theorem compareMerit_congr (hspecificity : a.specificity = b.specificity) (hprovenance : a.provenance = b.provenance)
    (l : Label) : compareMerit l a = compareMerit l b := by
  simp only [compareMerit, compareWays, compareLex, compareOn, crossedUnknown, nodes, hspecificity, hprovenance]

/-- The way of a joined label is that of the one of the two that has the first merit. -/
theorem exists_kept (a b : Label) : ∃ l, (l = a ∨ l = b) ∧ (compareMerit l a).isLE = true ∧
    (compareMerit l b).isLE = true ∧ (a.join b).specificity = l.specificity ∧
      (a.join b).provenance = l.provenance := by
  rw [specificity_join]
  cases hpreferred : a.preferred b with
  | true =>
    have hle := preferred_iff.1 hpreferred
    refine ⟨a, Or.inl rfl, Std.ReflCmp.isLE_rfl, hle, Int.max_eq_left (le_specificity_of_isLE hle), ?_⟩
    exact if_pos hpreferred
  | false =>
    have hle : (compareMerit b a).isLE = true := by
      rw [← Std.OrientedCmp.isGE_iff_isLE]
      cases hmerit : compareMerit a b with
      | lt =>
        have hlt : a.preferred b = true := preferred_iff.2 (by rw [hmerit]; rfl)
        exact absurd hlt (by simp [hpreferred])
      | eq => rfl
      | gt => rfl
    refine ⟨b, Or.inr rfl, hle, Std.ReflCmp.isLE_rfl, Int.max_eq_right (le_specificity_of_isLE hle), ?_⟩
    exact if_neg (by simp [hpreferred])

/-- A joined label has the better merit of the two. -/
theorem isLE_compareMerit_join_iff : (compareMerit l (a.join b)).isLE = true ↔
    (compareMerit l a).isLE = true ∧ (compareMerit l b).isLE = true := by
  obtain ⟨kept, hkept, ha, hb, hspecificity, hprovenance⟩ := exists_kept a b
  rw [compareMerit_congr hspecificity hprovenance]
  constructor
  · exact fun h => ⟨Std.TransCmp.isLE_trans h ha, Std.TransCmp.isLE_trans h hb⟩
  · rintro ⟨hla, hlb⟩
    rcases hkept with rfl | rfl
    · exact hla
    · exact hlb

theorem specificity_congr (h : a.identity = b.identity) : a.specificity = b.specificity := by
  have horigins : a.origins = b.origins := congrArg Identity.origins h
  rw [specificity, specificity, horigins]

theorem join_cases (h : a.identity = b.identity) :
    (a.join b = a ∨ a.join b = b) ∧
      (compareWays (a.join b) a).isLE = true ∧ (compareWays (a.join b) b).isLE = true := by
  obtain ⟨kept, hkept, ha, hb, -, hprovenance⟩ := exists_kept a b
  have hidentity : kept.identity = a.identity := by
    rcases hkept with rfl | rfl
    · rfl
    · exact h.symm
  have hjoin : a.join b = kept := by
    have hsame : (a.join b).toIdentity = kept.toIdentity := (identity_join_of_eq h).trans hidentity.symm
    show Label.mk (a.join b).toIdentity (a.join b).provenance = Label.mk kept.toIdentity kept.provenance
    rw [hsame, hprovenance]
  have hways : ∀ c, c.identity = kept.identity → compareMerit kept c = compareWays kept c := by
    intro c hc
    rw [compareMerit, compareLex, compareOn, specificity_congr hc, Std.ReflOrd.compare_self]
    rfl
  rw [hways a hidentity.symm] at ha
  rw [hways b (h.symm.trans hidentity.symm)] at hb
  exact ⟨hjoin ▸ hkept, hjoin ▸ ha, hjoin ▸ hb⟩

/-! ### Labels that say the same -/

/-- Two labels have one identity, and their ways go by the same nodes and crossed the same. -/
structure Alike (a b : Label) : Prop where
  identity : a.identity = b.identity
  nodes : a.nodes = b.nodes
  crossedUnknown : a.crossedUnknown = b.crossedUnknown

theorem Alike.of_merit (hidentity : a.identity = b.identity)
    (h : ∀ l, (compareMerit l a).isLE = true ↔ (compareMerit l b).isLE = true) : a.Alike b := by
  have hmerit : compareMerit a b = .eq :=
    Std.OrientedCmp.isLE_antisymm ((h a).1 Std.ReflCmp.isLE_rfl) ((h b).2 Std.ReflCmp.isLE_rfl)
  obtain ⟨hnodes, hcrossed⟩ := compareWays_eq_iff.1 (compareLex_eq_eq.1 hmerit).2
  exact ⟨hidentity, hnodes, hcrossed⟩

theorem alike_join_self (a : Label) : (a.join a).Alike a :=
  .of_merit (identity_join_of_eq rfl) fun _ => by rw [isLE_compareMerit_join_iff, and_self]

theorem alike_join_comm (a b : Label) : (a.join b).Alike (b.join a) := by
  refine .of_merit ?_ fun _ => by rw [isLE_compareMerit_join_iff, isLE_compareMerit_join_iff, and_comm]
  refine identity_ext (fun _ => ?_) (fun _ => ?_) fun _ => ?_
  · rw [mem_origins_join, mem_origins_join, or_comm]
  · rw [context_join_eq_some_iff, context_join_eq_some_iff, and_comm]
  · rw [mem_symbols_join, mem_symbols_join, or_comm]

theorem alike_join_assoc (a b c : Label) : ((a.join b).join c).Alike (a.join (b.join c)) := by
  refine .of_merit ?_ fun _ => by simp only [isLE_compareMerit_join_iff, and_assoc]
  refine identity_ext (fun _ => ?_) (fun _ => ?_) fun _ => ?_
  · simp only [mem_origins_join, or_assoc]
  · simp only [context_join_eq_some_iff, and_assoc]
  · simp only [mem_symbols_join, or_assoc]

/-! ### Labels that can be joined -/

def IsNamed (l : Label) : Prop := ∀ node ∈ l.nodes, ∃ name, node = .text name

theorem IsNamed.isComparable (ha : a.IsNamed) (hb : b.IsNamed) : a.isComparable b = true := by
  rw [Label.isComparable, Atom.areComparable_of_texts ha hb, Bool.or_true]

theorem IsNamed.join (ha : a.IsNamed) (hb : b.IsNamed) : (a.join b).IsNamed := by
  obtain ⟨kept, hkept, -, -, -, hprovenance⟩ := exists_kept a b
  have hnodes : (a.join b).nodes = kept.nodes := congrArg (List.map Hop.node) hprovenance
  rw [IsNamed, hnodes]
  rcases hkept with rfl | rfl
  · exact ha
  · exact hb

theorem join?_eq_ok_iff : a.join? b = .ok l ↔ a.isComparable b = true ∧ l = a.join b := by
  rw [join?]
  split
  · next h => simp [h, eq_comm]
  · next h => simp [h]

/-- **Joining labels is a semilattice.**  It is idempotent, commutative and associative up to what distinguishes
labels, the nodes on their ways and whether these crossed anything unknown.  A joined label has every origin and
marker of both and the way of one that is as specific as any of them.  Labels whose ways go by named nodes can
be joined, and so can what comes of it. -/
theorem join_semilattice (a b c : Label) :
    (a.join a).Alike a ∧ (a.join b).Alike (b.join a) ∧ ((a.join b).join c).Alike (a.join (b.join c)) ∧
      (∀ o, o ∈ (a.join b).origins ↔ o ∈ a.origins ∨ o ∈ b.origins) ∧
      (∀ m, m ∈ (a.join b).symbols ↔ m ∈ a.symbols ∨ m ∈ b.symbols) ∧
      (∃ l, (l = a ∨ l = b) ∧ a.specificity ≤ l.specificity ∧ b.specificity ≤ l.specificity ∧
        (a.join b).provenance = l.provenance) ∧
      (∀ l, a.join? b = .ok l → l = a.join b) ∧
      (a.IsNamed → b.IsNamed → a.join? b = .ok (a.join b) ∧ (a.join b).IsNamed) := by
  obtain ⟨kept, hkept, ha, hb, -, hprovenance⟩ := exists_kept a b
  refine ⟨alike_join_self a, alike_join_comm a b, alike_join_assoc a b c, fun _ => mem_origins_join,
    fun _ => mem_symbols_join, ⟨kept, hkept, le_specificity_of_isLE ha, le_specificity_of_isLE hb, hprovenance⟩,
    fun l hl => (join?_eq_ok_iff.1 hl).2, fun ha hb => ?_⟩
  exact ⟨join?_eq_ok_iff.2 ⟨ha.isComparable hb, rfl⟩, ha.join hb⟩

def arriving : Label := .symbolic "param:0" "f::param:0"

/-- A cookie that went through code that is not modelled. -/
def strayed : Label := (source .cookie "f::read" none).markUnknown "f::call"

/-- A cookie that went a longer way. -/
def stored : Label := ((source .cookie "g::read" none).extend "g::copy" false).extend "g::store" false

theorem isNamed_source (origin : Origin) (name : String) (context : Option Context) :
    (source origin name context).IsNamed :=
  List.forall_mem_singleton.2 ⟨name, rfl⟩

theorem isNamed_symbolic (marker name : String) : (symbolic marker name).IsNamed :=
  List.forall_mem_singleton.2 ⟨name, rfl⟩

theorem IsNamed.extend (h : l.IsNamed) (name : String) (mark : Atom) : (l.extend name mark).IsNamed := by
  have hlonger : ({ l with provenance := l.provenance ++ [⟨name, mark⟩] } : Label).IsNamed := by
    intro node hnode
    rw [nodes, List.map_append, List.mem_append] at hnode
    rcases hnode with hnode | hnode
    · exact h node hnode
    · exact ⟨name, List.mem_singleton.1 hnode⟩
  unfold Label.extend
  split
  · split
    · exact h
    · exact hlonger
  · exact hlonger

/-- The parameter explains less than the cookie, and the stray cookie less than the one that was stored. -/
theorem exists_join_strayed : ∃ l, arriving.join? strayed = .ok l ∧ l.IsNamed ∧
    l.nodes = ["f::read", "f::call"].map Atom.text ∧
      (l.join stored).Alike (arriving.join (strayed.join stored)) ∧
        (l.join stored).nodes = ["g::read", "g::copy", "g::store"].map Atom.text := by
  obtain ⟨-, -, hassoc, -, -, -, -, hreturns⟩ := join_semilattice arriving strayed stored
  obtain ⟨hjoin, hnamed⟩ := hreturns (isNamed_symbolic _ _) ((isNamed_source _ _ _).extend _ _)
  exact ⟨_, hjoin, hnamed, by decide +kernel, hassoc, by decide +kernel⟩

end Label

end TaintFlow
