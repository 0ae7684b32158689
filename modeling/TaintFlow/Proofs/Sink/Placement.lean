import Mathlib.Data.List.Destutter
import Mathlib.Data.List.Perm.Subperm
import TaintFlow.Proofs.Flow.Exact
import TaintFlow.Sink.Site

/-!
# How far a context is refined

The walk back from a sink argument passes the links of a chain: each is the only definition that reaches the
position before it, an assignment that places its value somewhere or copies it (`Leads`).  A chain passes no
definition twice, so it is no longer than the function, and of all such chains from a position one extends all
others (`Farthest`).  The walk collects what its links place (`exists_farthest_layers`).  Where less is known of
the definitions or more operands are tainted, a link leads on only if it did before, so the walk can only end
earlier and the layers of the argument are a prefix of what they were.
-/

namespace TaintFlow

namespace Composite

variable {walk walk' : List Context} {c : Composite}

theorem collapse_eq_destutter (walk : List Context) : collapse walk = walk.destutter (· ≠ ·) := by
  induction walk using collapse.induct with
  | case1 => rfl
  | case2 a => rfl
  | case3 a rest ih =>
    rw [collapse, if_pos rfl, ih, List.destutter_cons_cons, if_neg (not_not.2 rfl), List.destutter_cons']
  | case4 a b rest hne ih =>
    rw [collapse, if_neg hne, ih, List.destutter_cons_cons, if_pos hne, List.destutter_cons']

theorem reverse_layers_of_ofOutermost? (h : ofOutermost? walk = some c) :
    c.layers.reverse = walk.destutter (· ≠ ·) := by
  rw [← collapse_eq_destutter, List.reverse_eq_iff]
  unfold ofOutermost? at h
  cases hlayers : (collapse walk).reverse with
  | nil =>
    rw [hlayers] at h
    cases h
  | cons innermost enclosing =>
    rw [hlayers] at h
    cases h
    rfl

theorem exists_ofOutermost? (h : walk ≠ []) : ∃ c, ofOutermost? walk = some c := by
  unfold ofOutermost?
  cases hlayers : (collapse walk).reverse with
  | nil =>
    rw [collapse_eq_destutter, List.reverse_eq_nil_iff] at hlayers
    exact absurd ((List.destutter_eq_nil _).1 hlayers) h
  | cons innermost enclosing => exact ⟨_, rfl⟩

theorem head?_destutter' (a : Context) (walk : List Context) :
    (walk.destutter' (· ≠ ·) a).head? = some a := by
  induction walk with
  | nil => rfl
  | cons b walk ih =>
    rw [List.destutter']
    split
    · rfl
    · exact ih

/-- The outermost layer is where the walk began. -/
theorem outermost_of_ofOutermost? (h : ofOutermost? walk = some c) {first : Context}
    (hfirst : walk.head? = some first) : c.outermost = first := by
  obtain ⟨rest, rfl⟩ := List.head?_eq_some_iff.1 hfirst
  have hhead : c.layers.reverse.head? = some first := by
    rw [reverse_layers_of_ofOutermost? h]
    exact head?_destutter' first rest
  rw [List.head?_reverse, layers, List.getLast?_cons] at hhead
  rw [outermost, ← Option.some_inj, ← hhead]
  cases c.enclosing <;> rfl

theorem isPrefix_destutter' (h : walk' <+: walk) (a : Context) :
    walk'.destutter' (· ≠ ·) a <+: walk.destutter' (· ≠ ·) a := by
  induction walk' generalizing walk a with
  | nil =>
    obtain ⟨rest, hrest⟩ := List.head?_eq_some_iff.1 (head?_destutter' a walk)
    rw [hrest]
    exact List.cons_prefix_cons.2 ⟨rfl, List.nil_prefix⟩
  | cons b walk' ih =>
    obtain ⟨rest, rfl⟩ := h
    rw [List.cons_append, List.destutter'_cons, List.destutter'_cons]
    split
    · exact List.cons_prefix_cons.2 ⟨rfl, ih (List.prefix_append _ _) b⟩
    · exact ih (List.prefix_append _ _) a

/-- Adjacent repetitions are left out from the start on, so of a prefix of a list a prefix is left. -/
theorem isPrefix_destutter (h : walk' <+: walk) : walk'.destutter (· ≠ ·) <+: walk.destutter (· ≠ ·) := by
  cases walk' with
  | nil => exact List.nil_prefix
  | cons a walk' =>
    obtain ⟨rest, rfl⟩ := h
    exact isPrefix_destutter' (List.prefix_append _ _) a

end Composite

namespace Placement

variable {f : Function} {k k' : Knowledge} {at' : Position} {id : String} {n : Node}

/-! ### Links -/

def Knowledge.definitions (k : Knowledge) (at' : Position) : Names :=
  (k.reaching.getD at'.node ∅).getD (.text at'.slot) ∅

/-- The operands of an assignment that are known to be tainted. -/
def Knowledge.taintedAt (k : Knowledge) (id : String) : Names :=
  match k.tainted with
  | some tainted => tainted.getD id ∅
  | none => ∅

/-- An assignment that the walk passes: the contexts it places its value into, and the operand that is followed
from there, if any. -/
structure Link where
  id : String
  placed : List Context
  next : Option String

def Link.after (l : Link) : Option Position := l.next.map fun slot => ⟨slot, l.id⟩

def only? : List String → Option String
  | [slot] => some slot
  | _ => none

/-- What an assignment adds: nothing if it copies its only operand, and the contexts into which all embedded
operands are placed if none is tainted outside. It is followed further if there is only one. -/
inductive Adds (k : Knowledge) (id : String) (n : Node) : List Context → Option String → Prop
  | copied {slot : String} (hcopy : n.embeds.isEmpty = true) (honly : n.operands = [slot]) :
      Adds k id n [] (some slot)
  | placed {placed : List Context} (hembeds : n.embeds.isEmpty = false)
      (htainted : ∀ slot ∈ k.taintedAt id, slot ∈ embedded n) (hne : embedded n ≠ [])
      (hplaced : ∀ slot ∈ embedded n, n.embeds.getD slot [] = placed) :
      Adds k id n placed (only? (embedded n))

/-- A position leads to a link: to the only definition that reaches it, an assignment of the function. -/
structure Leads (f : Function) (k : Knowledge) (at' : Position) (l : Link) : Prop where
  unique : ∃ key, (k.definitions at').toList = [key] ∧ Program.splitKey key = (f.id, l.id)
  adds : ∃ n, f.node? l.id = some n ∧ n.kind = .assign ∧ Adds k l.id n l.placed l.next

theorem definition?_eq_some_iff : definition? f k at' = some (id, n) ↔
    (∃ key, (k.definitions at').toList = [key] ∧ Program.splitKey key = (f.id, id)) ∧
      f.node? id = some n ∧ n.kind = .assign := by
  unfold definition? Knowledge.definitions
  generalize ((k.reaching.getD at'.node ∅).getD (.text at'.slot) ∅).toList = keys
  constructor
  · intro h
    split at h
    · next key =>
      dsimp only at h
      split at h
      · next howner =>
        split at h
        · next hnode =>
          split at h
          · next hkind =>
            cases h
            exact ⟨⟨key, rfl, Prod.ext howner rfl⟩, hnode, hkind⟩
          · cases h
        · cases h
      · cases h
    · cases h
  · rintro ⟨⟨key, rfl, hkey⟩, hnode, hkind⟩
    simp only [hkey, hnode, hkind, if_true]

theorem isSpoiled_eq_false_iff : isSpoiled k id n = false ↔ ∀ slot ∈ k.taintedAt id, slot ∈ embedded n := by
  unfold isSpoiled Knowledge.taintedAt
  cases k.tainted with
  | none => exact ⟨fun _ _ h => absurd h (List.not_mem_nil), fun _ => rfl⟩
  | some tainted => simp [List.any_eq_false, OrderedSet.mem_def]

theorem followed_eq (placed : List Context) (slots : List String) :
    (match slots with
      | [slot] => some (placed, some slot)
      | _ => some (placed, none)) = some (placed, only? slots) := by
  unfold only?
  split <;> rfl

theorem eraseDups_eq_singleton_iff {α : Type} [BEq α] [LawfulBEq α] {l : List α} {a : α} :
    l.eraseDups = [a] ↔ l ≠ [] ∧ ∀ x ∈ l, x = a := by
  constructor
  · intro h
    refine ⟨?_, fun x hx => List.mem_singleton.1 (h ▸ List.mem_eraseDups.2 hx)⟩
    rintro rfl
    cases h
  · rintro ⟨hne, hall⟩
    obtain ⟨b, rest, rfl⟩ := List.exists_cons_of_ne_nil hne
    obtain ⟨rfl, hrest⟩ := List.forall_mem_cons.1 hall
    have hothers : rest.filter (fun x => !x == b) = [] :=
      List.filter_eq_nil_iff.2 fun x hx => by simp [hrest x hx]
    rw [List.eraseDups_cons, hothers]
    rfl

theorem step?_eq_some_iff {placed : List Context} {next : Option String} :
    step? k id n = some (placed, next) ↔ Adds k id n placed next := by
  unfold step?
  constructor
  · intro h
    split at h
    · next hcopy =>
      split at h
      · next slot honly =>
        cases h
        exact .copied hcopy honly
      · cases h
    · next hembeds =>
      split at h
      · cases h
      · next hspoiled =>
        split at h
        · next found hfound =>
          obtain ⟨hne, hplaced⟩ := eraseDups_eq_singleton_iff.1 hfound
          cases (followed_eq found (embedded n)).symm.trans h
          exact .placed (Bool.eq_false_iff.2 hembeds) (isSpoiled_eq_false_iff.1 (Bool.eq_false_iff.2 hspoiled))
            (fun he => hne (he ▸ rfl)) (List.forall_mem_map.1 hplaced)
        · cases h
  · intro h
    cases h with
    | copied hcopy honly => rw [if_pos hcopy, honly]
    | placed hembeds htainted hne hplaced =>
      have hspoiled : isSpoiled k id n = false := isSpoiled_eq_false_iff.2 htainted
      have hfound : ((embedded n).map fun slot => n.embeds.getD slot []).eraseDups = [placed] :=
        eraseDups_eq_singleton_iff.2 ⟨fun he => hne (List.map_eq_nil_iff.1 he), List.forall_mem_map.2 hplaced⟩
      rw [hembeds, hspoiled, hfound]
      exact followed_eq placed (embedded n)

theorem leads_iff {l : Link} : Leads f k at' l ↔
    ∃ n, definition? f k at' = some (l.id, n) ∧ step? k l.id n = some (l.placed, l.next) := by
  simp only [definition?_eq_some_iff, step?_eq_some_iff]
  constructor
  · rintro ⟨hunique, n, hnode, hkind, hadds⟩
    exact ⟨n, ⟨hunique, hnode, hkind⟩, hadds⟩
  · rintro ⟨n, ⟨hunique, hnode, hkind⟩, hadds⟩
    exact ⟨hunique, n, hnode, hkind, hadds⟩

theorem Leads.eq {l l' : Link} (h : Leads f k at' l) (h' : Leads f k at' l') : l = l' := by
  obtain ⟨n, hdef, hstep⟩ := leads_iff.1 h
  obtain ⟨n', hdef', hstep'⟩ := leads_iff.1 h'
  obtain ⟨hid, rfl⟩ := Prod.mk.inj (Option.some.inj (hdef.symm.trans hdef'))
  obtain ⟨hplaced, hnext⟩ := Prod.mk.inj (Option.some.inj (hstep.symm.trans (hid ▸ hstep')))
  cases l
  cases l'
  cases hid
  cases hplaced
  cases hnext
  rfl

theorem Leads.mem_keys {l : Link} (h : Leads f k at' l) : l.id ∈ f.nodes.keys := by
  obtain ⟨n, hnode, -⟩ := h.adds
  exact Table.mem_keys_iff.2 ⟨n, hnode⟩

/-! ### Chains -/

/-- Links one after the other, from a position on. -/
inductive Chain (f : Function) (k : Knowledge) : Option Position → List Link → Prop
  | nil (start : Option Position) : Chain f k start []
  | cons {at' : Position} {l : Link} {links : List Link} (hleads : Leads f k at' l)
      (hrest : Chain f k l.after links) : Chain f k (some at') (l :: links)

/-- No definition of a chain occurs twice, or among those passed before. -/
def IsFresh (passed : List String) (links : List Link) : Prop := (passed ++ links.map Link.id).Nodup

/-- A chain without repetitions that every other one from the same position is a part of. -/
structure Farthest (f : Function) (k : Knowledge) (passed : List String) (start : Option Position)
    (links : List Link) : Prop where
  chain : Chain f k start links
  isFresh : IsFresh passed links
  isPrefix : ∀ links', Chain f k start links' → IsFresh passed links' → links' <+: links

variable {passed : List String} {start : Option Position} {l : Link} {links : List Link}

theorem isFresh_cons_iff : IsFresh passed (l :: links) ↔ l.id ∉ passed ∧ IsFresh (l.id :: passed) links := by
  have hperm : (passed ++ (l :: links).map Link.id).Perm (l.id :: passed ++ links.map Link.id) := List.perm_middle
  unfold IsFresh
  rw [hperm.nodup_iff]
  refine ⟨fun h => ⟨fun hmem => (List.nodup_cons.1 h).1 (List.mem_append_left _ hmem), h⟩, And.right⟩

theorem Chain.mem_keys (h : Chain f k start links) : ∀ l ∈ links, l.id ∈ f.nodes.keys := by
  induction h with
  | nil => exact fun _ h => absurd h List.not_mem_nil
  | cons hleads _ ih => exact List.forall_mem_cons.2 ⟨hleads.mem_keys, ih⟩

theorem length_le_size {ids : List String} (hids : ids.Nodup) (hkeys : ids ⊆ f.nodes.keys) :
    ids.length ≤ f.nodes.size := by
  have hle := (List.subperm_of_subset hids hkeys).length_le
  rwa [Table.keys, List.length_map] at hle

/-- A chain passes each node of the function once at most. -/
theorem Chain.length_le (h : Chain f k start links) (hfresh : IsFresh [] links) : links.length ≤ f.nodes.size := by
  have hle := length_le_size hfresh fun id hid => by
    obtain ⟨l, hl, rfl⟩ := List.mem_map.1 hid
    exact h.mem_keys l hl
  rwa [List.nil_append, List.length_map] at hle

/-- Nothing leads on from where a chain cannot start. -/
theorem farthest_nil (hpassed : passed.Nodup)
    (h : ∀ at', start = some at' → ∀ l, Leads f k at' l → l.id ∈ passed) :
    Farthest f k passed start [] where
  chain := .nil start
  isFresh := by rwa [IsFresh, List.map_nil, List.append_nil]
  isPrefix := fun links' hchain hfresh => by
    cases hchain with
    | nil => exact List.prefix_rfl
    | cons hleads _ => exact absurd (h _ rfl _ hleads) (isFresh_cons_iff.1 hfresh).1

theorem Farthest.cons (hleads : Leads f k at' l) (hnew : l.id ∉ passed)
    (h : Farthest f k (l.id :: passed) l.after links) : Farthest f k passed (some at') (l :: links) where
  chain := .cons hleads h.chain
  isFresh := isFresh_cons_iff.2 ⟨hnew, h.isFresh⟩
  isPrefix := fun links' hchain hfresh => by
    cases hchain with
    | nil => exact List.nil_prefix
    | cons hleads' hrest =>
      obtain rfl := hleads.eq hleads'
      exact List.cons_prefix_cons.2 ⟨rfl, h.isPrefix _ hrest (isFresh_cons_iff.1 hfresh).2⟩

/-- What a step of the walk collects and where it goes on from there. -/
theorem walk_succ_of_leads (hleads : Leads f k at' l) (hnew : l.id ∉ passed) (fuel : Nat) :
    walk f k (fuel + 1) passed at' = l.placed ++ match l.next with
      | some slot => walk f k fuel (l.id :: passed) ⟨slot, l.id⟩
      | none => [] := by
  obtain ⟨n, hdef, hstep⟩ := leads_iff.1 hleads
  rw [walk, hdef]
  dsimp only
  rw [if_neg hnew, hstep]
  cases l.next with
  | none => exact (List.append_nil _).symm
  | some slot => rfl

theorem walk_succ_of_not_leads (h : ∀ l, Leads f k at' l → l.id ∈ passed) (fuel : Nat) :
    walk f k (fuel + 1) passed at' = [] := by
  rw [walk]
  split
  · rfl
  · next id n hdef =>
    have hpassed : ∀ placed next, step? k id n = some (placed, next) → id ∈ passed := fun placed next hstep =>
      h ⟨id, placed, next⟩ (leads_iff.2 ⟨n, hdef, hstep⟩)
    split
    · rfl
    · next hnew =>
      split
      · rfl
      · next placed hstep => exact absurd (hpassed placed none hstep) hnew
      · next placed slot hstep => exact absurd (hpassed placed (some slot) hstep) hnew

/-- **The walk collects what the links of the farthest chain place.**  Its fuel is enough, since the definitions
that it has passed are nodes of the function. -/
theorem exists_farthest_walk (fuel : Nat) (hpassed : passed.Nodup) (hkeys : passed ⊆ f.nodes.keys)
    (hfuel : f.nodes.size < fuel + passed.length) (at' : Position) :
    ∃ links, Farthest f k passed (some at') links ∧ walk f k fuel passed at' = links.flatMap Link.placed := by
  induction fuel generalizing passed at' with
  | zero =>
    have hle := length_le_size hpassed hkeys
    omega
  | succ fuel ih =>
    by_cases h : ∃ l, Leads f k at' l ∧ l.id ∉ passed
    · obtain ⟨l, hleads, hnew⟩ := h
      have hpassed' : (l.id :: passed).Nodup := List.nodup_cons.2 ⟨hnew, hpassed⟩
      have hkeys' : l.id :: passed ⊆ f.nodes.keys := List.cons_subset.2 ⟨hleads.mem_keys, hkeys⟩
      obtain ⟨links, hfarthest, hlinks⟩ : ∃ links, Farthest f k (l.id :: passed) l.after links ∧
          (match l.next with
            | some slot => walk f k fuel (l.id :: passed) ⟨slot, l.id⟩
            | none => []) = links.flatMap Link.placed := by
        unfold Link.after
        cases l.next with
        | none => exact ⟨[], farthest_nil hpassed' nofun, rfl⟩
        | some slot => exact ih hpassed' hkeys' (by rw [List.length_cons]; omega) _
      refine ⟨l :: links, hfarthest.cons hleads hnew, ?_⟩
      rw [walk_succ_of_leads hleads hnew, hlinks, List.flatMap_cons]
    · have hnone : ∀ l, Leads f k at' l → l.id ∈ passed := fun l hleads => by
        by_contra hnew
        exact h ⟨l, hleads, hnew⟩
      refine ⟨[], farthest_nil hpassed fun at'' he => ?_, walk_succ_of_not_leads hnone fuel⟩
      cases he
      exact hnone

/-- **The layers of an argument** are those of the rule, those around it and what the farthest chain of
definitions places. -/
theorem exists_farthest_layers (f : Function) (k : Knowledge) (rule : SinkRule) (id : String)
    (around : List Context) (slot : Option String) :
    ∃ links, Farthest f k [] (slot.map fun slot => ⟨slot, id⟩) links ∧
      layers f k rule id around slot = rule.layers ++ around ++ links.flatMap Link.placed := by
  cases slot with
  | none => exact ⟨[], farthest_nil List.nodup_nil nofun, (List.append_nil _).symm⟩
  | some slot =>
    obtain ⟨links, hfarthest, hlinks⟩ := exists_farthest_walk (f.nodes.size + 1) List.nodup_nil
      (List.nil_subset _) (Nat.lt_succ_self _) ⟨slot, id⟩
    exact ⟨links, hfarthest, congrArg (rule.layers ++ around ++ ·) hlinks⟩

/-! ### Less is known -/

/-- Less is known of the definitions that reach positions: sets of them have grown, if they are not empty. Or more
operands are known to be tainted. -/
structure Knowledge.Blurs (k k' : Knowledge) : Prop where
  definitions : ∀ at', k'.definitions at' = k.definitions at' ∨
    (k.definitions at').toList ≠ [] ∧ ∀ key ∈ k.definitions at', key ∈ k'.definitions at'
  tainted : ∀ id, ∀ slot ∈ k.taintedAt id, slot ∈ k'.taintedAt id

theorem Knowledge.Blurs.toList_definitions (h : k.Blurs k') {key : String}
    (honly : (k'.definitions at').toList = [key]) : (k.definitions at').toList = [key] := by
  rcases h.definitions at' with heq | ⟨hne, hsub⟩
  · rw [← heq, honly]
  · have hall : ∀ other ∈ k.definitions at', other = key := fun other hother => by
      have hmem := hsub other hother
      rwa [OrderedSet.mem_def, honly, List.mem_singleton] at hmem
    obtain ⟨first, hfirst⟩ := List.exists_mem_of_ne_nil _ hne
    have hkey : key ∈ k.definitions at' := hall first hfirst ▸ hfirst
    have heq : k.definitions at' = k'.definitions at' := OrderedSet.eq_of_mem_iff fun other => by
      rw [OrderedSet.mem_def (s := k'.definitions at'), honly, List.mem_singleton]
      exact ⟨hall other, fun he => he ▸ hkey⟩
    rw [heq, honly]

theorem Adds.mono (htainted : ∀ slot ∈ k.taintedAt id, slot ∈ k'.taintedAt id) {placed : List Context}
    {next : Option String} (h : Adds k' id n placed next) : Adds k id n placed next := by
  cases h with
  | copied hcopy honly => exact .copied hcopy honly
  | placed hembeds hinside hne hplaced =>
    exact .placed hembeds (fun slot hslot => hinside slot (htainted slot hslot)) hne hplaced

theorem Leads.mono (h : k.Blurs k') (hleads : Leads f k' at' l) : Leads f k at' l where
  unique := by
    obtain ⟨key, honly, hkey⟩ := hleads.unique
    exact ⟨key, h.toList_definitions honly, hkey⟩
  adds := by
    obtain ⟨n, hnode, hkind, hadds⟩ := hleads.adds
    exact ⟨n, hnode, hkind, hadds.mono (h.tainted l.id)⟩

theorem Chain.mono (h : k.Blurs k') (hchain : Chain f k' start links) : Chain f k start links := by
  induction hchain with
  | nil start => exact .nil start
  | cons hleads _ ih => exact .cons (hleads.mono h) ih

theorem isPrefix_flatMap {links' : List Link} (h : links' <+: links) :
    links'.flatMap Link.placed <+: links.flatMap Link.placed := by
  obtain ⟨rest, rfl⟩ := h
  rw [List.flatMap_append]
  exact List.prefix_append _ _

/-- **Where less is known, fewer inner layers are.** -/
theorem isPrefix_layers (h : k.Blurs k') (rule : SinkRule) (id : String) (around : List Context)
    (slot : Option String) : layers f k' rule id around slot <+: layers f k rule id around slot := by
  obtain ⟨links, hfarthest, hlinks⟩ := exists_farthest_layers f k rule id around slot
  obtain ⟨links', hfarthest', hlinks'⟩ := exists_farthest_layers f k' rule id around slot
  rw [hlinks, hlinks', List.prefix_append_right_inj]
  exact isPrefix_flatMap (hfarthest.isPrefix _ (hfarthest'.chain.mono h) hfarthest'.isFresh)

/-! ### The context of an argument -/

theorem exists_slotAt {index : Int} (h : -(n.args.length : Int) ≤ index) : ∃ slot, slotAt n index = .ok slot := by
  unfold slotAt
  split
  · exact ⟨_, rfl⟩
  · next hneg =>
    have hlt : (index + n.args.length).toNat < n.args.length := by omega
    rw [List.getElem?_eq_getElem hlt]
    exact ⟨_, if_pos (by omega)⟩

/-- **The context of a sink argument.**  The walk passes each node of the function once at most.  The layers of
the context, from the outermost on, are those of the rule, those around the argument and what the definitions of
the farthest chain place, without adjacent repetitions; where less is known, they are a prefix of these.  An index
counts from the end if it is negative. -/
theorem exists_contextOf (f : Function) (k : Knowledge) (rule : SinkRule) (hrule : rule.layers ≠ []) (id : String)
    (n : Node) (index : Int) (hindex : -(n.args.length : Int) ≤ index) :
    ∃ slot c links, slotAt n index = .ok slot ∧
      SinkSite.contextOf f k rule id (n.enclosing.getD index []) slot = some c ∧
      Farthest f k [] (slot.map fun slot => ⟨slot, id⟩) links ∧ links.length ≤ f.nodes.size ∧
      c.layers.reverse =
        (rule.layers ++ n.enclosing.getD index [] ++ links.flatMap Link.placed).destutter (· ≠ ·) ∧
      c.outermost = rule.layers.head hrule ∧ c.layers.IsChain (· ≠ ·) ∧
      ∀ k', k.Blurs k' → ∃ c', SinkSite.contextOf f k' rule id (n.enclosing.getD index []) slot = some c' ∧
        c'.layers.reverse <+: c.layers.reverse := by
  obtain ⟨slot, hslot⟩ := exists_slotAt hindex
  obtain ⟨links, hfarthest, hlinks⟩ := exists_farthest_layers f k rule id (n.enclosing.getD index []) slot
  have hne : ∀ k, layers f k rule id (n.enclosing.getD index []) slot ≠ [] := fun k he => by
    obtain ⟨_, -, hlayers⟩ := exists_farthest_layers f k rule id (n.enclosing.getD index []) slot
    rw [hlayers, List.append_assoc] at he
    exact hrule (List.append_eq_nil_iff.1 he).1
  obtain ⟨c, hc⟩ := Composite.exists_ofOutermost? (hne k)
  have hlayers := Composite.reverse_layers_of_ofOutermost? hc
  refine ⟨slot, c, links, hslot, hc, hfarthest, hfarthest.chain.length_le hfarthest.isFresh, hlinks ▸ hlayers,
    ?_, ?_, fun k' hblurs => ?_⟩
  · refine Composite.outermost_of_ofOutermost? hc ?_
    rw [hlinks, List.append_assoc, List.head?_append_of_ne_nil _ hrule, List.head?_eq_some_head hrule]
  · have hchain := List.isChain_destutter (· ≠ ·) (layers f k rule id (n.enclosing.getD index []) slot)
    rw [← hlayers, List.isChain_reverse] at hchain
    exact hchain.imp fun _ _ h => h.symm
  · obtain ⟨c', hc'⟩ := Composite.exists_ofOutermost? (hne k')
    refine ⟨c', hc', ?_⟩
    rw [hlayers, Composite.reverse_layers_of_ofOutermost? hc']
    exact Composite.isPrefix_destutter (isPrefix_layers hblurs rule id _ slot)

/-- Shows a page that an attribute is written into; the attribute is copied to itself in a loop. -/
def page : Function := .bare "f" "attr" []
  [("attr", { Node.bare .assign ["attr", "page"] with target := .text "attr", operands := ["attr"] }),
    ("page", { Node.bare .assign ["show"] with
      target := .text "page", operands := ["attr", "title"], embeds := .ofList [("attr", [.htmlAttribute])] }),
    ("show", showing)]
where
  /-- The call that shows the page. -/
  showing : Node :=
    { Node.bare .call [] with args := [some "page"], enclosing := .ofList [(0, [.htmlBody])] }

/-- Every slot of the page has one definition. -/
def pageKnowledge (tainted : Option (NameMap Names)) : Knowledge where
  reaching := .ofList
    [("attr", .ofList [(.text "attr", .ofList ["f::attr"])]),
      ("page", .ofList [(.text "attr", .ofList ["f::attr"])]),
      ("show", .ofList [(.text "page", .ofList ["f::page"])])]
  tainted := tainted

/-- What the page tells a sink that places its argument into the body. -/
def pageContext (k : Knowledge) : Option Composite :=
  SinkSite.contextOf page k ⟨[.htmlBody], none⟩ "show" [.htmlBody] (some "page")

/-- A title that is tainted too takes the attribute out of the context. -/
theorem exists_contextOf_page : ∃ c c', pageContext (pageKnowledge none) = some c ∧
    c.layers = [.htmlAttribute, .htmlBody] ∧
      pageContext (pageKnowledge (some (.ofList [("page", .ofList ["title"])]))) = some c' ∧
        c'.layers = [.htmlBody] ∧ c'.layers.reverse <+: c.layers.reverse := by
  obtain ⟨slot, c, links, hslot, hc, -, -, -, -, -, hblurs⟩ :=
    exists_contextOf page (pageKnowledge none) ⟨[.htmlBody], none⟩ (List.cons_ne_nil _ _) "show" page.showing 0
      (by decide)
  obtain rfl : slot = some "page" := Except.ok.inj (hslot.symm.trans (by decide))
  have haround : page.showing.enclosing.getD 0 [] = [.htmlBody] := by decide +kernel
  rw [haround] at hc hblurs
  obtain ⟨c', hc', hprefix⟩ := hblurs (pageKnowledge (some (.ofList [("page", .ofList ["title"])])))
    ⟨fun _ => .inl rfl, fun id slot h => absurd h List.not_mem_nil⟩
  have hlayers : (pageContext (pageKnowledge none)).map Composite.layers = some [.htmlAttribute, .htmlBody] := by
    decide +kernel
  have hlayers' : (pageContext (pageKnowledge (some (.ofList [("page", .ofList ["title"])])))).map
      Composite.layers = some [.htmlBody] := by decide +kernel
  rw [show pageContext (pageKnowledge none) = some c from hc, Option.map_some, Option.some_inj] at hlayers
  rw [show pageContext _ = some c' from hc', Option.map_some, Option.some_inj] at hlayers'
  exact ⟨c, c', hc, hlayers, hc', hlayers', hprefix⟩

end Placement

end TaintFlow
