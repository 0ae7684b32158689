import Std.Data.HashMap
import TaintFlow.Console.Literal.Node

/-!
# Reading by ordered choice

A grammar gives each rule its alternatives, which are tried in order; the first one that fits decides.
Some alternatives describe faults: they are tried only on a hunt, after a plain reading found nothing,
and the first one that fits is the complaint. What a rule finds at a position can be remembered, and is
then found again whether or not a hunt is on.
-/

namespace TaintFlow.Console.Literal

/-- A pattern of tokens over rules. -/
inductive Peg (ρ : Type) where
  /-- A keyword or a mark. -/
  | word (s : String)
  | name
  /-- A name that is a keyword elsewhere. -/
  | softKeyword
  | number
  /-- A quotation that is only looked at. -/
  | quotation
  /-- All quotations that stand side by side. -/
  | quotations
  | newline
  | indent
  | finish
  | rule (r : ρ)
  | all (ps : List (Peg ρ))
  | either (ps : List (Peg ρ))
  | optional (p : Peg ρ)
  | many (p : Peg ρ)
  | ahead (p : Peg ρ)
  | unless (p : Peg ρ)
  /-- A pattern that is read without a hunt. -/
  | plainly (p : Peg ρ)

namespace Peg

/-- A pattern that nothing fits. -/
def never {ρ : Type} : Peg ρ := .either []

def repeated {ρ : Type} (p : Peg ρ) : Peg ρ := .all [p, .many p]

/-- One or more times, with commas between. -/
def separated {ρ : Type} (p : Peg ρ) : Peg ρ := .all [p, .many (.all [.word ",", p])]

end Peg

/-- What becomes of an alternative that fits. -/
inductive Answer where
  | nodes (ns : List Node)
  /-- The rule does not fit after all. -/
  | nothing
  | complaint (why : String)

structure Alternative (ρ : Type) where
  pattern : List (Peg ρ)
  /-- The answer, from the number of brackets open after the last token and the parts found. -/
  answer : Nat → List Node → Answer
  isFault : Bool

structure Production (ρ : Type) where
  alternatives : List (Alternative ρ)
  isRemembered : Bool

/-- The parts that a pattern found, and the position after it. -/
abbrev Found : Type := Option (List Node × Nat)

abbrev Memory (ρ : Type) [BEq ρ] [Hashable ρ] : Type := Std.HashMap (ρ × Nat) Found

abbrev Reading (ρ : Type) [BEq ρ] [Hashable ρ] : Type → Type :=
  StateT (Memory ρ) (Except String)

/-- The symbol at a position. A text that ends too early is a complaint once its end is looked at. -/
def symbolAt (ts : Array Token) (i : Nat) : Except String Symbol :=
  match ts[i]?.map Token.symbol with
  | some (.stop why) => .error why
  | some s => .ok s
  | none => .ok .finish

/-- How many brackets are open after the token before a position. -/
def levelBefore (ts : Array Token) (i : Nat) : Nat := (ts[i - 1]?.map Token.level).getD 0

def softKeywords : List String := ["_", "case", "match"]

/-- The quotations from a position on, in at most `fuel` steps. -/
def quotationsAt (ts : Array Token) : Nat → Nat → Except String (List Quotation)
  | 0, _ => .ok []
  | fuel + 1, i => do
    match ← symbolAt ts i with
    | .quotation q => return q :: (← quotationsAt ts fuel (i + 1))
    | _ => return []

variable {ρ : Type} [BEq ρ] [Hashable ρ]

/-- Reads a pattern at a position, in at most `fuel` nested steps. -/
def Peg.read (g : ρ → Production ρ) (ts : Array Token) :
    Nat → Bool → Peg ρ → Nat → Reading ρ Found
  | 0, _, _, _ => pure none
  | fuel + 1, onHunt, p, i => do
    let single (fits : Symbol → Option (List Node)) : Reading ρ Found := do
      return (fits (← symbolAt ts i)).map (fun ns => (ns, i + 1))
    match p with
    | .word s => single (fun
      | .keyword w | .mark w => if w = s then some [] else none
      | _ => none)
    | .name => single (fun
      | .name s => some [.name s]
      | _ => none)
    | .softKeyword => single (fun
      | .name s => if s ∈ softKeywords then some [] else none
      | _ => none)
    | .number => single (fun
      | .number imaginary => some [.number imaginary]
      | _ => none)
    | .quotation => single (fun
      | .quotation _ => some []
      | _ => none)
    | .newline => single (fun s => if s = .newline then some [] else none)
    | .indent => single (fun s => if s = .indent then some [] else none)
    | .finish => single (fun s => if s = .finish then some [] else none)
    | .quotations =>
      match ← quotationsAt ts ts.size i with
      | [] => return none
      | qs => return some ([← Quotation.join qs], i + qs.length)
    | .rule r =>
      let production := g r
      let memory ← get
      match if production.isRemembered then memory[(r, i)]? else none with
      | some found => return found
      | none =>
        let decided ← production.alternatives.foldlM (fun (decided : Option Found) a => do
          if decided.isSome || (a.isFault && !onHunt) then return decided
          match ← Peg.read g ts fuel onHunt (.all a.pattern) i with
          | none => return none
          | some (ns, j) =>
            match a.answer (levelBefore ts j) ns with
            | .nodes ns => return some (some (ns, j))
            | .nothing => return some none
            | .complaint why => throw why) none
        let found := decided.getD none
        if production.isRemembered then modify (fun m => m.insert (r, i) found)
        return found
    | .all ps =>
      ps.foldlM (fun (found : Found) p => do
        match found with
        | none => return none
        | some (ns, i) =>
          return (← Peg.read g ts fuel onHunt p i).map (fun (more, j) => (ns ++ more, j)))
        (some ([], i))
    | .either ps =>
      ps.foldlM (fun (found : Found) p =>
        if found.isSome then pure found else Peg.read g ts fuel onHunt p i) none
    | .optional p => return (← Peg.read g ts fuel onHunt p i).orElse (fun _ => some ([], i))
    | .many p =>
      match ← Peg.read g ts fuel onHunt p i with
      | none => return some ([], i)
      | some (ns, j) =>
        return (← Peg.read g ts fuel onHunt (.many p) j).map (fun (more, j) => (ns ++ more, j))
    | .ahead p => return (← Peg.read g ts fuel onHunt p i).map (fun _ => ([], i))
    | .unless p =>
      return if (← Peg.read g ts fuel onHunt p i).isSome then none else some ([], i)
    | .plainly p => Peg.read g ts fuel false p i

end TaintFlow.Console.Literal
