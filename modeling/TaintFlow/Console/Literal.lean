import TaintFlow.Console.Literal.Grammar

/-!
# Literals

A literal is an expression that is a value by itself: a number, a text, a word that stands for a value,
or a collection of literals. The elements of a set and the keys of a dictionary may not be sets or
dictionaries.
-/

namespace TaintFlow.Console.Literal

/-- What is wrong with an expression that should be a literal. -/
inductive Flaw where
  /-- Some part of it is no literal. -/
  | noLiteral
  /-- A dictionary takes entries from elsewhere. -/
  | noKey
  /-- A collection cannot have a value of this kind as an element or a key. -/
  | unhashable (kind : String)
deriving DecidableEq, Repr

def Flaw.message : Flaw → String
  | noLiteral => "malformed node or string on line 1"
  | noKey => "malformed node or string: None"
  | unhashable kind => "unhashable type: '" ++ kind ++ "'"

/-- The kind of a value that is no element and no key, if it is one; the value of a literal is not
needed otherwise. -/
abbrev Kind : Type := Option String

/-- A part that has to be an element or a key. -/
def asKey (kind : Kind) : Except Flaw Unit :=
  match kind with
  | some kind => .error (.unhashable kind)
  | none => .ok ()

mutual

/-- The kind of a literal. -/
def kindOf : Node → Except Flaw Kind
  | .number _ | .text | .bytes | .constant _ | .ellipsis => .ok none
  | .tuple items => do return (← kindsOf items).findSome? id
  | .set items => do
    checkElements items
    return some "set"
  | .dict parts => do
    checkEntries parts
    return some "dict"
  | .call true => .ok (some "set")
  | .signed operand => if operand.isNumber then .ok none else .error .noLiteral
  | .sum left (.number true) =>
    match left with
    | .number false | .signed (.number false) => .ok none
    | _ => .error .noLiteral
  | .absent => .error .noKey
  | _ => .error .noLiteral

def kindsOf : List Node → Except Flaw (List Kind)
  | [] => .ok []
  | n :: rest => do return (← kindOf n) :: (← kindsOf rest)

def checkElements : List Node → Except Flaw Unit
  | [] => .ok ()
  | n :: rest => do
    asKey (← kindOf n)
    checkElements rest

def checkEntries : List Node → Except Flaw Unit
  | key :: value :: rest => do
    let kind ← kindOf key
    let _ ← kindOf value
    asKey kind
    checkEntries rest
  | _ => .ok ()

end

/-- What is wrong with a text that should be a literal: a complaint about its form, or a flaw. -/
inductive Fault where
  | form (why : String)
  | flaw (f : Flaw)
deriving DecidableEq, Repr

def fault? (cs : List Char) : Option Fault :=
  match parse cs with
  | .error why => some (.form why)
  | .ok n =>
    match kindOf n with
    | .ok _ => none
    | .error f => some (.flaw f)

end TaintFlow.Console.Literal
