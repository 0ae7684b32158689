import TaintFlow.Console.Literal
import TaintFlow.Text.Blank

/-!
# Handlers

A tag may name a handler for what the user does with the text, with arguments between brackets. The
arguments have to be literals: numbers, texts, and collections of them. Nothing is ever handled on a
plain terminal, so all that matters is what is wrong with the arguments.
-/

namespace TaintFlow.Console.Handler

/-- The arguments of a handler, with their brackets. Without any they are empty, and what does not
have the form of a handler is a literal as a whole. -/
def argumentsOf (cs : List Char) : List Char :=
  match cs.dropWhile (fun c => Text.isWordChar c || c = '.') with
  | [] => ['(', ')']
  | '(' :: rest =>
    if rest.getLast? = some ')' && '\n' ∉ rest then '(' :: rest else cs
  | _ => cs

/-- What is wrong with the parameters of a handler, as a message that shows them. -/
def fault? (parameters : String) : Option String :=
  let arguments := argumentsOf (Text.strip Text.isBlank parameters.toList)
  (Literal.fault? arguments).map (fun
    | .form why =>
      "error parsing " ++ Text.quoted (String.ofList arguments) ++ " in " ++ Text.quoted parameters
        ++ "; " ++ why
    | .flaw f => "error parsing " ++ Text.quoted parameters ++ "; " ++ f.message)

end TaintFlow.Console.Handler
