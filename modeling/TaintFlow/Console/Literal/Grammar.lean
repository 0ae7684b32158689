import TaintFlow.Console.Literal.Peg

/-!
# The grammar of literals

Literals are read as expressions, so that what is written can be told apart from what is no expression
at all. Beside the rules of expressions there are rules for common faults, each with its complaint.
-/

namespace TaintFlow.Console.Literal

inductive Rule where
  | whole | indented | list | expression | bareExpression | clumsyExpression | oldStatement
  | starList | starItem | namedExpression | assignment | clumsyAssignment
  | disjunction | conjunction | inversion | comparison | comparand
  | bitOr | bitXor | bitAnd | shift | sum | term | factor | power | primary | trailer | atom
  | tuple | group | clumsyGroup | generator | setGenerator | clumsyGenerator | starred
  | elements | element | set | dict | entries | entry | clumsyEntries | clumsyEntry
  | arguments | clumsyArguments | argumentList | argument | keywordList
  | keywordOrStarred | keywordOrEntries | clumsyKeyword
deriving DecidableEq, Hashable, Repr

namespace Rule

abbrev Pattern : Type := List (Peg Rule)

/-- An alternative whose parts are passed on. -/
def pass (pattern : Pattern) : Alternative Rule := ⟨pattern, fun _ ns => .nodes ns, false⟩

/-- An alternative that makes one part of those found. -/
def make (pattern : Pattern) (f : List Node → Node) : Alternative Rule :=
  ⟨pattern, fun _ ns => .nodes [f ns], false⟩

/-- An alternative that leads to a fault, on a hunt. -/
def hunt (r : Rule) : Alternative Rule := ⟨[.rule r], fun _ ns => .nodes ns, true⟩

/-- An alternative that is a fault. -/
def fault (pattern : Pattern) (why : String) : Alternative Rule :=
  ⟨pattern, fun _ _ => .complaint why, false⟩

/-- A fault whose complaint names the first part found. -/
def faultOf (pattern : Pattern) (why : Node → String) : Alternative Rule :=
  ⟨pattern, fun _ ns => match ns with
    | n :: _ => .complaint (why n)
    | [] => .nothing, false⟩

def missingComma : String := "invalid syntax. Perhaps you forgot a comma?"

def equalsSign : String := "invalid syntax. Maybe you meant '==' or ':=' instead of '='?"

def starredValue : String := "cannot use a starred expression in a dictionary value"

def missingValue : String := "expression expected after dictionary key and ':'"

def missingElse : String := "expected 'else' after 'if' expression"

/-- An operation on the parts found, if there is more than one. -/
def operation : List Node → Node
  | [n] => n
  | _ => .operation

def sumOf : List Node → Node
  | [n] => n
  | [left, right] => .sum left right
  | _ => .operation

/-- A value with its trailers. Only a call of the empty set is told apart from the others. -/
def primaryOf : List Node → Node
  | [n] => n
  | [.name "set", .call true] => .call true
  | ns =>
    match ns.getLast? with
    | some .member => .member
    | _ => .call false

/-- Operands of one kind with marks between them. -/
def operands (operand : Rule) (marks : List String) : Pattern :=
  [.rule operand, .many (.all [.either (marks.map .word), .rule operand])]

def key (word : String) : Pattern := [.word word, .word "="]

/-- The alternatives of a rule, in order. -/
def alternatives : Rule → List (Alternative Rule)
  | whole => [
    pass [.rule list, .many .newline, .finish],
    hunt indented]
  | indented => [fault [.rule list, .repeated .newline, .indent] "unexpected indent"]
  | list => [
    make [.rule expression, .repeated (.all [.word ",", .rule expression]), .optional (.word ",")]
      .tuple,
    make [.rule expression, .word ","] .tuple,
    pass [.rule expression]]
  | expression => [
    hunt clumsyExpression,
    hunt oldStatement,
    make [.rule disjunction, .word "if", .rule disjunction, .word "else", .rule expression]
      (fun _ => .conditional),
    pass [.rule disjunction]]
  | bareExpression => [
    make [.rule disjunction, .word "if", .rule disjunction, .word "else", .rule expression]
      (fun _ => .conditional),
    pass [.rule disjunction]]
  | clumsyExpression => [
    ⟨[.unless (.either [.all [.name, .quotation], .softKeyword]), .rule disjunction,
        .plainly (.rule bareExpression)],
      fun level ns =>
        if level = 0 || (ns.head?.map Node.isLegacy).getD false then .nothing
        else .complaint missingComma, false⟩,
    fault [.rule disjunction, .word "if", .rule disjunction,
      .unless (.either [.word "else", .word ":"])] missingElse]
  | oldStatement => [
    ⟨[.name, .unless (.word "("), .rule starList], fun _ ns => match ns with
      | .name s :: _ =>
        if (Node.name s).isLegacy then
          .complaint ("Missing parentheses in call to '" ++ s ++ "'. Did you mean " ++ s ++ "(...)?")
        else .nothing
      | _ => .nothing, false⟩]
  | starList => [
    make [.rule starItem, .repeated (.all [.word ",", .rule starItem]), .optional (.word ",")]
      .tuple,
    make [.rule starItem, .word ","] .tuple,
    pass [.rule starItem]]
  | starItem => [
    make [.word "*", .rule bitOr] (fun _ => .starred),
    pass [.rule expression]]
  | namedExpression => [
    pass [.rule assignment],
    hunt clumsyAssignment,
    pass [.rule expression, .unless (.word ":=")]]
  | assignment => [make [.name, .word ":=", .rule expression] (fun _ => .assignment)]
  | clumsyAssignment => [
    faultOf [.rule expression, .word ":=", .rule expression]
      (fun n => "cannot use assignment expressions with " ++ n.described),
    fault [.name, .word "=", .rule bitOr, .unless (.either [.word "=", .word ":="])] equalsSign,
    faultOf [
      .unless (.either [.rule tuple, .rule generator, .word "True", .word "None", .word "False"]),
      .rule bitOr, .word "=", .rule bitOr, .unless (.either [.word "=", .word ":="])]
      (fun n => "cannot assign to " ++ n.described
        ++ " here. Maybe you meant '==' instead of '='?")]
  | disjunction => [
    make [.rule conjunction, .repeated (.all [.word "or", .rule conjunction])] (fun _ => .operation),
    pass [.rule conjunction]]
  | conjunction => [
    make [.rule inversion, .repeated (.all [.word "and", .rule inversion])] (fun _ => .operation),
    pass [.rule inversion]]
  | inversion => [
    make [.word "not", .rule inversion] (fun _ => .operation),
    pass [.rule comparison]]
  | comparison => [
    make [.rule bitOr, .repeated (.rule comparand)] (fun _ => .comparison),
    pass [.rule bitOr]]
  | comparand =>
    ([["=="], ["!="], ["<="], ["<"], [">="], [">"], ["not", "in"], ["in"], ["is", "not"], ["is"]]
      : List (List String)).map (fun words => pass (words.map .word ++ [.rule bitOr]))
  | bitOr => [make (operands bitXor ["|"]) operation]
  | bitXor => [make (operands bitAnd ["^"]) operation]
  | bitAnd => [make (operands shift ["&"]) operation]
  | shift => [make (operands sum ["<<", ">>"]) operation]
  | sum => [make (operands term ["+", "-"]) sumOf]
  | term => [make (operands factor ["*", "/", "//", "%", "@"]) operation]
  | factor => [
    make [.either [.word "+", .word "-"], .rule factor] (fun ns => .signed (ns.headD .operation)),
    make [.word "~", .rule factor] (fun _ => .operation),
    pass [.rule power]]
  | power => [
    make [.rule primary, .word "**", .rule factor] (fun _ => .operation),
    pass [.rule primary]]
  | primary => [make [.rule atom, .many (.rule trailer)] primaryOf]
  | trailer => [
    make [.word ".", .name] (fun _ => .member),
    make [.rule generator] (fun _ => .call false),
    make [.word "(", .optional (.rule arguments), .word ")"] (fun ns => .call ns.isEmpty)]
  | atom => [
    pass [.name],
    make [.word "True"] (fun _ => .constant "True"),
    make [.word "False"] (fun _ => .constant "False"),
    make [.word "None"] (fun _ => .constant "None"),
    pass [.quotations],
    pass [.number],
    pass [.ahead (.word "("), .either [.rule tuple, .rule group, .rule generator]],
    pass [.ahead (.word "\x7b"), .either [.rule dict, .rule set, .rule setGenerator]],
    make [.word "..."] (fun _ => .ellipsis)]
  | tuple => [
    make [.word "(", .optional (.all [.rule element, .word ",", .optional (.rule elements)]),
      .word ")"] .tuple]
  | group => [
    pass [.word "(", .rule namedExpression, .word ")"],
    hunt clumsyGroup]
  | clumsyGroup => [
    fault [.word "(", .rule starred, .word ")"] "cannot use starred expression here",
    fault [.word "(", .word "**", .rule expression, .word ")"]
      "cannot use double starred expression here"]
  | generator => [
    pass [.word "(", .either [.rule assignment, .all [.rule expression, .unless (.word ":=")]],
      .never],
    hunt clumsyGenerator]
  | setGenerator => [hunt clumsyGenerator]
  | clumsyGenerator => [
    pass [.either [.word "(", .word "\x7b"], .rule starred, .never],
    pass [.word "\x7b", .rule element, .word ",", .rule elements, .never]]
  | starred => [
    make [.word "*", .rule expression] (fun _ => .starred),
    fault [.word "*"] "Invalid star expression"]
  | elements => [pass [.separated (.rule element), .optional (.word ",")]]
  | element => [
    make [.word "*", .rule bitOr] (fun _ => .starred),
    pass [.rule namedExpression]]
  | set => [make [.word "\x7b", .rule elements, .word "\x7d"] .set]
  | dict => [
    make [.word "\x7b", .optional (.rule entries), .word "\x7d"] .dict,
    pass [.word "\x7b", .rule clumsyEntries, .word "\x7d"]]
  | entries => [pass [.separated (.rule entry), .optional (.word ",")]]
  | entry => [
    ⟨[.word "**", .rule bitOr], fun _ ns => .nodes (.absent :: ns), false⟩,
    pass [.rule expression, .word ":", .rule expression]]
  | clumsyEntries => [
    pass [.separated (.rule entry), .word ",", .rule clumsyEntry],
    fault [.rule expression, .word ":", .word "*", .rule bitOr] starredValue,
    fault [.rule expression, .word ":", .ahead (.either [.word "\x7d", .word ","])] missingValue]
  | clumsyEntry => [
    fault [.rule expression, .unless (.word ":")] "':' expected after dictionary key",
    fault [.rule expression, .word ":", .word "*", .rule bitOr] starredValue,
    fault [.rule expression, .word ":", .ahead (.either [.word "\x7d", .word ","])] missingValue]
  | arguments => [
    pass [.rule argumentList, .optional (.word ","), .ahead (.word ")")],
    hunt clumsyArguments]
  | clumsyArguments => [
    fault [.rule argumentList, .word ",", .word "*"]
      "iterable argument unpacking follows keyword argument unpacking",
    ⟨[.rule argumentList, .word ",", .rule argumentList], fun _ ns =>
      let isOpen := ns.any (fun
        | .keyword false => true
        | _ => false)
      .complaint ("positional argument follows keyword argument"
        ++ (if isOpen then " unpacking" else "")), false⟩]
  | argumentList => [
    pass [.separated (.rule argument), .optional (.all [.word ",", .rule keywordList])],
    pass [.rule keywordList]]
  | argument => [
    pass [.rule starred],
    pass [.either [.rule assignment, .all [.rule expression, .unless (.word ":=")]],
      .unless (.word "=")]]
  | keywordList => [
    pass [.separated (.rule keywordOrStarred), .word ",", .separated (.rule keywordOrEntries)],
    pass [.separated (.rule keywordOrStarred)],
    pass [.separated (.rule keywordOrEntries)]]
  | keywordOrStarred => [
    hunt clumsyKeyword,
    make [.name, .word "=", .rule expression] (fun _ => .keyword true),
    pass [.rule starred]]
  | keywordOrEntries => [
    hunt clumsyKeyword,
    make [.name, .word "=", .rule expression] (fun _ => .keyword true),
    make [.word "**", .rule expression] (fun _ => .keyword false)]
  | clumsyKeyword => [
    fault (key "True") "cannot assign to True",
    fault (key "False") "cannot assign to False",
    fault (key "None") "cannot assign to None",
    fault [.unless (.all [.name, .word "="]), .rule expression, .word "="]
      "expression cannot contain assignment, perhaps you meant \"==\"?"]

/-- The rules whose findings are remembered. -/
def remembered : List Rule :=
  [expression, starItem, clumsyAssignment, disjunction, conjunction, inversion, bitOr, bitXor,
    bitAnd, shift, sum, term, factor, primary, arguments]

def production (r : Rule) : Production Rule := ⟨r.alternatives, decide (r ∈ remembered)⟩

end Rule

/-- How deep rules can be nested for a number of tokens. -/
def fuelFor (ts : Array Token) : Nat := 100 * (ts.size + 2)

/-- Reads tokens as a whole. -/
def readWhole (ts : Array Token) (onHunt : Bool) : Except String (Option Node) := do
  let (found, _) ← (Peg.read Rule.production ts (fuelFor ts) onHunt (.rule .whole) 0).run ∅
  return found.bind (fun (ns, _) => ns.head?)

/-- The expression that a text is, or the complaint about it. -/
def parse (cs : List Char) : Except String Node := do
  let ts := (← tokens cs).toArray
  match ← readWhole ts false with
  | some n => return n
  | none =>
    let _ ← readWhole ts true
    .error "invalid syntax"

end TaintFlow.Console.Literal
