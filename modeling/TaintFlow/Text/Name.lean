import TaintFlow.Text.Blank
import TaintFlow.Text.Case
import TaintFlow.Text.Parts

/-!
# Finding a thing by its name

Names are words joined by hyphens. A name is recognised whatever its letter case, with underscores
for hyphens and blanks around it; the second attempt, in capitals, also accepts letters that only
agree with a name in capitals.
-/

namespace TaintFlow.Text

def hyphenated (s : String) : String := replaceChar '_' '-' (lower s)

def underscored (s : String) : String := replaceChar '-' '_' (upper s)

/-- The candidate that a text names. -/
def findNamed? {α : Type} (candidates : List α) (name : α → String) (s : String) : Option α :=
  let text := trim s
  match candidates.find? (fun a => name a == hyphenated text) with
  | some a => some a
  | none => candidates.find? (fun a => underscored (name a) == underscored text)

end TaintFlow.Text
