/-
# Rule ids

A rule id is `CUBTEK-`, a category in capital letters, a hyphen and three
decimal digits. The digits may be of any script, and one newline at the end is
overlooked.

Key definitions: `categoryOf?`, `RuleInfo`, `RuleInfo.create`.
-/
import StyleCheck.Severity
import StyleCheck.Text.Digit
import StyleCheck.Text.Search

namespace StyleCheck

open Text

/-- The category of a rule id; what is no rule id has none. -/
def categoryOf? (id : List Char) : Option (List Char) :=
  match dropWord? "CUBTEK-".toList id with
  | some rest =>
    let category := rest.takeWhile Char.isUpper
    match rest.dropWhile Char.isUpper with
    | '-' :: a :: b :: c :: tail =>
      if category ≠ [] ∧ isDigit a ∧ isDigit b ∧ isDigit c ∧ (tail = [] ∨ tail = ['\n']) then
        some category
      else none
    | _ => none
  | none => none

/-- What is fixed about a rule. -/
structure RuleInfo where
  id : String
  name : String
  description : String
  category : String
  defaultSeverity : Severity := .warning
  deriving DecidableEq, Repr, Inhabited

/-- An id that is no rule id. -/
structure MalformedRuleId where
  id : String
  deriving DecidableEq, Repr

/-- The text of the error. -/
def MalformedRuleId.message (e : MalformedRuleId) : String :=
  "Rule id must look like CUBTEK-<CATEGORY>-<3 digits>: " ++ String.ofList (quoted e.id.toList)

namespace RuleInfo

/-- The fixed part of a rule with the given id. -/
def create (id name description category : String) (defaultSeverity : Severity) :
    Except MalformedRuleId RuleInfo :=
  if (categoryOf? id.toList).isSome then
    .ok ⟨id, name, description, category, defaultSeverity⟩
  else .error ⟨id⟩

/-- The category in the rule's id. -/
def categoryToken (info : RuleInfo) : String :=
  String.ofList ((categoryOf? info.id.toList).getD [])

end RuleInfo

end StyleCheck
