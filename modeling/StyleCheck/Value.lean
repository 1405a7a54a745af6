/-
# Values of a settings file

Settings are read as plain values: nothing, truth values, numbers, moments,
texts, lists and mappings. A mapping keeps its entries in the order in which their
keys first came up; its keys are texts as a rule, but may be any value that is
neither list nor mapping.

Key definitions: `Value`, `Mapping.get?`, `Mapping.put`, `Value.isTruthy`,
`Value.shown`, `Value.isWritable`.
-/
import StyleCheck.Moment
import StyleCheck.Text.Point

namespace StyleCheck

/-- A value of a settings file. -/
inductive Value where
  | null
  | bool (b : Bool)
  | number (n : Number)
  | moment (m : Moment)
  | text (s : Text.PointText)
  | list (items : List Value)
  | map (entries : List (Value × Value))
  deriving Repr, Inhabited

/-- The entries of a mapping in order. -/
abbrev Mapping := List (Value × Value)

namespace Value

/-- A truth value counts as a number when keys are compared. -/
def asNumber? : Value → Option Number
  | bool b => some (.whole (if b then 1 else 0))
  | number (.real x) =>
    match x.toInt? with
    | some n => some (.whole n)
    | none => some (.real x)
  | number n => some n
  | _ => none

/-- Two keys are the same key: equal texts, equal numbers of whatever kind, the
same moment, or both nothing. Not a number is one key. Lists and mappings are
no keys. -/
def sameKey : Value → Value → Bool
  | null, null => true
  | text a, text b => a == b
  | moment a, moment b => a.same b
  | a, b =>
    match a.asNumber?, b.asNumber? with
    | some m, some n => m == n
    | _, _ => false

/-- A value that may be a key of a mapping. -/
def isKey : Value → Bool
  | list _ => false
  | map _ => false
  | _ => true

/-- The value counts as true: it is neither nothing, false, zero nor empty. -/
def isTruthy : Value → Bool
  | null => false
  | bool b => b
  | number n => !n.isZero
  | moment _ => true
  | text s => !s.isEmpty
  | list items => !items.isEmpty
  | map entries => !entries.isEmpty

end Value

namespace Mapping

/-- The value under a text key. -/
def get? (m : Mapping) (key : String) : Option Value :=
  (m.find? fun entry => entry.1.sameKey (.text key)).map (·.2)

/-- Sets the value under a key: a key that is there keeps its place, a new one
comes last. -/
def put (key value : Value) : Mapping → Mapping
  | [] => [(key, value)]
  | entry :: rest =>
    if entry.1.sameKey key then (entry.1, value) :: rest else entry :: put key value rest

end Mapping

mutual

/-- A value as messages show it: texts are quoted, lists stand in brackets and
mappings in braces. -/
def Value.shown : Value → List Char
  | .null => "None".toList
  | .bool b => (if b then "True" else "False").toList
  | .number n => n.text
  | .moment m => m.shown
  | .text s => Text.quotedPoints s
  | .list items => '[' :: commaSeparated (shownItems items) ++ [']']
  | .map entries => '\x7b' :: commaSeparated (shownEntries entries) ++ ['\x7d']

/-- The items of a list as messages show them. -/
def shownItems : List Value → List (List Char)
  | [] => []
  | item :: rest => item.shown :: shownItems rest

/-- The entries of a mapping as messages show them. -/
def shownEntries : List (Value × Value) → List (List Char)
  | [] => []
  | (key, value) :: rest => (key.shown ++ ':' :: ' ' :: value.shown) :: shownEntries rest

end

mutual

/-- Messages can show the value: every number in it can be written. -/
def Value.isWritable : Value → Bool
  | .number n => n.isWritable
  | .list items => areItemsWritable items
  | .map entries => areEntriesWritable entries
  | _ => true

/-- Messages can show the items of a list. -/
def areItemsWritable : List Value → Bool
  | [] => true
  | item :: rest => item.isWritable && areItemsWritable rest

/-- Messages can show the entries of a mapping. -/
def areEntriesWritable : List (Value × Value) → Bool
  | [] => true
  | (key, value) :: rest => key.isWritable && value.isWritable && areEntriesWritable rest

end

end StyleCheck
