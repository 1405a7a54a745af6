/-
# Plain scalars

A scalar without quotes stands for nothing, a truth value, a number or a moment
if it is written like one, and for its text otherwise. Whole numbers may be
binary, octal, decimal, hexadecimal or in base sixty, and underscores in them do
not count; a fraction needs its point, and an exponent its sign. Two words are
marks and no values: `<<` before entries to take over, and `=`.

Key definitions: `plainValue`, `plainKind`, `mergeMark`, `equalsMark`.
-/
import StyleCheck.Config.Yaml.Fault
import StyleCheck.Source.Path
import StyleCheck.Value

namespace StyleCheck.Yaml

/-- An underscore or a digit of the given class. -/
def lowOr (isDigit : Char → Bool) (c : Char) : Bool :=
  c == '_' || isDigit c

/-- The value of one digit, in any base up to sixteen. -/
def digitIn (c : Char) : Nat :=
  if c.isDigit then c.toNat - 48 else c.toLower.toNat - 87

/-- The value of digits in a base, underscores left out. -/
def valueIn (base : Nat) (digits : List Char) : Nat :=
  (digits.filter (· ≠ '_')).foldl (fun n c => base * n + digitIn c) 0

/-- A whole number with its sign. -/
def signed (negative : Bool) (n : Nat) : Value :=
  .number (.whole (if negative then -(n : Int) else n))

/-- A whole number in the given base. -/
def based (base : Nat) (negative : Bool) (digits : List Char) : Except BadValue Value :=
  if digits.all (· == '_') then .error (.noDigits base)
  else .ok (signed negative (valueIn base digits))

/-- The value of decimal digits, whose number is limited. -/
def decimal (digits : List Char) : Except BadValue Nat :=
  let count := (digits.filter (· ≠ '_')).length
  if maxIntegerDigits < count then .error (.tooManyDigits count) else .ok (valueIn 10 digits)

/-- A part of a number in base sixty behind the first one: one digit, or two of
which the first is below six. -/
def isSixtieth : List Char → Bool
  | [a] => a.isDigit
  | [a, b] => '0' ≤ a && a ≤ '5' && b.isDigit
  | _ => false

/-- A nonzero digit, then digits and underscores. -/
def isDecimal : List Char → Bool
  | c :: cs => '1' ≤ c && c ≤ '9' && cs.all (lowOr Char.isDigit)
  | [] => false

/-- The whole number that a text without sign writes, if it writes one. -/
def integer? (negative : Bool) (text : List Char) : Option (Except BadValue Value) :=
  match text with
  | ['0'] => some (based 10 negative text)
  | '0' :: 'b' :: digits =>
    if digits ≠ [] ∧ digits.all (lowOr fun c => c == '0' || c == '1') then
      some (based 2 negative digits)
    else none
  | '0' :: 'x' :: digits =>
    if digits ≠ [] ∧
        digits.all (lowOr fun c => c.isDigit || ('a' ≤ c && c ≤ 'f') || ('A' ≤ c && c ≤ 'F')) then
      some (based 16 negative digits)
    else none
  | '0' :: digits =>
    if digits.all (lowOr fun c => '0' ≤ c && c ≤ '7') then some (based 8 negative ('0' :: digits))
    else none
  | _ =>
    match Path.splitAtChar ':' text with
    | first :: parts =>
      if isDecimal first ∧ parts.all isSixtieth then
        some ((decimal first).map fun n =>
          signed negative (parts.foldl (fun n part => 60 * n + valueIn 10 part) n))
      else none
    | [] => none

/-- The exponent at the end of a fraction: nothing, or `e`, a sign and digits. -/
def exponent? : List Char → Option Int
  | [] => some 0
  | e :: sign :: digits =>
    if (e = 'e' ∨ e = 'E') ∧ (sign = '+' ∨ sign = '-') ∧ digits ≠ [] ∧ digits.all Char.isDigit then
      some (if sign = '-' then -(valueIn 10 digits : Int) else valueIn 10 digits)
    else none
  | _ => none

/-- A digit, then digits and underscores. -/
def isDigits : List Char → Bool
  | c :: cs => c.isDigit && cs.all (lowOr Char.isDigit)
  | [] => false

/-- The text before its first point and the text behind it. -/
def cutAtPoint (text : List Char) : Option (List Char × List Char) :=
  match text.dropWhile (· ≠ '.') with
  | _ :: behind => some (text.takeWhile (· ≠ '.'), behind)
  | [] => none

/-- The double that digits before and behind a point write, with an exponent. -/
def fractionValue (whole places : List Char) (exponent : Int) : Binary64 :=
  let count := (places.filter (· ≠ '_')).length
  Binary64.ofDecimal false (valueIn 10 (whole ++ places)) (exponent - count)

/-- The double that a decimal fraction without sign writes. Where no digit
stands before the point, one has to stand behind it, and there may be no sign
either. -/
def fraction? (hasSign : Bool) (text : List Char) : Option Binary64 := do
  let (whole, behind) ← cutAtPoint text
  let places := behind.takeWhile (lowOr Char.isDigit)
  let exponent ← exponent? (behind.dropWhile (lowOr Char.isDigit))
  if isDigits whole || (whole.isEmpty && !hasSign && isDigits places) then
    some (fractionValue whole places exponent)
  else none

/-- The double that parts in base sixty write, the last of them first; `unit` is
what one of the next part counts, and that has to be a double even where the
part is zero. -/
def sixtyValue (unit : Nat) (total : Binary64) : List Binary64 → Except BadValue Binary64
  | [] => .ok total
  | part :: parts =>
    match Binary64.ofRatio false unit 1 with
    | .infinite _ => .error .tooManyParts
    | weight => sixtyValue (60 * unit) (total.sum (part.product weight)) parts

/-- The double that a fraction in base sixty without sign writes; only the last
part has a point. -/
def sixtyFraction? (text : List Char) : Option (Except BadValue Binary64) := do
  let (before, behind) ← cutAtPoint text
  match Path.splitAtChar ':' before with
  | first :: part :: parts =>
    if isDigits first ∧ (part :: parts).all isSixtieth ∧ behind.all (lowOr Char.isDigit) then
      match (first :: part :: parts).reverse with
      | last :: others =>
        some (sixtyValue 1 (Binary64.ofDecimal false 0 0)
          (fractionValue last behind 0 :: others.map fun digits => fractionValue digits [] 0))
      | [] => none
    else none
  | _ => none

/-- The number that a text writes, if it writes one. -/
def number? (text : List Char) : Option (Except BadValue Value) :=
  let (negative, cs) := takeSign text
  match integer? negative cs with
  | some result => some result
  | none =>
    let hasSign : Bool := cs.length != text.length
    let word := String.ofList cs
    if [".inf", ".Inf", ".INF"].contains word then
      some (.ok (.number (.real (.infinite negative))))
    else if !hasSign ∧ [".nan", ".NaN", ".NAN"].contains word then
      some (.ok (.number (.real .nan)))
    else
      (((fraction? hasSign cs).map .ok).orElse fun _ => sixtyFraction? cs).map fun result =>
        result.map fun x => .number (.real (if negative then x.negate else x))

/-- The digits that a text begins with, at least `least` and at most `most` of
them, and the text behind them. -/
def takeDigits (least most : Nat) (text : List Char) : Option (List Char × List Char) :=
  let digits := (text.take most).takeWhile Char.isDigit
  if least ≤ digits.length then some (digits, text.drop digits.length) else none

/-- The text behind a character. -/
def skipChar (c : Char) : List Char → Option (List Char)
  | d :: rest => if d = c then some rest else none
  | [] => none

/-- The parts of a second that digits behind a point write, in millionths. -/
def millionths (digits : List Char) : Nat :=
  valueIn 10 ((digits ++ List.replicate 6 '0').take 6)

/-- The minutes by which a moment is ahead of universal time, at the end of a
text: nothing, `Z`, or a sign with hours and minutes. -/
def ahead? (text : List Char) : Option (Option Int) :=
  match text.dropWhile (· == ' ') with
  | [] => if text.isEmpty then some none else none
  | ['Z'] => some (some 0)
  | sign :: rest =>
    if sign = '+' ∨ sign = '-' then do
      let (hours, rest) ← takeDigits 1 2 rest
      let minutes ←
        match rest with
        | [] => some []
        | _ => do
          let (minutes, rest) ← takeDigits 2 2 (← skipChar ':' rest)
          if rest.isEmpty then some minutes else none
      let total : Int := 60 * valueIn 10 hours + valueIn 10 minutes
      some (some (if sign = '-' then -total else total))
    else none

/-- The time of day that a text writes: hours, minutes and seconds, parts of a
second, and the distance from universal time. -/
def clock? (text : List Char) : Option Clock := do
  let (hour, rest) ← takeDigits 1 2 text
  let (minute, rest) ← takeDigits 2 2 (← skipChar ':' rest)
  let (second, rest) ← takeDigits 2 2 (← skipChar ':' rest)
  let (places, rest) :=
    match rest with
    | '.' :: behind => (behind.takeWhile Char.isDigit, behind.dropWhile Char.isDigit)
    | _ => ([], rest)
  let ahead ← ahead? rest
  some ⟨valueIn 10 hour, valueIn 10 minute, valueIn 10 second, millionths places, ahead⟩

/-- The moment that a text writes: a day whose month and day have two digits, or
a day and behind a letter or blanks a time. -/
def moment? (text : List Char) : Option Moment := do
  let (year, rest) ← takeDigits 4 4 text
  let (month, rest) ← takeDigits 1 2 (← skipChar '-' rest)
  let (day, rest) ← takeDigits 1 2 (← skipChar '-' rest)
  let onDay (clock : Option Clock) : Moment :=
    ⟨valueIn 10 year, valueIn 10 month, valueIn 10 day, clock⟩
  match rest with
  | [] => if month.length = 2 ∧ day.length = 2 then some (onDay none) else none
  | c :: time =>
    if c = 'T' ∨ c = 't' then (clock? time).map fun clock => onDay (some clock)
    else if c = ' ' then (clock? (time.dropWhile (· == ' '))).map fun clock => onDay (some clock)
    else none

/-- The value of a moment, if there is such a one. -/
def momentValue (m : Moment) : Except BadValue Value :=
  match m.flaw? with
  | some flaw => .error (.badMoment flaw)
  | none => .ok (.moment m)

/-- The words for nothing. -/
def nullWords : List String := ["", "~", "null", "Null", "NULL"]

/-- The words for true. -/
def trueWords : List String :=
  ["yes", "Yes", "YES", "true", "True", "TRUE", "on", "On", "ON"]

/-- The words for false. -/
def falseWords : List String :=
  ["no", "No", "NO", "false", "False", "FALSE", "off", "Off", "OFF"]

/-- The key that takes over the entries of its value. -/
def mergeMark : List Char := ['<', '<']

/-- The word that is a text as a key and no value. -/
def equalsMark : List Char := ['=']

/-- The value of a plain scalar. -/
def plainValue (text : List Char) : Except Fault Value :=
  let word := String.ofList text
  if nullWords.contains word then .ok .null
  else if trueWords.contains word then .ok (.bool true)
  else if falseWords.contains word then .ok (.bool false)
  else if text = mergeMark ∨ text = equalsMark then .error .malformed
  else
    match (number? text).orElse fun _ => (moment? text).map momentValue with
    | some result => result.mapError .badValue
    | none => .ok (.text word)

/-- The name of the standard tag for what a plain scalar is written like. -/
def plainKind (text : List Char) : String :=
  let word := String.ofList text
  if nullWords.contains word then "null"
  else if trueWords.contains word ∨ falseWords.contains word then "bool"
  else if text = mergeMark then "merge"
  else if text = equalsMark then "value"
  else if (integer? false (takeSign text).2).isSome then "int"
  else if (number? text).isSome then "float"
  else if (moment? text).isSome then "timestamp"
  else "str"

end StyleCheck.Yaml
