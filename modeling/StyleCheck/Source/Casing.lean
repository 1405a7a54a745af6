/-
# Letter case of names

A camelCase name begins with a small ASCII letter, a PascalCase name with a
capital one; ASCII letters and digits follow. One newline after the name is
overlooked.

Key definitions: `isCamelCase`, `isPascalCase`.
-/

namespace StyleCheck.Source

/-- ASCII letters and digits up to the end, where one newline is overlooked. -/
def isAlphanumericRest : List Char → Bool
  | [] => true
  | ['\n'] => true
  | c :: cs => c.isAlphanum && isAlphanumericRest cs

/-- A small ASCII letter and then ASCII letters and digits. -/
def isCamelCase : List Char → Bool
  | [] => false
  | c :: cs => c.isLower && isAlphanumericRest cs

/-- A capital ASCII letter and then ASCII letters and digits. -/
def isPascalCase : List Char → Bool
  | [] => false
  | c :: cs => c.isUpper && isAlphanumericRest cs

end StyleCheck.Source
