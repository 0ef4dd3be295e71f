import GraphQuery.Text.Character
import GraphQuery.Text.Split

/-! # Identifiers of the query language

* A plain name is written as it is (`isPlainName`); any other name stands between back quotes, with
  the back quotes inside it doubled (`quote`).
* `identityCall?` reads `id( alias )`, the text that addresses a node's identity.
* `identifierTokens` lists the names that occur in a piece of raw text. -/

namespace GraphQuery.Text

/-- The back quote. -/
def backquote : Char := '\x60'

/-- The first character of a plain name. -/
def isNameStart (c : Char) : Bool :=
  c == '_' || (65 ≤ c.toNat && c.toNat ≤ 90) || (97 ≤ c.toNat && c.toNat ≤ 122)

/-- A later character of a plain name. -/
def isNamePart (c : Char) : Bool := isNameStart c || (48 ≤ c.toNat && c.toNat ≤ 57)

/-- The later characters of a plain name; one line break is let through at the very end. -/
def isPlainRest : List Char → Bool
  | [] => true
  | ['\n'] => true
  | c :: cs => isNamePart c && isPlainRest cs

/-- Whether a name is written without quotes. -/
def isPlainName : List Char → Bool
  | [] => false
  | c :: cs => isNameStart c && isPlainRest cs

/-- Every back quote twice and every other character once. -/
def doubleBackquotes : List Char → List Char
  | [] => []
  | c :: cs =>
    if c = backquote then backquote :: backquote :: doubleBackquotes cs
    else c :: doubleBackquotes cs

/-- The written form of a name. -/
def quoteChars (cs : List Char) : List Char :=
  if isPlainName cs then cs else backquote :: (doubleBackquotes cs ++ [backquote])

/-- The written form of a name. -/
def quote (name : String) : String := String.ofList (quoteChars name.toList)

/-- A parameter is its name behind a dollar sign. -/
def parameter (name : String) : String := "$" ++ quote name

/-- Reads the doubled back quotes of a quoted name as single ones. -/
def undoubleBackquotes : List Char → List Char
  | a :: b :: cs =>
    if a = backquote ∧ b = backquote then backquote :: undoubleBackquotes cs
    else a :: undoubleBackquotes (b :: cs)
  | cs => cs

/-- The alias inside `id( alias )`; blanks may stand around it. -/
def identityCall? (cs : List Char) : Option (List Char) :=
  match cs with
  | 'i' :: 'd' :: '(' :: rest =>
    match rest.dropWhile isBlank with
    | [] => none
    | c :: tail =>
      if isNameStart c then
        if (tail.dropWhile isNamePart).dropWhile isBlank = [')'] then
          some (c :: tail.takeWhile isNamePart)
        else none
      else none
  | _ => none

/-- Collects names while reading; `current` holds the name being read, last character first. -/
def collectNames : List Char → (current : List Char) → List String
  | [], [] => []
  | [], current => [String.ofList current.reverse]
  | c :: cs, [] => if isNameStart c then collectNames cs [c] else collectNames cs []
  | c :: cs, current =>
    if isNamePart c then collectNames cs (c :: current)
    else String.ofList current.reverse :: collectNames cs []

/-- The plain names in a raw text, from left to right. -/
def identifierTokens (text : String) : List String := collectNames text.toList []

theorem isNamePart_of_isNameStart {c : Char} (h : isNameStart c = true) : isNamePart c = true := by
  simp [isNamePart, h]

/-- Undoing the doubling gives the name back. -/
theorem undoubleBackquotes_doubleBackquotes (cs : List Char) :
    undoubleBackquotes (doubleBackquotes cs) = cs := by
  induction cs with
  | nil => rfl
  | cons c cs ih =>
    by_cases hc : c = backquote
    · simp [doubleBackquotes, undoubleBackquotes, hc, ih]
    · cases hd : doubleBackquotes cs with
      | nil =>
        rw [hd] at ih
        simp [doubleBackquotes, hc, hd, undoubleBackquotes] at ih ⊢
        exact ih
      | cons d ds =>
        rw [hd] at ih
        simp [doubleBackquotes, hc, hd, undoubleBackquotes, ih]

example : quote "Blog Post" = "`Blog Post`" := by decide
example : quote "user" = "user" := by decide

end GraphQuery.Text
