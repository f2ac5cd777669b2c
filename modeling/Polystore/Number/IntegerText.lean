import Polystore.Number.Word

/-!
Integers written in decimal digits. The lenient reader serves values that arrive as text: it takes one sign, for the
signed kinds, and the digits behind it, counts the characters that it has taken, and accepts a text that is taken
whole; so a sign alone counts as zero. The strict reader serves settings and says what is wrong.
-/
namespace Polystore.IntegerText

/-- Adds a digit to the end of a number, away from zero. -/
def addDigit (negative : Bool) (number : Int) (c : Char) : Int :=
  let digit : Int := c.toNat - '0'.toNat
  number * 10 + if negative then -digit else digit

/-- Takes the digits at the front of a text, up to the first other character: the number that they make with one that
stands before them, and how many they are. -/
def takeDigits (negative : Bool) (number : Int) : List Char → Int × Nat
  | [] => (number, 0)
  | c :: rest =>
    if c.isDigit then
      let (number, taken) := takeDigits negative (addDigit negative number c) rest
      (number, taken + 1)
    else (number, 0)

/-- Takes a number at the front of a text, and counts what it has taken: one sign if the kind has signs, then digits.
Nothing but a sign, or nothing at all, is the number zero. -/
def takeNumber (kind : IntKind) : List Char → Int × Nat
  | [] => (0, 0)
  | first :: rest =>
    if kind.isSigned && (first = '-' || first = '+') then
      let (number, taken) := takeDigits (first = '-') 0 rest
      (number, taken + 1)
    else takeDigits false 0 (first :: rest)

/-- Reads a word of the given kind: something has to be taken, and nothing may be left. -/
def read (kind : IntKind) (text : List Char) : Option (Word kind) :=
  let (number, taken) := takeNumber kind text
  if taken = 0 || taken ≠ text.length then none else Word.ofInt? kind number

/-- What is wrong with an integer text that a setting gives. -/
inductive Error where
  | empty | invalidDigit | tooLarge | tooSmall
deriving DecidableEq, Repr

def Error.message : Error → String
  | .empty => "cannot parse integer from empty string"
  | .invalidDigit => "invalid digit found in string"
  | .tooLarge => "number too large to fit in target type"
  | .tooSmall => "number too small to fit in target type"

/-- Adds digits to a number, away from zero, as long as the kind has the result. -/
def accumulate (kind : IntKind) (negative : Bool) (value : Word kind) : List Char → Except Error (Word kind)
  | [] => .ok value
  | c :: rest =>
    if !c.isDigit then .error .invalidDigit
    else
      match Word.ofInt? kind (addDigit negative value.val c) with
      | some next => accumulate kind negative next rest
      | none => .error (if negative then .tooSmall else .tooLarge)

def zero (kind : IntKind) : Word kind := ⟨0, by cases kind <;> decide⟩

/-- Reads a word of the given kind; the first offence from the left is reported. -/
def parse (kind : IntKind) (text : String) : Except Error (Word kind) :=
  match text.toList with
  | [] => .error .empty
  | ['+'] => .error .invalidDigit
  | ['-'] => .error .invalidDigit
  | '+' :: rest => accumulate kind false (zero kind) rest
  | first :: rest =>
    if first = '-' && kind.isSigned then accumulate kind true (zero kind) rest
    else accumulate kind false (zero kind) (first :: rest)

end Polystore.IntegerText
