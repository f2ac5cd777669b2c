/-!
Texts as bytes: UTF-8 in both directions. Reading stops at the first sequence that is no character and
says how long it is, or, in the lenient form, puts the replacement character in its place.
-/
namespace Polystore.Text

def bytesOf (text : String) : List UInt8 := text.toList.flatMap String.utf8EncodeChar

/-- What stands at the front of a sequence of bytes. -/
inductive Front where
  /-- A character, and how many bytes it takes. -/
  | character (c : Char) (length : Nat)
  /-- So many bytes that begin no character. -/
  | invalid (length : Nat)
  /-- The start of a character whose end is missing. -/
  | incomplete
deriving Repr, DecidableEq

/-- A byte that may follow the first of a character. -/
def isTail (b : UInt8) : Bool := 0x80 ≤ b && b ≤ 0xBF

/-- The bytes that may stand second, given the first. -/
def secondRange (first : UInt8) : UInt8 × UInt8 :=
  if first = 0xE0 then (0xA0, 0xBF)
  else if first = 0xED then (0x80, 0x9F)
  else if first = 0xF0 then (0x90, 0xBF)
  else if first = 0xF4 then (0x80, 0x8F)
  else (0x80, 0xBF)

/-- How many bytes a character with this first byte takes, `0` if none has it. -/
def charLength (first : UInt8) : Nat :=
  if first ≤ 0x7F then 1
  else if 0xC2 ≤ first && first ≤ 0xDF then 2
  else if 0xE0 ≤ first && first ≤ 0xEF then 3
  else if 0xF0 ≤ first && first ≤ 0xF4 then 4
  else 0

private def tailBits (b : UInt8) : Nat := b.toNat % 64

def front (first : UInt8) (rest : List UInt8) : Front :=
  let range := secondRange first
  let second (b : UInt8) : Bool := range.1 ≤ b && b ≤ range.2
  match charLength first, rest with
  | 0, _ => .invalid 1
  | 1, _ => .character (Char.ofNat first.toNat) 1
  | _, [] => .incomplete
  | 2, b :: _ =>
    if second b then .character (Char.ofNat (first.toNat % 32 * 64 + tailBits b)) 2 else .invalid 1
  | _, [b] => if second b then .incomplete else .invalid 1
  | 3, b :: c :: _ =>
    if !second b then .invalid 1
    else if !isTail c then .invalid 2
    else .character (Char.ofNat ((first.toNat % 16 * 64 + tailBits b) * 64 + tailBits c)) 3
  | _, [b, c] => if !second b then .invalid 1 else if isTail c then .incomplete else .invalid 2
  | _, b :: c :: d :: _ =>
    if !second b then .invalid 1
    else if !isTail c then .invalid 2
    else if !isTail d then .invalid 3
    else .character
      (Char.ofNat (((first.toNat % 8 * 64 + tailBits b) * 64 + tailBits c) * 64 + tailBits d)) 4

/-- Why a sequence of bytes is no text, with the position of the first offence. -/
inductive EncodingError where
  | invalid (length position : Nat)
  | incomplete (position : Nat)
deriving Repr, DecidableEq

def EncodingError.message : EncodingError → String
  | .invalid length position =>
    "invalid utf-8 sequence of " ++ toString length ++ " bytes from index " ++ toString position
  | .incomplete position => "incomplete utf-8 byte sequence from index " ++ toString position

/-- Reads all bytes, `position` of them behind the reader already. -/
def decodeFrom (position : Nat) : List UInt8 → Except EncodingError (List Char)
  | [] => .ok []
  | first :: rest =>
    match front first rest with
    | .character c length =>
      (decodeFrom (position + length) (rest.drop (length - 1))).map (c :: ·)
    | .invalid length => .error (.invalid length position)
    | .incomplete => .error (.incomplete position)
termination_by bytes => bytes.length
decreasing_by simp only [List.length_drop, List.length_cons]; omega

def decodeBytes (bytes : List UInt8) : Except EncodingError String :=
  (decodeFrom 0 bytes).map String.ofList

def replacement : Char := Char.ofNat 0xFFFD

/-- Reads all bytes, a replacement character standing for each sequence that is no character. -/
def decodeLenientChars : List UInt8 → List Char
  | [] => []
  | first :: rest =>
    match front first rest with
    | .character c length => c :: decodeLenientChars (rest.drop (length - 1))
    | .invalid length => replacement :: decodeLenientChars (rest.drop (length - 1))
    | .incomplete => [replacement]
termination_by bytes => bytes.length
decreasing_by all_goals (simp only [List.length_drop, List.length_cons]; omega)

/-- The text that the bytes encode, as far as they do. -/
def decodeLenient (bytes : List UInt8) : String := String.ofList (decodeLenientChars bytes)

end Polystore.Text
