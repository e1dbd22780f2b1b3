/-!
# Blank characters and trimming

Two sets of blanks are in use. Markup knows four of them (space, tab, line feed, carriage
return); numbers written in text are surrounded by any character that has the Unicode property
`White_Space`. Trimming is one function that takes the set as an argument.
-/

namespace Provisioning.Text

/-- The four blanks of markup. -/
def isMarkupBlank (c : Char) : Bool :=
  c == ' ' || c == '\t' || c == '\n' || c == '\r'

/-- The characters with the Unicode property `White_Space`. -/
def isWhiteSpace (c : Char) : Bool :=
  let n := c.toNat
  (9 ≤ n && n ≤ 13) || n == 0x20 || n == 0x85 || n == 0xA0 || n == 0x1680 ||
    (0x2000 ≤ n && n ≤ 0x200A) || n == 0x2028 || n == 0x2029 || n == 0x202F || n == 0x205F ||
    n == 0x3000

/-- Drops the characters of a set from the front. -/
def trimLeft (blank : Char → Bool) (cs : List Char) : List Char :=
  cs.dropWhile blank

/-- Drops the characters of a set from the back. -/
def trimRight (blank : Char → Bool) (cs : List Char) : List Char :=
  (cs.reverse.dropWhile blank).reverse

/-- Drops the characters of a set from both ends. -/
def trim (blank : Char → Bool) (cs : List Char) : List Char :=
  trimRight blank (trimLeft blank cs)

/-- Every markup blank is white space; the converse fails at the no-break space. -/
theorem isWhiteSpace_of_isMarkupBlank {c : Char} (h : isMarkupBlank c = true) :
    isWhiteSpace c = true := by
  simp only [isMarkupBlank, Bool.or_eq_true, beq_iff_eq] at h
  rcases h with ((rfl | rfl) | rfl) | rfl <;> decide

end Provisioning.Text
