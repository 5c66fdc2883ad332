/-!
# Blank characters

The characters with the Unicode property White_Space: the ASCII blanks and line breaks,
the next-line control, the no-break and typographic spaces, and the line and paragraph
separators. Trimming removes them from both ends of a text.
-/
namespace InlineCache.Unicode

/-- The White_Space code points, as sorted disjoint inclusive ranges. -/
def blankRanges : List (Nat × Nat) := [
  (0x9, 0xD), (0x20, 0x20), (0x85, 0x85), (0xA0, 0xA0), (0x1680, 0x1680), (0x2000, 0x200A),
  (0x2028, 0x2029), (0x202F, 0x202F), (0x205F, 0x205F), (0x3000, 0x3000) ]

/-- Whether a character is blank. -/
def isBlank (c : Char) : Bool := blankRanges.any fun r => r.1 ≤ c.toNat && c.toNat ≤ r.2

/-- The text without blank characters at either end. -/
def trim (s : String) : String :=
  String.ofList ((s.toList.dropWhile isBlank).reverse.dropWhile isBlank).reverse

end InlineCache.Unicode
