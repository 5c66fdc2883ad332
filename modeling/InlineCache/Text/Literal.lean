import InlineCache.Text.Shortest
import InlineCache.Text.Unicode.GraphemeExtend
import InlineCache.Text.Unicode.Printable
/-!
# Literal texts of floats and strings

Structure listings show a float by its shortest decimal and a string in double quotes
with escapes. The float layout is one `FloatStyle` value: positional notation for decimal
exponents from -4 up to 15 with `.0` kept on whole numbers, exponent notation `1e-7`,
`1.5e300` elsewhere, `NaN` and `inf` for the special values, and an exact tie between two
shortest decimals settled upwards. JSON text writes floats in the same two notations,
positional from exponent -5, with a signed exponent and ties going to the even digit.

A quoted string escapes the quote and the backslash, names the control characters NUL,
tab, carriage return and line feed, and writes every other character that is not
printable, or that extends the grapheme before it, as `\u` followed by its code point in
lower-case hexadecimal within braces. The single quote stands for itself. The text of an
operating-system string is quoted the same way.
-/
namespace InlineCache.Text

open InlineCache.Decimal

/-- How a float is written. -/
structure FloatStyle where
  /-- Decimal exponents `e` with `lowExp ≤ e < highExp` are written positionally. -/
  lowExp : Int
  highExp : Int
  /-- Separates the digits from the exponent. -/
  expMark : String
  /-- Whether an exponent above zero is written with a plus sign. -/
  expPlus : Bool
  /-- The text of a NaN, whatever its sign. -/
  nan : String
  /-- The text of an infinity, after its sign. -/
  inf : String
  /-- Which of two equally near shortest decimals is taken. -/
  tie : Tie

/-- Floats in listings: positional from `1e-4` below `1e16`, `e` otherwise, ties up. -/
def FloatStyle.listing : FloatStyle :=
  { lowExp := -4, highExp := 16, expMark := "e", expPlus := false, nan := "NaN", inf := "inf",
    tie := .up }

/-- Floats in JSON text and in the messages that quote a number: positional from `1e-5`
below `1e16`, `e` otherwise with a signed exponent (`1e+16`, `1e-6`), ties to the even
digit. JSON has no text for the special values; the names here are never written for a
finite number. -/
def FloatStyle.json : FloatStyle :=
  { lowExp := -5, highExp := 16, expMark := "e", expPlus := true, nan := "NaN", inf := "inf",
    tie := .even }

/-- A run of `n` zeros. -/
def zeros (n : Nat) : String := String.ofList (List.replicate n '0')

/-- The digits `ds` times `10^(k - length)` in positional notation, with at least one
digit after the point. -/
def positional (ds : String) (k : Int) : String :=
  let n := ds.length
  if k ≤ 0 then "0." ++ zeros (-k).toNat ++ ds
  else if k.toNat < n then
    String.ofList (ds.toList.take k.toNat) ++ "." ++ String.ofList (ds.toList.drop k.toNat)
  else ds ++ zeros (k.toNat - n) ++ ".0"

/-- The digits `ds` with the decimal exponent `e` of their first digit, in exponent
notation. -/
def exponential (style : FloatStyle) (ds : String) (e : Int) : String :=
  let lead := String.ofList (ds.toList.take 1)
  let rest := String.ofList (ds.toList.drop 1)
  let mant := if rest.isEmpty then lead else lead ++ "." ++ rest
  let sign := if style.expPlus && e > 0 then "+" else ""
  mant ++ style.expMark ++ sign ++ toString e

/-- The text of a float. -/
def FloatStyle.render (style : FloatStyle) (x : Float) : String :=
  let bits := x.toBits
  let sign := if bits >>> 63 == 1 then "-" else ""
  let mag := bits &&& 0x7FFFFFFFFFFFFFFF
  if mag > 0x7FF0000000000000 then style.nan
  else if mag == 0x7FF0000000000000 then sign ++ style.inf
  else if mag == 0 then sign ++ "0.0"
  else
    let d := (Binary.ofBits mag).shortest style.tie
    let ds := toString d.digits
    let e := d.exp + ds.length - 1
    if style.lowExp ≤ e && e < style.highExp then sign ++ positional ds (e + 1)
    else sign ++ exponential style ds e

/-- The code point of `c` as an escape: backslash, `u`, and lower-case hexadecimal
digits in braces. -/
def unicodeEscape (c : Char) : String :=
  "\\u\x7b" ++ String.ofList (Nat.toDigits 16 c.toNat) ++ "\x7d"

/-- The text that stands for `c` inside double quotes. -/
def escapeChar (c : Char) : String :=
  match c with
  | '\x00' => "\\0"
  | '\t' => "\\t"
  | '\r' => "\\r"
  | '\n' => "\\n"
  | '\\' => "\\\\"
  | '"' => "\\\""
  | _ =>
    if Unicode.isGraphemeExtend c || !Unicode.isPrintable c then unicodeEscape c
    else String.singleton c

/-- The string in double quotes, escaped. -/
def quote (s : String) : String :=
  "\"" ++ String.join (s.toList.map escapeChar) ++ "\""

end InlineCache.Text
