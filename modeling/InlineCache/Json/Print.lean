import InlineCache.Json.Basic
import InlineCache.Text.Literal
/-!
# Writing JSON text

Documents are written compactly, on one line, members in the order the object holds
them. Strings escape the quote and the backslash, write the control characters with a
short escape (`\b`, `\t`, `\n`, `\f`, `\r`) or as `\u` with four lower-case hexadecimal
digits, and write every other character as it is. An integer is written in decimal, a
binary64 value by its shortest decimal (`Text.FloatStyle.json`), and a value that is not
finite as `null`, JSON having no text for it.
-/
namespace InlineCache

/-- The text of a number. -/
def Number.text : Number → String
  | .nat n => toString n
  | .neg n => toString n
  | .float w =>
    if (w &&& 0x7FF0000000000000) == 0x7FF0000000000000 then "null"
    else Text.FloatStyle.json.render (Float.ofBits w)

namespace Json

/-- Four lower-case hexadecimal digits of a number below 65536. -/
def hex4 (n : Nat) : String :=
  let ds := Nat.toDigits 16 n
  String.ofList (List.replicate (4 - ds.length) '0' ++ ds)

/-- The text standing for `c` inside a JSON string. -/
def escapeChar (c : Char) : String :=
  match c with
  | '"' => "\\\""
  | '\\' => "\\\\"
  | '\x08' => "\\b"
  | '\t' => "\\t"
  | '\n' => "\\n"
  | '\x0c' => "\\f"
  | '\r' => "\\r"
  | _ => if c.toNat < 0x20 then "\\u" ++ hex4 c.toNat else String.singleton c

/-- A string in JSON quotes. -/
def quote (s : String) : String := s.foldl (fun acc c => acc ++ escapeChar c) "\"" ++ "\""

mutual

/-- The compact text of a document, appended to `acc`. -/
def renderTo (acc : String) : Json → String
  | .null => acc ++ "null"
  | .bool b => acc ++ (if b then "true" else "false")
  | .num n => acc ++ n.text
  | .str s => acc ++ quote s
  | .arr items => renderItems (acc ++ "[") true items ++ "]"
  | .obj members => renderMembers (acc ++ "\x7b") true members ++ "\x7d"

/-- The items of an array, separated by commas, appended to `acc`. -/
def renderItems (acc : String) (first : Bool) : List Json → String
  | [] => acc
  | j :: rest => renderItems (renderTo (if first then acc else acc ++ ",") j) false rest

/-- The members of an object, separated by commas, appended to `acc`. -/
def renderMembers (acc : String) (first : Bool) : List (String × Json) → String
  | [] => acc
  | (k, j) :: rest =>
    renderMembers (renderTo ((if first then acc else acc ++ ",") ++ quote k ++ ":") j) false rest

end

/-- The compact text of a document. -/
def render (j : Json) : String := renderTo "" j

end Json

end InlineCache
