/-!
JSON documents as the command line prints them: indented by two spaces, one member or item per
line, `[]` and `{}` for empty containers, members in the order given. Strings escape the quote,
the backslash and control characters (`\n`, `\r`, `\t`, `\b`, `\f`, others as `\u00XX`); every
other character, non-ASCII included, is written as it is.
-/
namespace Migrator.Cli

/-- A JSON document. -/
inductive JsonValue where
  | null
  | num (n : Nat)
  | str (s : String)
  | arr (items : List JsonValue)
  | obj (members : List (String × JsonValue))
deriving Repr, Inhabited

/-- A hexadecimal digit, lower case. -/
def hexDigitChar (n : Nat) : Char :=
  if n < 10 then Char.ofNat (48 + n) else Char.ofNat (87 + n)

/-- A character inside a JSON string. -/
def escapeChar (c : Char) : String :=
  match c with
  | '"' => "\\\""
  | '\\' => "\\\\"
  | '\n' => "\\n"
  | '\r' => "\\r"
  | '\t' => "\\t"
  | '\x08' => "\\b"
  | '\x0c' => "\\f"
  | c =>
    if c.toNat < 0x20 then
      "\\u00" ++ (hexDigitChar (c.toNat / 16)).toString ++ (hexDigitChar (c.toNat % 16)).toString
    else c.toString

/-- A JSON string literal. -/
def quote (s : String) : String := "\"" ++ String.join (s.toList.map escapeChar) ++ "\""

/-- Spaces for a depth. -/
def indentation (depth : Nat) : String := String.ofList (List.replicate (2 * depth) ' ')

mutual

/-- A value at a depth; nested lines are indented one level more. -/
def JsonValue.pretty (depth : Nat) : JsonValue → String
  | .null => "null"
  | .num n => toString n
  | .str s => quote s
  | .arr [] => "[]"
  | .arr (x :: xs) =>
    "[\n" ++ JsonValue.prettyItems (depth + 1) (x :: xs) ++ "\n" ++ indentation depth ++ "]"
  | .obj [] => "\x7b\x7d"
  | .obj (m :: ms) =>
    "\x7b\n" ++ JsonValue.prettyMembers (depth + 1) (m :: ms) ++ "\n" ++ indentation depth ++ "\x7d"

/-- Items of an array, one a line. -/
def JsonValue.prettyItems (depth : Nat) : List JsonValue → String
  | [] => ""
  | [x] => indentation depth ++ x.pretty depth
  | x :: xs => indentation depth ++ x.pretty depth ++ ",\n" ++ JsonValue.prettyItems depth xs

/-- Members of an object, one a line. -/
def JsonValue.prettyMembers (depth : Nat) : List (String × JsonValue) → String
  | [] => ""
  | [(k, v)] => indentation depth ++ quote k ++ ": " ++ v.pretty depth
  | (k, v) :: ms =>
    indentation depth ++ quote k ++ ": " ++ v.pretty depth ++ ",\n" ++ JsonValue.prettyMembers depth ms

end

end Migrator.Cli
