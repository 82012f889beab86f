import BoardQuery.Text.Unprintable

/-!
# Quoted literals

The form in which a text is shown in messages and in the journal: between double quotes, with
everything that does not show as itself escaped. The apostrophe stands as it is.
-/

namespace BoardQuery

namespace Text

/-- A code point in hexadecimal, as `\u` and braces. -/
def escapePoint (c : Char) : List Char :=
  '\\' :: 'u' :: '\x7b' :: (Nat.toDigits 16 c.toNat ++ ['\x7d'])

/-- A character as it stands in a literal. -/
def escapeChar (c : Char) : List Char :=
  match c with
  | '"' => ['\\', '"']
  | '\\' => ['\\', '\\']
  | '\n' => ['\\', 'n']
  | '\r' => ['\\', 'r']
  | '\t' => ['\\', 't']
  | '\x00' => ['\\', '0']
  | _ => if isPrintable c then [c] else escapePoint c

def literal (s : String) : String :=
  String.ofList ('"' :: (s.toList.flatMap escapeChar ++ ['"']))

end Text

end BoardQuery
