/-!
# Values in compact JSON

Values with their members in a fixed order, written without white space. Within a text only the
quote, the backslash and the controls below the space are escaped.
-/

namespace BoardQuery

namespace Json

/-- A JSON value of the kinds that the search writes. -/
inductive Value where
  | text (text : String)
  | number (number : Nat)
  | truth (truth : Bool)
  | list (items : List Value)
  | object (members : List (String × Value))

/-- A character as it stands within a text. -/
def escapeChar (c : Char) : List Char :=
  match c with
  | '"' => ['\\', '"']
  | '\\' => ['\\', '\\']
  | '\x08' => ['\\', 'b']
  | '\x0c' => ['\\', 'f']
  | '\n' => ['\\', 'n']
  | '\r' => ['\\', 'r']
  | '\t' => ['\\', 't']
  | _ =>
    if c.toNat < 0x20 then
      ['\\', 'u', '0', '0', Nat.digitChar (c.toNat / 16), Nat.digitChar (c.toNat % 16)]
    else [c]

def quoted (s : String) : List Char :=
  '"' :: (s.toList.flatMap escapeChar ++ ['"'])

namespace Value

mutual

def chars : Value → List Char
  | text s => quoted s
  | number n => Nat.toDigits 10 n
  | truth true => ['t', 'r', 'u', 'e']
  | truth false => ['f', 'a', 'l', 's', 'e']
  | list [] => ['[', ']']
  | list (item :: items) => '[' :: (item.chars ++ itemsChars items)
  | object [] => ['\x7b', '\x7d']
  | object (member :: members) => '\x7b' :: (memberChars member ++ membersChars members)

/-- The items after the first, and the end of their list. -/
def itemsChars : List Value → List Char
  | [] => [']']
  | item :: items => ',' :: (item.chars ++ itemsChars items)

/-- A member: its name, and its value after a colon. -/
def memberChars : String × Value → List Char
  | (name, value) => quoted name ++ ':' :: value.chars

/-- The members after the first, and the end of their object. -/
def membersChars : List (String × Value) → List Char
  | [] => ['\x7d']
  | member :: members => ',' :: (memberChars member ++ membersChars members)

end

def compact (value : Value) : String :=
  String.ofList value.chars

end Value

end Json

end BoardQuery
