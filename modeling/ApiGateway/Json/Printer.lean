import ApiGateway.Data
import ApiGateway.Text.Bytes

/-!
# Printing JSON

The compact form without blanks, and the indented form with two blanks a level. In a text, the
quote, the backslash and the control characters below the blank are escaped, five of them by a
letter and the others as `\u00` with two lower-case digits; every other character stands as it is.
-/

namespace ApiGateway
namespace Json

/-- How one character of a text is written. -/
def escape (c : Char) : List Char :=
  if c = '"' then ['\\', '"']
  else if c = '\\' then ['\\', '\\']
  else if c = '\n' then ['\\', 'n']
  else if c = '\r' then ['\\', 'r']
  else if c = '\t' then ['\\', 't']
  else if c = '\x08' then ['\\', 'b']
  else if c = '\x0c' then ['\\', 'f']
  else if c.toNat < 0x20 then
    ['\\', 'u', '0', '0', Bytes.hexDigit (c.toNat / 16), Bytes.hexDigit (c.toNat % 16)]
  else [c]

/-- A text between quotes. -/
def quoted (s : String) : List Char :=
  '"' :: (s.toList.flatMap escape ++ ['"'])

def decimal (n : Int) : List Char :=
  (toString n).toList

mutual

/-- The compact form of a document. -/
def compactChars : Data → List Char
  | .null => "null".toList
  | .bool true => "true".toList
  | .bool false => "false".toList
  | .int n => decimal n
  | .other w => w.toList
  | .text s => quoted s
  | .list [] => ['[', ']']
  | .list (d :: ds) => '[' :: (compactChars d ++ compactItems ds)
  | .table [] => ['\x7b', '\x7d']
  | .table ((k, d) :: fs) => '\x7b' :: (quoted k ++ ':' :: (compactChars d ++ compactFields fs))

/-- The items after the first, and the closing bracket. -/
def compactItems : List Data → List Char
  | [] => [']']
  | d :: ds => ',' :: (compactChars d ++ compactItems ds)

/-- The fields after the first, and the closing brace. -/
def compactFields : List (String × Data) → List Char
  | [] => ['\x7d']
  | (k, d) :: fs => ',' :: (quoted k ++ ':' :: (compactChars d ++ compactFields fs))

end

def compact (d : Data) : String :=
  String.ofList (compactChars d)

/-- A line break and the indentation of a level. -/
def newLine (level : Nat) : List Char :=
  '\n' :: List.replicate (2 * level) ' '

mutual

/-- The indented form of a document at a level. -/
def prettyChars (level : Nat) : Data → List Char
  | .null => "null".toList
  | .bool true => "true".toList
  | .bool false => "false".toList
  | .int n => decimal n
  | .other w => w.toList
  | .text s => quoted s
  | .list [] => ['[', ']']
  | .list (d :: ds) =>
      '[' :: (newLine (level + 1) ++ prettyChars (level + 1) d ++ prettyItems level ds)
  | .table [] => ['\x7b', '\x7d']
  | .table ((k, d) :: fs) =>
      '\x7b' :: (newLine (level + 1) ++ quoted k ++ ':' :: ' ' ::
        (prettyChars (level + 1) d ++ prettyFields level fs))

/-- The items after the first, and the closing bracket. -/
def prettyItems (level : Nat) : List Data → List Char
  | [] => newLine level ++ [']']
  | d :: ds => ',' :: (newLine (level + 1) ++ prettyChars (level + 1) d ++ prettyItems level ds)

/-- The fields after the first, and the closing brace. -/
def prettyFields (level : Nat) : List (String × Data) → List Char
  | [] => newLine level ++ ['\x7d']
  | (k, d) :: fs =>
      ',' :: (newLine (level + 1) ++ quoted k ++ ':' :: ' ' ::
        (prettyChars (level + 1) d ++ prettyFields level fs))

end

def pretty (d : Data) : String :=
  String.ofList (prettyChars 0 d)

end Json
end ApiGateway
