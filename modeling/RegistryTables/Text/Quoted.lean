import RegistryTables.Text.Unprintable

/-
  Texts in double quotes, for reports: what would end the quotation or cannot be seen
  is written as an escape.
-/
namespace RegistryTables.Text

/-- The escape of a character by its number: lower-case hexadecimal digits in braces. -/
def numberEscape (c : Char) : List Char :=
  ['\\', 'u', '{'] ++ Nat.toDigits 16 c.toNat ++ ['}']

def quotedChar : Char → List Char
  | '"' => ['\\', '"']
  | '\\' => ['\\', '\\']
  | '\n' => ['\\', 'n']
  | '\r' => ['\\', 'r']
  | '\t' => ['\\', 't']
  | '\x00' => ['\\', '0']
  | c => if isUnprintable c then numberEscape c else [c]

def quoted (s : String) : String :=
  String.ofList ('"' :: s.toList.flatMap quotedChar ++ ['"'])

end RegistryTables.Text
