import Stackwatch.Text.Shapeless

/-!
# Quoted text

Where a text is shown inside another one it stands in quotes, and whatever could be misread is
escaped: quotes, backslashes, line ends and characters without a shape.
-/

namespace Stackwatch.Text

/-- How a character stands between quotes. -/
def escape (char : Char) : List Char :=
  match char with
  | '\x00' => ['\\', '0']
  | '\t' => ['\\', 't']
  | '\r' => ['\\', 'r']
  | '\n' => ['\\', 'n']
  | '"' => ['\\', '"']
  | '\\' => ['\\', '\\']
  | _ =>
      if isShapeless char then
        '\\' :: 'u' :: '\x7b' :: (Nat.toDigits 16 char.toNat ++ ['\x7d'])
      else
        [char]

/-- The text in quotes. -/
def quoted (text : String) : String :=
  String.ofList ('"' :: (text.toList.flatMap escape ++ ['"']))

end Stackwatch.Text
