import InputMap.Text.Hidden

/-! # Quoted text in messages

Names that come from a user stand in messages between double quotes, with everything escaped that
would end the quotation or would not show. -/

namespace InputMap.Text

/-- One character inside quotes. -/
def escapeChar : Char → List Char
  | '"' => ['\\', '"']
  | '\\' => ['\\', '\\']
  | '\n' => ['\\', 'n']
  | '\r' => ['\\', 'r']
  | '\t' => ['\\', 't']
  | '\x00' => ['\\', '0']
  | c => if isHidden c then ['\\', 'u', '{'] ++ Nat.toDigits 16 c.toNat ++ ['}'] else [c]

/-- A text between double quotes. -/
def quoted (s : String) : String :=
  String.ofList ('"' :: s.toList.flatMap escapeChar ++ ['"'])

example : quoted "a\"b\\" = "\"a\\\"b\\\\\"" := by decide +kernel
example : quoted "it's\n" = "\"it's\\n\"" := by decide +kernel
example : escapeChar '\x7f' = ['\\', 'u', '{', '7', 'f', '}'] := by decide +kernel

end InputMap.Text
