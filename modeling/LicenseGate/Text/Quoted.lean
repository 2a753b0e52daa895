import LicenseGate.Text.Unshown

/-!
Text in double quotes as messages show it: on one line, quotes and backslashes escaped, characters
that would not be seen given by number.
-/

namespace LicenseGate.Text.Quoted

def escapeChar (c : Char) : List Char :=
  match c with
  | '"' => ['\\', '"']
  | '\\' => ['\\', '\\']
  | '\n' => ['\\', 'n']
  | '\r' => ['\\', 'r']
  | '\t' => ['\\', 't']
  | '\x00' => ['\\', '0']
  | c =>
      if Unshown.isUnshown c then
        ['\\', 'u', '\x7b'] ++ Nat.toDigits 16 c.toNat ++ ['\x7d']
      else [c]

def quote (text : String) : String :=
  String.ofList ('"' :: text.toList.flatMap escapeChar ++ ['"'])

end LicenseGate.Text.Quoted
