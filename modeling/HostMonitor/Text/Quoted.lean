import HostMonitor.Text.Printable
import HostMonitor.Text.Radix

/-!
# Quoted text

Text in double quotes, as error messages show names and paths: a quote, a backslash and the common
control characters are escaped by a backslash, a single quote is not, and a character that cannot be
shown as it is appears as its code point, `\u{hex}`.
-/

namespace HostMonitor.Text

/-- One character between quotes. -/
def escapeQuoted (c : Char) : List Char :=
  match c with
  | '"' => ['\\', '"']
  | '\\' => ['\\', '\\']
  | '\t' => ['\\', 't']
  | '\n' => ['\\', 'n']
  | '\r' => ['\\', 'r']
  | '\x00' => ['\\', '0']
  | c => if isPrintable c then [c] else ['\\', 'u', '{'] ++ Radix.hex c.toNat ++ ['}']

def quoted (s : String) : String :=
  String.ofList ('"' :: s.toList.flatMap escapeQuoted ++ ['"'])

end HostMonitor.Text
