import HostMonitor.Scalar
import HostMonitor.Text.Numeral

/-!
# Load averages

The average number of waiting processes over one, five and fifteen minutes, which the kernel reports
as the first three words of a line.
-/

namespace HostMonitor

structure LoadAverage (α : Type) where
  one : α
  five : α
  fifteen : α

namespace LoadAverage

/-- The span that an average covers. -/
inductive Span where
  | one
  | five
  | fifteen
  deriving DecidableEq, Repr

def Span.text : Span → String
  | .one => "1min"
  | .five => "5min"
  | .fifteen => "15min"

/-- Why a text holds no load averages. -/
inductive Error where
  | tooShort (words : Nat)
  | invalid (span : Span) (cause : NumberError)
  deriving DecidableEq, Repr

def Error.message : Error → String
  | .tooShort words => "expected at least 3 fields, got " ++ Text.Numeral.text words
  | .invalid span cause =>
    "Failed to parse " ++ span.text ++ " load average: " ++ cause.message

variable {α : Type} [Scalar α]

def readSpan (span : Span) (word : List Char) : Except Error α :=
  (Scalar.read word).mapError (.invalid span)

def parse (content : String) : Except Error (LoadAverage α) :=
  match Text.words content.toList with
  | one :: five :: fifteen :: _ => do
    let one ← readSpan .one one
    let five ← readSpan .five five
    let fifteen ← readSpan .fifteen fifteen
    return ⟨one, five, fifteen⟩
  | words => .error (.tooShort words.length)

end LoadAverage

end HostMonitor
