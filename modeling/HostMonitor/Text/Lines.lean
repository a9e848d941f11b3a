import HostMonitor.Text.Blank

/-!
# Lines and separators

`lines` cuts text after each line feed; a carriage return right before the line feed goes with it.
`cut` splits once at the first occurrence of a character, and `splitAt` at all of them; `joinWith`
puts pieces together with the character between them.
-/

namespace HostMonitor.Text

def splitAt (sep : Char) (s : List Char) : List (List Char) :=
  pieces (· == sep) s

def joinWith (sep : Char) : List (List Char) → List Char
  | [] => []
  | [w] => w
  | w :: ws => w ++ sep :: joinWith sep ws

/-- Removes one carriage return at the end. -/
def dropReturn (s : List Char) : List Char :=
  if s.getLast? = some '\r' then s.dropLast else s

/-- The last piece is no line of its own unless it holds text, and its end is kept as it is. -/
def linesOf : List (List Char) → List (List Char)
  | [] => []
  | [w] => if w.isEmpty then [] else [w]
  | w :: ws => dropReturn w :: linesOf ws

def lines (s : List Char) : List (List Char) :=
  linesOf (splitAt '\n' s)

/-- The text before and after the first `sep`. -/
def cut (sep : Char) : List Char → Option (List Char × List Char)
  | [] => none
  | c :: s => if c = sep then some ([], s) else (cut sep s).map fun (a, b) => (c :: a, b)

/-- What follows `head` in `s`, if `s` begins with it. -/
def dropHead? : List Char → List Char → Option (List Char)
  | [], s => some s
  | _ :: _, [] => none
  | h :: hs, c :: s => if h = c then dropHead? hs s else none

theorem dropHead?_eq_some_iff {h s r : List Char} : dropHead? h s = some r ↔ s = h ++ r := by
  induction h generalizing s with
  | nil => simp [dropHead?]
  | cons x xs ih =>
    cases s with
    | nil => simp [dropHead?]
    | cons c s =>
      by_cases hx : x = c
      · subst hx; simp [dropHead?, ih]
      · simp [dropHead?, hx, Ne.symm hx]

def startsWith (head s : List Char) : Bool :=
  (dropHead? head s).isSome

/-- Maps `A` to `Z` to `a` to `z` and leaves every other character alone. -/
def asciiLower (s : List Char) : List Char :=
  s.map Char.toLower

def asciiUpper (s : List Char) : List Char :=
  s.map Char.toUpper

end HostMonitor.Text
