import HostMonitor.Pattern.CharClass

/-!
# Patterns

A pattern describes texts; `occursIn` says whether some part of a text is described by it. Matching
takes a set of positions to the set of positions at which a match that starts there can end.
-/

namespace HostMonitor

/-- What must hold at a position. -/
inductive Assertion where
  | textStart
  | textEnd
  | lineStart (crlf : Bool)
  | lineEnd (crlf : Bool)
  | boundary (unicode : Bool)
  | noBoundary (unicode : Bool)
  | wordStart (unicode : Bool)
  | wordEnd (unicode : Bool)
  | noWordBefore (unicode : Bool)
  | noWordAfter (unicode : Bool)
  deriving DecidableEq, Repr

inductive Pattern where
  | empty
  | one (c : CharClass)
  | assertion (a : Assertion)
  | seq (a b : Pattern)
  | alt (a b : Pattern)
  /-- At least `least` times, and at most `most` times if that is given. -/
  | repeated (p : Pattern) (least : Nat) (most : Option Nat)
  deriving DecidableEq, Repr, Inhabited

namespace Assertion

def before (text : Array Char) (i : Nat) : Option Char :=
  if i = 0 then none else text[i - 1]?

def isWord (unicode : Bool) (c : Option Char) : Bool :=
  c.any (CharClass.word unicode).contains

def holds (text : Array Char) (i : Nat) : Assertion → Bool
  | .textStart => i == 0
  | .textEnd => i == text.size
  | .lineStart crlf =>
    let prev := before text i
    prev.all (· == '\n') || (crlf && prev == some '\r' && text[i]? != some '\n')
  | .lineEnd crlf =>
    let next := text[i]?
    next.isNone || (next == some '\n' && !(crlf && before text i == some '\r')) ||
      (crlf && next == some '\r')
  | .boundary u => isWord u (before text i) != isWord u text[i]?
  | .noBoundary u => isWord u (before text i) == isWord u text[i]?
  | .wordStart u => !isWord u (before text i) && isWord u text[i]?
  | .wordEnd u => isWord u (before text i) && !isWord u text[i]?
  | .noWordBefore u => !isWord u (before text i)
  | .noWordAfter u => !isWord u text[i]?

end Assertion

namespace Pattern

/-- The members of both lists, those of the first before new ones of the second. -/
def merge (ps qs : List Nat) : List Nat :=
  ps ++ qs.filter (!ps.contains ·)

def iterate (step : List Nat → List Nat) : Nat → List Nat → List Nat
  | 0, ps => ps
  | n + 1, ps => iterate step n (step ps)

/-- The positions reached by at most `n` steps. -/
def reach (step : List Nat → List Nat) : Nat → List Nat → List Nat
  | 0, ps => ps
  | n + 1, ps => merge ps (reach step n (step ps))

/-- More steps than there are positions reach nothing new. -/
def rounds (text : Array Char) (least : Nat) (most : Option Nat) : Nat :=
  match most with
  | none => text.size + 1
  | some most => min (most - least) (text.size + 1)

def step? (text : Array Char) (c : CharClass) (i : Nat) : Option Nat :=
  match text[i]? with
  | some x => if c.contains x then some (i + 1) else none
  | none => none

/-- Where a match that starts at one of the given positions can end. -/
def ends (text : Array Char) : Pattern → List Nat → List Nat
  | .empty, ps => ps
  | .one c, ps => ps.filterMap (step? text c)
  | .assertion a, ps => ps.filter fun i => a.holds text i
  | .seq a b, ps => ends text b (ends text a ps)
  | .alt a b, ps => merge (ends text a ps) (ends text b ps)
  | .repeated p least most, ps =>
    reach (fun qs => ends text p qs) (rounds text least most)
      (iterate (fun qs => ends text p qs) least ps)

/-- Whether some part of `text` is described by the pattern. -/
def occursIn (p : Pattern) (text : String) : Bool :=
  let cs := text.toList.toArray
  !(p.ends cs (List.range (cs.size + 1))).isEmpty

/-- The number of characters that a pattern unfolds to. -/
def weight : Pattern → Nat
  | .empty => 1
  | .one _ => 1
  | .assertion _ => 1
  | .seq a b => a.weight + b.weight
  | .alt a b => a.weight + b.weight + 1
  | .repeated p least most => p.weight * max 1 (most.getD least)

end Pattern

end HostMonitor
