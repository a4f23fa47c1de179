import RecordQuery.Regex.Parser

/-!
# Size of regular expressions

An estimate of the states that an automaton for an expression needs, and the
reading of source texts within a limit on them.
-/

namespace RecordQuery

/-- About how many states recognise one character of a set, whose bytes are read backwards. -/
def CharSet.states : CharSet → Nat
  | .empty => 1
  | .full => 32
  | .range first last =>
      if first = last then first.utf8Size else if last.toNat < 128 then 2 else 8
  | .digit => 141
  | .space => 22
  | .word => 1459
  | .category _ | .script _ | .usedIn _ | .property _ => 400
  | .complement s => s.states + 8
  | .union s t | .inter s t | .diff s t | .exclusive s t => max s.states t.states
  | .anyCase s | .anyAsciiCase s => s.states

namespace Regex

def states : Regex → Nat
  | .empty => 1
  | .chars s => s.states
  | .look _ => 1
  | .seq first second => first.states + second.states
  | .alt first second => first.states + second.states + 1
  | .repeated inner low high =>
      match high with
      | none => max low 1 * inner.states + 1
      | some high => low * inner.states + (high - low) * (inner.states + 1)

/-- The states that fit ten mebibytes, at thirty-two bytes a state. -/
def stateLimit : Nat := 327680

/-- The expression of a source text, unless it is none or too large. -/
def compile? (ignoreCase : Bool) (source : String) : Option Regex := do
  let r ← parse? ignoreCase source.toList
  if r.states ≤ stateLimit then some r else none

end Regex

end RecordQuery
