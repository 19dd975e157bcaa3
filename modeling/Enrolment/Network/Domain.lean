import Enrolment.Network.Domain.Direction
import Enrolment.Network.Domain.Joining
import Enrolment.Network.Domain.Meaning
import Enrolment.Network.Domain.Punycode
import Enrolment.Text.Composition

/-!
# Names of hosts

The name of a host is made of labels between points.  It may be written in any
script; on the way it is written in ASCII, where a label that is not ASCII is
marked by a start of its own and written by the places of its characters.

Each character is replaced by what it stands for, and the name is spelled
composed.  A label must not start with a mark, joiners must make a difference in
it, and in a name with characters that are written from the right each label runs
in one direction.  A label that comes in its ASCII form must be the form of a label
that obeys the same rules and needs no replacing.

## Main definitions

* `Label`, `Label.read?` — a label in both forms.
* `ascii?` — the ASCII form of a name.
-/

namespace Enrolment.Domain

/-- A label in both its forms. -/
structure Label where
  /-- As it is shown. -/
  shown : List Char
  /-- As it is written on the way. -/
  ascii : List Char
  deriving DecidableEq, Repr

/-- The start of labels that are not shown as they are written. -/
def marker : List Char := ['x', 'n', '-', '-']

/-- How many characters a label that is not ASCII may have. -/
def longest : Nat := 1000

/-- How many characters the ASCII form of such a label may have after its
start. -/
def longestCode : Nat := 2000

/-- The characters of the label may stand where they stand. -/
def isSound (label : List Char) : Bool :=
  !label.head?.any Text.isMark && joinersAreSound label &&
    (label.all Punycode.isAscii || label.length ≤ longest)

/-- The label that an ASCII form after its start tells. -/
def Label.decode? (code : List Char) : Option Label :=
  if longestCode < code.length then none
  else do
    let shown ← Punycode.decode? code
    if shown.all Punycode.isAscii || (Text.afterPrefix marker shown).isSome ||
        !shown.all standsForItself || Text.composed shown ≠ shown || !isSound shown then none
    else some ⟨shown, marker ++ code⟩

/-- The label that characters write, which have been replaced and composed. -/
def Label.read? (cs : List Char) : Option Label :=
  match Text.afterPrefix marker cs with
  | some code => if code.all Punycode.isAscii then Label.decode? code else none
  | none =>
    if !isSound cs then none
    else if cs.all Punycode.isAscii then some ⟨cs, cs⟩
    else some ⟨cs, marker ++ Punycode.encode cs⟩

/-- The ASCII form of a name. -/
def ascii? (name : List Char) : Option (List Char) := do
  let replaced ← name.mapM standsFor
  let labels ← (Text.fields '.' (Text.composed replaced.flatten)).mapM Label.read?
  let shown := labels.map (·.shown)
  if shown.any (·.any goesRight) && !shown.all runsInOneDirection then none
  else some (List.intercalate ['.'] (labels.map (·.ascii)))

end Enrolment.Domain
