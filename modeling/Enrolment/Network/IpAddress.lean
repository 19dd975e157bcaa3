import Enrolment.Text.Hex
import Enrolment.Text.Integer

/-!
# Internet addresses

An address of version 4 is four numbers below 256 between points, without
leading zeros.  One of version 6 is eight groups of up to four hexadecimal
digits between colons; two colons stand for at least one group of zeros, and the
last two groups may be written as an address of version 4.

The written form is unique: the longest run of at least two zero groups, the
first of several, is written as two colons, and an address of version 4 that is
mapped into version 6 is written with points.

## Main definitions

* `IpAddress`, `IpAddress.read?`, `IpAddress.text` — addresses, read and
  written.
* `IpAddress.withPort` — an address and a port.
-/

namespace Enrolment

/-- An internet address. -/
inductive IpAddress
  /-- Four bytes. -/
  | v4 (octets : List Nat)
  /-- Eight groups of 16 bits. -/
  | v6 (groups : List Nat)
  deriving DecidableEq, Repr

namespace IpAddress

/-- The digits at the front of a text, at most `most` of them, and what
follows. -/
def readDigits (value? : Char → Option Nat) (most : Nat) (cs : List Char) :
    Option (List Nat × List Char) :=
  let ds := cs.takeWhile fun c => (value? c).isSome
  if ds = [] ∨ most < ds.length then none
  else some (ds.filterMap value?, cs.drop ds.length)

/-- A number below 256 without leading zeros. -/
def readOctet (cs : List Char) : Option (Nat × List Char) := do
  let (ds, rest) ← readDigits Text.digitValue? 3 cs
  let n := ds.foldl (fun n d => n * 10 + d) 0
  if (1 < ds.length ∧ ds.head? = some 0) ∨ 255 < n then none else some (n, rest)

/-- The rest of a text that begins with the character. -/
def readChar (c : Char) : List Char → Option (List Char)
  | [] => none
  | d :: rest => if c = d then some rest else none

/-- Numbers below 256 between points. -/
def readOctets : (count : Nat) → List Char → Option (List Nat × List Char)
  | 0, cs => some ([], cs)
  | count + 1, cs => do
    let (n, rest) ← readOctet cs
    let rest ← if count = 0 then some rest else readChar '.' rest
    let (ns, rest) ← readOctets count rest
    return (n :: ns, rest)

/-- A group of hexadecimal digits. -/
def readGroup (cs : List Char) : Option (Nat × List Char) := do
  let (ds, rest) ← readDigits Text.hexValue? 4 cs
  return (ds.foldl (fun n d => n * 16 + d) 0, rest)

/-- The two groups of four octets. -/
def groupsOf : List Nat → List Nat
  | [a, b, c, d] => [a * 256 + b, c * 256 + d]
  | _ => []

/-- Groups between colons, at most `limit` of them, the last two of which may be
written with points; whether they are, and what follows.  A colon stands before
the first group unless `first` holds. -/
def readGroups (first : Bool) : (limit : Nat) → List Char → List Nat × Bool × List Char
  | 0, cs => ([], false, cs)
  | limit + 1, cs =>
    let start := if first then some cs else readChar ':' cs
    match if limit = 0 then none else start.bind (readOctets 4) with
    | some (octets, rest) => (groupsOf octets, true, rest)
    | none =>
      match start.bind readGroup with
      | none => ([], false, cs)
      | some (n, rest) =>
        let (ns, pointed, rest) := readGroups false limit rest
        (n :: ns, pointed, rest)

/-- An address of version 6, and what follows. -/
def readV6 (cs : List Char) : Option (List Nat × List Char) := do
  let (head, pointed, rest) := readGroups true 8 cs
  if head.length = 8 then return (head, rest)
  if pointed then none
  let rest ← (readChar ':' rest).bind (readChar ':')
  let (tail, _, rest) := readGroups true (7 - head.length) rest
  return (head ++ List.replicate (8 - head.length - tail.length) 0 ++ tail, rest)

/-- The address that a text writes. -/
def read? (cs : List Char) : Option IpAddress :=
  let address := match readOctets 4 cs with
    | some (octets, rest) => some (v4 octets, rest)
    | none => (readV6 cs).map fun (groups, rest) => (v6 groups, rest)
  match address with
  | some (a, []) => some a
  | _ => none

/-! ## Writing -/

/-- Numbers between points. -/
def pointed (octets : List Nat) : String := ".".intercalate (octets.map Nat.repr)

/-- Groups between colons. -/
def coloned (groups : List Nat) : String := ":".intercalate (groups.map Text.hexNumber)

/-- The lengths of the runs of zeros that start at each group. -/
def zeroRuns : List Nat → List Nat
  | [] => []
  | g :: gs => let runs := zeroRuns gs; (if g = 0 then runs.headD 0 + 1 else 0) :: runs

/-- Groups, the first of the longest runs of zeros left out. -/
def compressed (groups : List Nat) : String :=
  let runs := zeroRuns groups
  let longest := runs.foldl max 0
  if longest < 2 then coloned groups
  else
    let start := runs.findIdx (· == longest)
    coloned (groups.take start) ++ "::" ++ coloned (groups.drop (start + longest))

/-- The written form. -/
def text : IpAddress → String
  | v4 octets => pointed octets
  | v6 [0, 0, 0, 0, 0, 0xffff, g, h] =>
    "::ffff:" ++ pointed [g / 256, g % 256, h / 256, h % 256]
  | v6 groups => compressed groups

/-- An address and a port. -/
def withPort (a : IpAddress) (port : Nat) : String :=
  match a with
  | v4 _ => a.text ++ ":" ++ Nat.repr port
  | v6 _ => "[" ++ a.text ++ "]:" ++ Nat.repr port

end IpAddress

end Enrolment
