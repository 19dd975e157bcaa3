import Enrolment.Network.Domain
import Enrolment.Network.IpAddress
import Enrolment.Text.Percent

/-!
# Addresses of the web

A request can be sent to an absolute address only: a scheme of the web, a host,
and perhaps a port, a path, a query and a fragment.  Reading is lenient about
slashes after the scheme and about user names, and strict about hosts: one whose
last label is a number has to be an address of version 4, which may be written in
fewer than four numbers.

An address is written in ASCII: the host in its ASCII form, everything after it
with the bytes that may not stand for themselves behind percent signs, and the
path without the parts that only lead up and down again.

## Main definitions

* `Url`, `Url.read?`, `Url.text` — addresses, read and written.
* `Url.isSendable` — a request can be sent to the address.
-/

namespace Enrolment

/-- An address of the web, without the name of a user. -/
structure Url where
  /-- The scheme is the secure one. -/
  secure : Bool
  /-- The host as it is written. -/
  host : List Char
  /-- The port, if it is not the one that goes with the scheme. -/
  port : Option Nat
  /-- The path, the query and the fragment as they are written. -/
  rest : List Char
  deriving DecidableEq, Repr

namespace Url

/-! ## The scheme and the port -/

/-- Whether the scheme is the secure one of the two schemes of the web, in any
case, and what follows it. -/
def cutScheme (cs : List Char) : Option (Bool × List Char) := do
  let (scheme, rest) ← Text.cutAt ':' cs
  let name := scheme.map Char.toLower
  if name = "http".toList then some (false, rest)
  else if name = "https".toList then some (true, rest)
  else none

/-- The port that goes with a scheme. -/
def usualPort (secure : Bool) : Nat := if secure then 443 else 80

/-- More than any number in an address may be. -/
def tooMuch : Nat := 4294967296

/-- The value of the digits in a base, where whatever is too much counts as
`tooMuch`; nothing for a digit of a larger base. -/
def numeral? (base : Nat) (ds : List Char) : Option Nat :=
  ds.foldlM (fun n d => do
    let v ← Text.hexValue? d
    if v < base then some (min (n * base + v) tooMuch) else none) 0

/-- The port after a host, if there is one and it is not the usual one. -/
def port? (secure : Bool) : List Char → Option (Option Nat)
  | [] => some none
  | [':'] => some none
  | ':' :: ds => do
    let n ← numeral? 10 ds
    if n < 65536 then some (if n = usualPort secure then none else some n) else none
  | _ => none

/-! ## The host -/

/-- The character may not stand in a host. -/
def isForbidden (c : Char) : Bool :=
  c.toNat ≤ 32 || c.toNat = 127 ||
    c ∈ ['#', '/', ':', '<', '>', '?', '@', '[', '\\', ']', '^', '|', '%']

/-- The value of a number in a host, which is octal after a zero and
hexadecimal after `0x`. -/
def number? : List Char → Option Nat
  | [] => none
  | '0' :: 'x' :: ds => numeral? 16 ds
  | '0' :: ds => numeral? 8 ds
  | ds => numeral? 10 ds

/-- The labels of a host; a point may end the last one. -/
def labels (host : List Char) : List (List Char) :=
  match (Text.fields '.' host).reverse with
  | [] :: rest => rest.reverse
  | _ => Text.fields '.' host

/-- The last label is a number, or has digits only. -/
def endsInNumber (host : List Char) : Bool :=
  match (labels host).getLast? with
  | none => false
  | some label => (label ≠ [] && label.all Char.isDigit) || (number? label).isSome

/-- The address of version 4 that the numbers write: at most four, of which all
but the last are bytes and the last fills what is left. -/
def addressOf? (host : List Char) : Option Nat := do
  let numbers ← (labels host).mapM number?
  let last ← numbers.getLast?
  let bytes := numbers.dropLast
  let room := Nat.pow 256 (4 - bytes.length)
  if 3 < bytes.length || bytes.any (256 ≤ ·) || room ≤ last then none
  else some (bytes.foldl (fun n b => n * 256 + b) 0 * room + last)

/-- The bytes of an address of version 4. -/
def octets (n : Nat) : List Nat :=
  [n / 16777216, n / 65536 % 256, n / 256 % 256, n % 256]

/-- The name of a host as it is written, where percent signs may write bytes. -/
def hostName? (cs : List Char) : Option (List Char) := do
  let name ← Domain.ascii? (Text.lossyText (Text.percentDecode (Text.encode cs))).toList
  if name.isEmpty || name.any isForbidden then none
  else if endsInNumber name then
    let n ← addressOf? name
    some (IpAddress.pointed (octets n)).toList
  else some name

/-- The host as it is written, and what follows it. -/
def host? : List Char → Option (List Char × List Char)
  | '[' :: cs => do
    let (inner, rest) ← Text.cutAt ']' cs
    match IpAddress.readV6 inner with
    | some (groups, []) => some ('[' :: (IpAddress.compressed groups).toList ++ [']'], rest)
    | _ => none
  | cs => do
    let name ← hostName? (cs.takeWhile (· != ':'))
    some (name, cs.dropWhile (· != ':'))

/-! ## The path -/

/-- The character separates the parts of a path. -/
def isSlash (c : Char) : Bool := c = '/' || c = '\\'

/-- The character ends a path. -/
def endsPath (c : Char) : Bool := c = '?' || c = '#'

/-- The bytes of a text, those of the characters in `special` and all that are no
visible ASCII behind percent signs. -/
def escaped (special cs : List Char) : List Char :=
  cs.flatMap fun c =>
    if 32 < c.toNat ∧ c.toNat < 127 ∧ c ∉ special then [c]
    else (Text.encode [c]).flatMap fun b =>
      ['%', Char.toUpper (Text.hexDigit (b.toNat / 16)),
        Char.toUpper (Text.hexDigit (b.toNat % 16))]

/-- The part stays where it is; its points may be escaped. -/
def staysPut (part : List Char) : Bool :=
  part.map Char.toLower ∈ [".", "%2e"].map String.toList

/-- The part leads up; its points may be escaped. -/
def leadsUp (part : List Char) : Bool :=
  part.map Char.toLower ∈ ["..", ".%2e", "%2e.", "%2e%2e"].map String.toList

/-- The parts of a path after those so far, which are held with the last one
first: what stays put or leads up is worked out, and leaves an empty part at the
end. -/
def walk (passed : List (List Char)) : List (List Char) → List (List Char)
  | [] => passed.reverse
  | [part] =>
    if leadsUp part then ([] :: passed.drop 1).reverse
    else if staysPut part then ([] :: passed).reverse
    else (part :: passed).reverse
  | part :: rest =>
    if leadsUp part then walk (passed.drop 1) rest
    else if staysPut part then walk passed rest
    else walk (part :: passed) rest

/-- The path as it is written. -/
def writtenPath (path : List Char) : List Char :=
  let slashes := path.map fun c => if isSlash c then '/' else c
  let parts := Text.fields '/' (match slashes with
    | '/' :: rest => rest
    | rest => rest)
  (walk [] parts).flatMap fun part =>
    '/' :: escaped ['"', '#', '<', '>', '?', '^', '`', '{', '}'] part

/-- The fragment as it is written. -/
def writtenFragment : List Char → List Char
  | '#' :: cs => '#' :: escaped ['"', '<', '>', '`'] cs
  | _ => []

/-- The query and the fragment as they are written. -/
def writtenQuery : List Char → List Char
  | '?' :: cs =>
    '?' :: escaped ['"', '#', '<', '>', '\''] (cs.takeWhile (· != '#')) ++
      writtenFragment (cs.dropWhile (· != '#'))
  | cs => writtenFragment cs

/-- What follows the host and the port, as it is written. -/
def writtenRest (cs : List Char) : List Char :=
  writtenPath (cs.takeWhile fun c => !endsPath c) ++
    writtenQuery (cs.dropWhile fun c => !endsPath c)

/-! ## Addresses -/

/-- The address that a text writes, which may start with blanks and control
characters and may be broken into lines. -/
def read? (s : String) : Option Url := do
  let kept := (s.toList.dropWhile fun c => c.toNat ≤ 32).filter fun c => c ∉ ['\t', '\n', '\r']
  let (secure, cs) ← cutScheme kept
  let cs := cs.dropWhile isSlash
  let authority := cs.takeWhile fun c => !(isSlash c || endsPath c)
  let (host, rest) ← host? (authority.reverse.takeWhile (· != '@')).reverse
  let port ← port? secure rest
  return { secure, host, port, rest := writtenRest (cs.drop authority.length) }

/-- The written form. -/
def text (u : Url) : String :=
  String.ofList ((if u.secure then "https://" else "http://").toList ++ u.host ++
    (u.port.elim [] fun n => ':' :: (Nat.repr n).toList) ++ u.rest)

/-- How long an address may be that a request is sent to. -/
def longest : Nat := 65534

/-- A request can be sent to the address: it is not too long, and its host holds
no quotes and no braces. -/
def isSendable (u : Url) : Bool :=
  u.text.length ≤ longest && !u.host.any (· ∈ ['"', '`', '{', '}'])

end Url

end Enrolment
