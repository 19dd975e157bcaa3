import Enrolment.Service.Registration

/-!
# Rehearsals

A rehearsal carries out plans against a store in memory and a registry that
answers from a script, with everything that can go wrong arranged beforehand:
store operations fail with given errors, other writers are faster, the registry
stalls, and the process is started anew over the same store.

Time passes with every look at the clock, names and keys are made from a
counter, and pauses take no time.  Rounds wait in a row until they are let run.

## Main definitions

* `StoreMethod`, `Fault` — what fails next.
* `Lifetime` — what is lost when a process ends: its keys at hand and its
  registry.
* `Rehearsal` — the surroundings, and `Rehearsal.answer` for what they answer.
* `Rehearsal.run`, `Rehearsal.settle` — carry out a plan, and the rounds that
  wait.
-/

namespace Enrolment

/-- An operation of the store that can be made to fail. -/
inductive StoreMethod
  /-- To look up a record. -/
  | get
  /-- To store a new record. -/
  | create
  /-- To replace a record. -/
  | put
  /-- To list the records of a subscriber. -/
  | ofSubscriber
  /-- To list the records with a status. -/
  | withStatus
  /-- To look up a keyset. -/
  | getKeys
  /-- To store a keyset. -/
  | offerKeys
  deriving DecidableEq, Repr

/-- The next use of an operation fails. -/
structure Fault where
  /-- The operation. -/
  method : StoreMethod
  /-- What the store answers. -/
  error : StoreError
  deriving DecidableEq, Repr

/-- A call that the registry has seen. -/
structure Call where
  /-- The request. -/
  request : Request
  /-- The header that carried the signature. -/
  authorization : Option String

/-- What is lost when a process ends. -/
structure Lifetime where
  /-- The keysets at hand. -/
  atHand : List (String × Keyset)
  /-- The next answers of the registry; after them it acknowledges every
  request. -/
  script : List (Except RegistryError Ack)
  /-- The registry never answers. -/
  stalled : Bool
  /-- The calls that the registry has seen. -/
  calls : List Call

namespace Lifetime

/-- A process that has just started. -/
def fresh (script : List (Except RegistryError Ack)) (stalled : Bool) : Lifetime :=
  ⟨[], script, stalled, []⟩

/-- The registry's answer to a request. -/
def answer (p : Lifetime) (request : Request) (authorization : Option String) :
    Option (Except RegistryError Ack) × Lifetime :=
  let p := { p with calls := p.calls ++ [⟨request, authorization⟩] }
  if p.stalled then (none, p)
  else match p.script with
    | reply :: script => (some reply, { p with script := script })
    | [] => (some (.ok ⟨"ACK", request.messageId⟩), p)

end Lifetime

/-- A round that waits. -/
structure Round where
  /-- The process that started it, counted from the first. -/
  lifetime : Nat
  /-- The record that it was started for. -/
  record : Record
  /-- How it asks for the registration. -/
  kind : RoundKind

/-- The surroundings of a rehearsal. -/
structure Rehearsal where
  /-- The store. -/
  store : Store
  /-- What fails next. -/
  faults : List Fault
  /-- The statuses that faster writers will set; none keeps the status. -/
  rivals : List (Option Status)
  /-- How often the clock was looked at. -/
  ticks : Nat
  /-- How many names and keysets were made. -/
  made : Nat
  /-- The processes, the first one first. -/
  lifetimes : List Lifetime
  /-- The rounds that wait. -/
  rounds : List Round

namespace Rehearsal

/-- An empty store and a first process. -/
def start (p : Lifetime) : Rehearsal := ⟨.empty, [], [], 0, 0, [p], []⟩

/-- The number of the last process. -/
def current (w : Rehearsal) : Nat := w.lifetimes.length - 1

/-- A process by its number. -/
def lifetime (w : Rehearsal) (i : Nat) : Lifetime := w.lifetimes.getD i (.fresh [] false)

/-- Put a process in the place of one. -/
def setLifetime (w : Rehearsal) (i : Nat) (p : Lifetime) : Rehearsal :=
  { w with lifetimes := w.lifetimes.set i p }

/-! ## Time, names and keys -/

/-- The second in which the clock starts. -/
def firstSecond : Int := 1767225600

/-- Look at the clock. -/
def tick (w : Rehearsal) : Moment × Rehearsal :=
  ((Moment.ofUnix? (firstSecond + w.ticks) 0).getD .epoch, { w with ticks := w.ticks + 1 })

/-- The next number of the counter. -/
def draw (w : Rehearsal) : Nat × Rehearsal := (w.made, { w with made := w.made + 1 })

/-- A name in the form of a random identifier. -/
def nameOf (n : Nat) : String :=
  let digits := Text.toHex (Crypto.bigEndian 16 n)
  let part := fun (start length : Nat) => String.ofList ((digits.toList.drop start).take length)
  part 0 8 ++ "-" ++ part 8 4 ++ "-4" ++ part 13 3 ++ "-8" ++ part 17 3 ++ "-" ++ part 20 12

/-- The text is in the form of a random identifier. -/
def isName (s : String) : Bool :=
  s.length = 36 && s.toList.zipIdx.all fun (c, i) =>
    if i = 8 ∨ i = 13 ∨ i = 18 ∨ i = 23 then c = '-'
    else if i = 14 then c = '4'
    else if i = 19 then c ∈ ['8', '9', 'a', 'b']
    else (Text.hexValue? c).isSome && !c.isUpper

/-- A keyset made from a number. -/
def keysOf (n : Nat) : Keyset :=
  ⟨Crypto.sha256 (1 :: Crypto.bigEndian 8 n), Crypto.sha256 (2 :: Crypto.bigEndian 8 n)⟩

/-- A nonce made from a number. -/
def nonceOf (n : Nat) : Bytes := Crypto.bigEndian Crypto.Gcm.nonceLength n

/-! ## The store -/

/-- The fault of an operation, which is then over. -/
def takeFault (w : Rehearsal) (method : StoreMethod) : Option StoreError × Rehearsal :=
  match w.faults.findIdx? (·.method = method) with
  | none => (none, w)
  | some i => ((w.faults[i]?).map Fault.error, { w with faults := w.faults.eraseIdx i })

/-- An operation of the store, unless it is to fail. -/
def useStore {α : Type} (w : Rehearsal) (method : StoreMethod)
    (operation : Rehearsal → Except StoreError α × Rehearsal) : Except StoreError α × Rehearsal :=
  match w.takeFault method with
  | (some e, w) => (.error e, w)
  | (none, w) => operation w

/-- Let a faster writer change the record of an identity. -/
def letRival (w : Rehearsal) (identity : Identity) : Rehearsal :=
  match w.rivals with
  | [] => w
  | status :: rivals =>
    let (now, w) := { w with rivals := rivals }.tick
    match w.store.get? identity with
    | none => w
    | some r =>
      { w with store := (w.store.put (r.withStatus (status.getD r.status) now) r.version).2 }

/-- Replace a record, after a faster writer. -/
def replace (w : Rehearsal) (r : Record) (expected : Nat) : Except StoreError Record × Rehearsal :=
  let w := w.letRival r.identity
  let (result, store) := w.store.put r expected
  (result, { w with store := store })

/-! ## Answers -/

/-- What the surroundings answer to a process. -/
def answer (i : Nat) : (a : Ask) → Rehearsal → Option a.Reply × Rehearsal
  | .lookup identity, w =>
    let (result, w) := w.useStore .get fun w => (w.store.get identity, w)
    (some result, w)
  | .insert r, w =>
    let (result, w) := w.useStore .create fun w =>
      let (result, store) := w.store.create r
      (result, { w with store := store })
    (some result, w)
  | .replace r expected, w =>
    let (result, w) := w.useStore .put fun w => w.replace r expected
    (some result, w)
  | .ofSubscriber subscriberId, w =>
    let (result, w) := w.useStore .ofSubscriber fun w =>
      (.ok (w.store.ofSubscriber subscriberId), w)
    (some result, w)
  | .withStatus status, w =>
    let (result, w) := w.useStore .withStatus fun w => (.ok (w.store.withStatus status), w)
    (some result, w)
  | .storedKeys keyId, w =>
    let (result, w) := w.useStore .getKeys fun w => (.ok (w.store.keys? keyId), w)
    (some result, w)
  | .offerKeys keyId keys, w =>
    let (result, w) := w.useStore .offerKeys fun w =>
      let (stored, store) := w.store.offerKeys keyId keys
      (.ok stored, { w with store := store })
    (some result, w)
  | .keysAtHand keyId, w => (some ((w.lifetime i).atHand.lookup keyId), w)
  | .keepKeys keyId keys, w =>
    let p := w.lifetime i
    (some (), w.setLifetime i { p with atHand := (keyId, keys) :: p.atHand })
  | .freshKeys, w => let (n, w) := w.draw; (some (keysOf n), w)
  | .freshName, w => let (n, w) := w.draw; (some (nameOf n), w)
  | .clock, w => let (now, w) := w.tick; (some now, w)
  | .chance _, w => (some (0 : Nat), w)
  | .pause _, w => (some (), w)
  | .call request authorization, w =>
    let (reply, p) := (w.lifetime i).answer request authorization
    (reply, w.setLifetime i p)
  | .schedule r kind, w => (some (), { w with rounds := w.rounds ++ [⟨i, r, kind⟩] })

/-- Carry out a plan in a process. -/
def runIn {α : Type} (w : Rehearsal) (i : Nat) (p : Plan α) : Option α × Rehearsal :=
  p.runIn (answer i) w

/-- Carry out a plan in the last process. -/
def run {α : Type} (w : Rehearsal) (p : Plan α) : Option α × Rehearsal := w.runIn w.current p

/-- Let the rounds that wait run one after another. -/
def settle (w : Rehearsal) (s : Service) : Rehearsal :=
  w.rounds.foldl
    (fun w round => (w.runIn round.lifetime (s.register round.record round.kind).run).2)
    { w with rounds := [] }

/-- Start a new process over the same store. -/
def restart (w : Rehearsal) (p : Lifetime) : Rehearsal := { w with lifetimes := w.lifetimes ++ [p] }

/-- Let the next uses of an operation fail. -/
def fail (w : Rehearsal) (method : StoreMethod) (count : Nat) (e : StoreError) : Rehearsal :=
  { w with faults := w.faults ++ List.replicate count ⟨method, e⟩ }

/-- Let other writers be faster the next times. -/
def race (w : Rehearsal) (count : Nat) (status : Option Status) : Rehearsal :=
  { w with rivals := w.rivals ++ List.replicate count status }

/-- Append answers to the script of the last process. -/
def enqueue (w : Rehearsal) (replies : List (Except RegistryError Ack)) : Rehearsal :=
  let p := w.lifetime w.current
  w.setLifetime w.current { p with script := p.script ++ replies }

/-- Put a new record into the store, whatever else is arranged. -/
def deposit (w : Rehearsal) (identity : Identity) (role : String) (payload : Payload) :
    Except ServiceError Record × Rehearsal :=
  let (now, w) := w.tick
  match Record.make identity role payload now with
  | .error e => (.error (.validation e), w)
  | .ok r =>
    let (result, store) := w.store.create r
    (result.mapError .ofStore, { w with store := store })

/-- A text that the sender seals for a stored keyset, if there is one. -/
def challenge (w : Rehearsal) (sender : Keyset) (keyId text : String) : Option String := do
  let keys ← w.store.keys? keyId
  (sender.sealFor (nonceOf 0) text keys.publicKeys.encryption).toOption

/-- Seal a text for a key and open it again. -/
def sealAndOpen (sender : Keyset) (keyId text : String) : Operation String := do
  let keys ← Keys.publicKeys keyId
  let blob ← Operation.ofExcept .crypto (sender.sealFor (nonceOf 0) text keys.encryption)
  Keys.openFrom keyId blob sender.publicKeys.encryption

/-- The name of the registry in messages. -/
def description : String := "mock registry client"

end Rehearsal

end Enrolment
