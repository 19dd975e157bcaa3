import Enrolment.Service.Keys

/-!
# Challenges

The registry proves that a subscriber holds its key by a text sealed for it; the
answer is the text.  Answering depends on the challenge and the key alone, so
that a repeated challenge has the same answer.

## Main definitions

* `Challenge.resolve` — the answer to a challenge.
-/

namespace Enrolment.Challenge

/-- Whatever goes wrong with a challenge, the challenge is not answered. -/
def asUnanswered : ServiceError → ServiceError
  | .decryption e => .decryption e
  | e => .decryption (.reported e.message)

/-- The answer to a challenge that the registry sealed for the key. -/
def resolve (registryKey challenge keyId : String) : Operation String := do
  if Text.allBlank challenge then throw (.validation (.blank .challenge))
  let answer ← ExceptT.adapt asUnanswered (Keys.openFrom keyId challenge registryKey)
  if answer = "" then throw (.decryption .emptyAnswer)
  return answer

end Enrolment.Challenge
