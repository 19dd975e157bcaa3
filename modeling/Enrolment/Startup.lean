import Enrolment.Config

/-!
# Starting and ending

A start reads the settings first.  Settings that cannot be read end it with a
complaint; with good ones the subscriber needs a listener, and where none can be
bound it ends without one.

## Main definitions

* `Exit`, `Exit.ofSettings` — the end of a start that finds no listener.
-/

namespace Enrolment

/-- How the program ends. -/
structure Exit where
  /-- The code that it leaves behind. -/
  code : UInt32
  /-- What it complains about. -/
  complaint : String
  deriving DecidableEq, Repr

/-- The complaint about settings that cannot be read. -/
def ConfigError.complaint (e : ConfigError) : String := "configuration error: " ++ e.message ++ "\n"

/-- The end of a start with the given settings where no listener can be bound. -/
def Exit.ofSettings (source : Config.Source) : Exit :=
  match Config.load source with
  | .error e => ⟨1, e.complaint⟩
  | .ok _ => ⟨1, ""⟩

end Enrolment
