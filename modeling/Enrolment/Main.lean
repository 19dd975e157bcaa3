import Enrolment.Startup

/-!
# The program

The program takes its settings from the environment, and says on the error
stream what is wrong with them.
-/

namespace Enrolment

/-- The settings that the environment gives. -/
def environment : IO (List (String × String)) :=
  Config.names.filterMapM fun name => do
    return (← IO.getEnv name).map fun value => (name, value)

end Enrolment

/-- Start with the settings of the environment. -/
def main : IO UInt32 := do
  let settings ← Enrolment.environment
  let exit := Enrolment.Exit.ofSettings fun name => settings.lookup name
  IO.eprint exit.complaint
  return exit.code
