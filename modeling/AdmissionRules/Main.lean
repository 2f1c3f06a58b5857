import AdmissionRules.CommandLine.Report

set_option autoImplicit false

/-! # The program

Takes the options from the arguments and the environment, and prints those in effect. -/

namespace AdmissionRules

/-- The variables of the environment that stand for options. -/
def environment : IO (List (String × String)) := do
  let found ← OptionKey.all.mapM fun key => do
    let value? ← IO.getEnv key.variableName
    pure (value?.map (key.variableName, ·))
  pure (found.filterMap id)

end AdmissionRules

open AdmissionRules

def main (arguments : List String) : IO UInt32 := do
  let found ← environment
  match Options.parse arguments fun name => found.lookup name with
  | .ok options =>
    IO.println options.report.render
    pure 0
  | .error stop =>
    if stop.exitCode = 0 then IO.print stop.message else IO.eprint stop.message
    pure (UInt32.ofNat stop.exitCode)
