import BlockTemplate.CommandLine
import Std.Time.DateTime.Timestamp
import Std.Time.Zoned.Database
/-!
# The program

Connects the command line with the files, the clock and the streams of a machine.
-/

namespace BlockTemplate.CommandLine

/-- An action whose failure is an answer too. -/
def attempt (action : IO String) : IO (Except String String) := do
  try return .ok (← action) catch e => return .error (toString e)

/-- The machine that the program runs on. -/
def machineHost : Host IO where
  readFile path := attempt (IO.FS.readFile path)
  readInput := attempt do (← IO.getStdin).readToEnd

/-- The offset from universal time where the program runs; zero where none is known. -/
def localOffset (time : Std.Time.Timestamp) : IO Int := do
  try
    return ((← Std.Time.Database.defaultGetLocalZoneRules).timezoneAt time).offset.second.val
  catch _ => return 0

/-- The present moment in local time. -/
def presentMoment : IO Calendar.Moment := do
  let time ← Std.Time.Timestamp.now
  let nanoseconds := time.toNanosecondsSinceUnixEpoch.val
  let offset ← localOffset time
  let second := 1000000000
  let moment := Calendar.Moment.ofInstant (nanoseconds / second + offset)
    (nanoseconds % second).toNat
  return { moment with offset := offset }

end BlockTemplate.CommandLine

open BlockTemplate.CommandLine in
def main (args : List String) : IO UInt32 := do
  let outcome ← run machineHost (← presentMoment) args
  IO.print outcome.stdout
  IO.eprint outcome.stderr
  return outcome.code.toUInt32
