import MeterTelegram.Run
import MeterTelegram.SelfCheck.Dates
import MeterTelegram.SelfCheck.Dispatch
import MeterTelegram.SelfCheck.Settings

namespace MeterTelegram.SelfCheck

/-! The self check: all checks in a fixed order, or those whose names hold a
pattern. It says nothing unless a check fails, a pattern is given or the log
is switched on. -/

def checks : List (Text × Check PUnit) :=
  [ ("hex", checkHex),
    ("addresses", checkAddresses),
    ("frames", checkFrames),
    ("dates", checkDates),
    ("dates_roundtrip", checkDatesReturn),
    ("dates_invalid", checkInvalidDates),
    ("fields", checkCounters),
    ("records", checkRecords),
    ("decoders", checkDecoders),
    ("all_records", checkAllRecords),
    ("unknown_codings", checkUnknownCodings),
    ("truncated", checkTruncated),
    ("invalid_dates", checkInvalidDatesInFrame),
    ("dates_in_frame", checkDatesInFrame),
    ("address_length", checkAddressLength),
    ("registry", checkRegistry),
    ("builtin_registry", checkBuiltinRegistry),
    ("printer", checkReports),
    ("config", checkConfigFiles),
    ("cmdline", checkCommandLine) ]

/-- What the arguments ask for. -/
structure Plan where
  log : Log := {}
  pattern : Option Text := none
deriving DecidableEq, Repr

/-- The last argument that is no switch is the pattern. -/
def Plan.heed (plan : Plan) (argument : Text) : Plan :=
  if argument = "--debug" then { plan with log := plan.log.setDebug true }
  else if argument = "--trace" then { plan with log := (plan.log.setDebug true).setTrace true }
  else { plan with pattern := some argument }

def Plan.ofArguments (arguments : List Text) : Plan :=
  (arguments.map Text.shown).foldl Plan.heed {}

/-- A check behind a line with its name, if a pattern was asked for. -/
def announced (pattern : Option Text) (name : Text) (check : Check PUnit) : Check PUnit :=
  match pattern with
  | none => check
  | some part =>
      if part.occursIn name then do
        Check.note [.output ("Test " ++ name ++ "\n")]
        check
      else return ()

/-- A session and the failures so far, after one more check. -/
def perform (pattern : Option Text) (progress : Session × Nat) (entry : Text × Check PUnit) :
    Session × Nat :=
  let done := announced pattern entry.1 entry.2
  (progress.1.recordAll done.entries, progress.2 + done.failures)

/-- A run of the self check with these arguments. -/
def ofArguments (arguments : List Text) : Finish :=
  let plan := Plan.ofArguments arguments
  let session := { Session.start Directory.empty with log := plan.log }
  let (session, failures) := checks.foldl (perform plan.pattern) (session, 0)
  if failures = 0 then ⟨session, 0⟩
  else ⟨session.print (Text.ofNat failures ++ " tests failed\n"), 1⟩

end MeterTelegram.SelfCheck
