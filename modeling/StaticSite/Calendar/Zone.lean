import StaticSite.Fault
import StaticSite.Text.Digit

/-!
# Time zones

A zone is an abbreviation from a fixed table or a signed number of hours and minutes, and
stands for seconds east of the universal time.
-/

namespace StaticSite

namespace Calendar

/-- The known abbreviations with their hours east of the universal time. -/
def zoneHours : List (String × Int) :=
  [("UTC", 0), ("GMT", 0), ("EDT", -4), ("EST", -5), ("CDT", -5), ("CST", -6), ("MDT", -6),
    ("MST", -7), ("PDT", -7), ("PST", -8), ("AKDT", -8), ("AKST", -9), ("HST", -10)]

/-- The hours and the minutes of a numeric zone without its sign: two digits each, with or
without a colon between them. -/
def zoneDigits? : Text → Option (Nat × Nat)
  | [a, b, c, d] => do
    return ((← Text.digitValue? a) * 10 + (← Text.digitValue? b),
      (← Text.digitValue? c) * 10 + (← Text.digitValue? d))
  | [a, b, ':', c, d] => do
    return ((← Text.digitValue? a) * 10 + (← Text.digitValue? b),
      (← Text.digitValue? c) * 10 + (← Text.digitValue? d))
  | _ => none

/-- How a span of seconds is shown when it is too long for a zone. -/
def describeSpan (seconds : Int) : Text :=
  let days := seconds.fdiv 86400
  let rest := seconds.fmod 86400
  "datetime.timedelta(days=" ++ Text.ofInt days ++
    (if rest = 0 then [] else ", seconds=".toList ++ Text.ofInt rest) ++ ")"

/-- The fault of a zone that lies a day or more away. -/
def zoneTooFar (seconds : Int) : Fault :=
  .value ("offset must be a timedelta strictly between -timedelta(hours=24) and " ++
    "timedelta(hours=24), not " ++ describeSpan seconds ++ ".")

/-- The seconds east of the universal time that a zone stands for. -/
def parseZone (zone : Text) (source : Option Text) : Except Fault Int :=
  match zoneHours.find? fun (name, _) => name.toList = zone with
  | some (_, hours) => .ok (hours * 3600)
  | none =>
    let signed : Option Int :=
      match zone with
      | '+' :: digits => (zoneDigits? digits).map fun (hours, minutes) =>
        ((hours * 3600 + minutes * 60 : Nat) : Int)
      | '-' :: digits => (zoneDigits? digits).map fun (hours, minutes) =>
        -((hours * 3600 + minutes * 60 : Nat) : Int)
      | _ => none
    match signed with
    | none => .error (.parse (.unknownZone zone) ⟨source, none, none⟩)
    | some seconds =>
      if seconds.natAbs < 86400 then .ok seconds else .error (zoneTooFar seconds)

end Calendar

end StaticSite
