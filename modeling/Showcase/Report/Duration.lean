import Showcase.Number.Binary64

namespace Showcase.Report

/-! # Durations -/

def nanosecondsPerMillisecond : Nat := 1000000

def nanosecondsPerSecond : Nat := 1000000000

/-- A duration in whole milliseconds, rounded down. -/
def milliseconds (nanoseconds : Nat) : Nat := nanoseconds / nanosecondsPerMillisecond

def seconds (nanoseconds : Nat) : Binary64 :=
  (Binary64.ofNat (nanoseconds / nanosecondsPerSecond)).addMagnitudes
    ((Binary64.ofNat (nanoseconds % nanosecondsPerSecond)).div (.ofNat nanosecondsPerSecond))

/-- A duration for people: milliseconds below one second, and seconds with two places from
there on. -/
def duration (nanoseconds : Nat) : String :=
  if milliseconds nanoseconds < 1000 then s!"{milliseconds nanoseconds}ms"
  else
    let hundredths := (seconds nanoseconds).inPlaces 2
    let places := hundredths % 100
    toString (hundredths / 100) ++ "." ++ (if places < 10 then "0" else "") ++ toString places ++ "s"

end Showcase.Report
