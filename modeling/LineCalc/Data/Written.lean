import LineCalc.Binary64.Shortest
import LineCalc.Data.Value

/-!
How values that are no texts are written where a report names them.
-/
namespace LineCalc

def call (function : String) (arguments : List String) : String :=
  function ++ "(" ++ ", ".intercalate arguments ++ ")"

namespace ClockTime

def arguments (time : ClockTime) : List String :=
  let tail := if time.microsecond ≠ 0 then [time.second, time.microsecond]
    else if time.second ≠ 0 then [time.second]
    else []
  (time.hour :: time.minute :: tail).map toString

end ClockTime

def Date.arguments (date : Date) : List String := [date.year, date.month, date.day].map toString

namespace Moment

/-- A distance to the west is written as a day less and the rest of that day. -/
def offsetText (minutes : Int) : String :=
  if minutes = 0 then "datetime.timezone.utc"
  else
    let seconds := "seconds=" ++ toString ((minutes * 60) % 86400)
    let delta := if minutes < 0 then ["days=-1", seconds] else [seconds]
    call "datetime.timezone" [call "datetime.timedelta" delta]

def text : Moment → String
  | date d => call "datetime.date" d.arguments
  | time t => call "datetime.time" t.arguments
  | dateTime d t offset? =>
    let zone := offset?.toList.map fun minutes => "tzinfo=" ++ offsetText minutes
    call "datetime.datetime" (d.arguments ++ t.arguments ++ zone)

end Moment

/-- A truth value is written as a number, and what holds other values by its type alone. -/
def Data.written : Data → String
  | text s => s
  | int n => toString n
  | bool true => "1"
  | bool false => "0"
  | null => "None"
  | float x => x.text
  | moment m => m.text
  | data => data.typeName

end LineCalc
