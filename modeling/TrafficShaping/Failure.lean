/-
Failures: why an invocation of the program ends without a result, from a bad
option to a fault on the way.

A failure is told as a chain of links, each the cause of the one before it.
It is shown on one line, or as a report that lists the causes below the
failure itself.
-/
import TrafficShaping.Fault
import TrafficShaping.Text.Numeral

namespace TrafficShaping

/-- A failure, with what its wording needs. -/
inductive Failure where
  | fault (f : Fault)
  /-- A profile was found and could not be read. -/
  | profileNotLoaded (path : String) (cause : Fault)
  | profileNotFound (reference : String) (searched : List String)
  | badExcludedPort (piece : String) (cause : Text.NumeralError)
  | badAction (word : String)
  | emptyInterface
  | emptyMirrorDevice
  | mirrorIsInterface (interface : String)
  | zeroBuffer
  | nothingToApply
  deriving DecidableEq, Repr

/-- A fault and what the system said to cause it. -/
def Fault.links : Fault → List String
  | .io cause => [(Fault.io cause).message, cause]
  | f => [f.message]

namespace Failure

/-- The fault at the bottom of a failure. -/
def fault? : Failure → Option Fault
  | fault f => some f
  | profileNotLoaded _ cause => some cause
  | _ => none

/-- Whether the program breaks off instead of reporting the failure. -/
def breaksOff (f : Failure) : Bool := f.fault? == some .brokenOff

/-- The wording of a failure, causes apart. -/
def message : Failure → String
  | fault f => f.message
  | profileNotLoaded path _ => "Failed to load profile " ++ path
  | profileNotFound reference searched =>
    "Profile '" ++ reference ++ "' not found (searched " ++ ", ".intercalate searched ++ ")"
  | badExcludedPort piece cause =>
    "Invalid excluded port '" ++ piece ++ "': " ++ cause.message
  | badAction word =>
    "Invalid action '" ++ word ++ "'. Must be 'apply', 'status' or 'clear'"
  | emptyInterface => "Interface name cannot be empty"
  | emptyMirrorDevice => "ifb device name cannot be empty"
  | mirrorIsInterface interface =>
    "ifb device must differ from the shaped interface '" ++ interface ++ "'"
  | zeroBuffer => "Buffer size must be greater than 0"
  | nothingToApply =>
    "Nothing to apply: give a bandwidth limit (-b) and/or an impairment (-e)"

/-- The causes of a failure, nearest first. -/
def causes : Failure → List String
  | fault f => f.links.tail
  | profileNotLoaded _ cause => cause.links
  | _ => []

/-- The failure and its causes on one line. -/
def chain (f : Failure) : String := ": ".intercalate (f.message :: f.causes)

-- ============================================================ reports

/-- A text whose first line begins with `first` and whose further lines begin
with `further`. -/
def indented (first further text : String) : String :=
  first ++ ("\n" ++ further).intercalate
    ((text.toList.splitOnP (· == '\n')).map String.ofList)

/-- The number of a cause in a report, flush right in five columns. -/
def causeNumber (n : Nat) : String :=
  let digits := Nat.toDigits 10 n
  String.ofList (List.replicate (5 - digits.length) ' ' ++ digits) ++ ": "

/-- The lines of causes numbered from `n` on. -/
def numbered (n : Nat) : List String → List String
  | [] => []
  | cause :: rest => indented (causeNumber n) "       " cause :: numbered (n + 1) rest

/-- The failure with its causes below it, numbered when there are several. -/
def report (f : Failure) : String :=
  match f.causes with
  | [] => f.message
  | [cause] => f.message ++ "\n\nCaused by:\n" ++ indented "    " "    " cause
  | causes => f.message ++ "\n\nCaused by:\n" ++ "\n".intercalate (numbered 0 causes)

end Failure

end TrafficShaping
