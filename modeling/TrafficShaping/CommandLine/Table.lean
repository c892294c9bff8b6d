/-
The options of the command line: what they are called, and what giving one
does to an invocation.

A switch is there or not, a parameter comes with a value. Either may be given
once; a parameter with two names is still one parameter.
-/
import TrafficShaping.Invocation

namespace TrafficShaping.CommandLine

-- ============================================================= refusal

/-- Why a command line is not carried out. The last two are wishes rather
than mistakes. -/
inductive Refusal where
  /-- The action is unknown or the value of a parameter is missing. -/
  | invalidValue
  | unknownArgument
  /-- Something is given twice. -/
  | argumentConflict
  /-- A switch is given a value. -/
  | tooManyValues
  /-- The value of a parameter is not of its kind. -/
  | valueValidation
  | displayHelp
  | displayVersion
  deriving DecidableEq, Repr

-- ============================================================= options

/-- The options that stand alone. -/
inductive Switch where
  | verbose
  | reorder
  | dryRun
  | json
  | skipOffloadCheck
  deriving DecidableEq, Repr

/-- The options that come with a value. -/
inductive Parameter where
  | interface
  | mirrorDevice
  | bandwidth
  | impairment
  | source
  | destination
  | exclude
  | bufferSize
  | profile
  deriving DecidableEq, Repr

/-- What a name on the command line stands for. -/
inductive Meaning where
  | switch (s : Switch)
  | parameter (p : Parameter)
  | help
  | version
  deriving DecidableEq, Repr

/-- A long name, the short one beside it if there is one, and what both stand
for. -/
structure Name where
  long : String
  short : Option Char
  meaning : Meaning
  deriving DecidableEq, Repr

/-- All names. -/
def names : List Name :=
  [⟨"verbose", some 'v', .switch .verbose⟩,
   ⟨"interface", some 'i', .parameter .interface⟩,
   ⟨"ifb", none, .parameter .mirrorDevice⟩,
   ⟨"bandwidth", some 'b', .parameter .bandwidth⟩,
   ⟨"impairment", some 'e', .parameter .impairment⟩,
   ⟨"netem", none, .parameter .impairment⟩,
   ⟨"from", some 'f', .parameter .source⟩,
   ⟨"to", some 't', .parameter .destination⟩,
   ⟨"exclude", some 'x', .parameter .exclude⟩,
   ⟨"reorder", some 'r', .switch .reorder⟩,
   ⟨"buffer-size", none, .parameter .bufferSize⟩,
   ⟨"profile", some 'p', .parameter .profile⟩,
   ⟨"dry-run", some 'n', .switch .dryRun⟩,
   ⟨"json", none, .switch .json⟩,
   ⟨"skip-offload-check", none, .switch .skipOffloadCheck⟩,
   ⟨"help", some 'h', .help⟩,
   ⟨"version", some 'V', .version⟩]

/-- What a long name stands for; it has to be written out. -/
def ofLong? (long : List Char) : Option Meaning :=
  (names.find? fun n => n.long.toList == long).map (·.meaning)

/-- What a short name stands for. -/
def ofShort? (short : Char) : Option Meaning :=
  (names.find? fun n => n.short == some short).map (·.meaning)

-- ============================================================= effects

/-- Gives what was not given before. -/
def once (given : Bool) (after : Invocation) : Except Refusal Invocation :=
  if given then .error .argumentConflict else .ok after

/-- The invocation with a switch given. -/
def setSwitch (i : Invocation) : Switch → Except Refusal Invocation
  | .verbose => once i.verbose { i with verbose := true }
  | .reorder => once i.reorder { i with reorder := true }
  | .dryRun => once i.dryRun { i with dryRun := true }
  | .json => once i.json { i with json := true }
  | .skipOffloadCheck => once i.skipOffloadCheck { i with skipOffloadCheck := true }

/-- A number of packets: an integer with an optional sign that fits 32 bits
without one. -/
def packets? (value : String) : Option UInt32 :=
  match Text.readInt64? value.toList with
  | some n => if 0 ≤ n ∧ n < UInt32.size then some (UInt32.ofNat n.toNat) else none
  | none => none

/-- The invocation with a parameter given. That it was given before matters
more than whether the value is of its kind. -/
def setParameter (i : Invocation) (p : Parameter) (value : String) :
    Except Refusal Invocation :=
  match p with
  | .interface => once i.interface.isSome { i with interface := some value }
  | .mirrorDevice => once i.mirrorDevice.isSome { i with mirrorDevice := some value }
  | .bandwidth => once i.bandwidth.isSome { i with bandwidth := some value }
  | .impairment => once i.impairment.isSome { i with impairment := some value }
  | .source => once i.source.isSome { i with source := some value }
  | .destination => once i.destination.isSome { i with destination := some value }
  | .exclude => once i.exclude.isSome { i with exclude := some value }
  | .profile => once i.profile.isSome { i with profile := some value }
  | .bufferSize =>
    match i.bufferSize, packets? value with
    | some _, _ => .error .argumentConflict
    | none, none => .error .valueValidation
    | none, some n => .ok { i with bufferSize := some n }

end TrafficShaping.CommandLine
