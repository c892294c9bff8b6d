/-
Matching a command line against the options.

Words are looked at from left to right. Two dashes and a name are a long
option, which may bring its value after an equals sign; one dash begins a run
of short ones, of which a parameter takes the rest of the run as its value;
any other word is the value of a parameter that still lacks one, or else the
action. After a word of two dashes alone, all words are taken as they are.

What a word gives takes effect only when the next option or action comes, or
at the end: until then it is held. So where two words are wrong, the one
named is often the later: a name that is not known, a switch with a value and
a surplus word are refused at once.
-/
import TrafficShaping.CommandLine.Table

namespace TrafficShaping.CommandLine

-- =============================================================== state

/-- What was given last and has not taken effect. -/
inductive Held where
  | nothing
  /-- A parameter, with its value as soon as there is one. -/
  | parameter (p : Parameter) (value : Option String)
  | action (word : String)
  deriving DecidableEq, Repr

/-- How far matching has come. -/
structure Progress where
  invocation : Invocation
  held : Held
  /-- Whether the action was given. -/
  acted : Bool
  /-- Whether options are over. -/
  plain : Bool
  deriving DecidableEq, Repr

/-- The state before the first word. -/
def Progress.start : Progress := ⟨Invocation.default, .nothing, false, false⟩

namespace Progress

/-- Lets what is held take effect. -/
def settle (s : Progress) : Except Refusal Progress :=
  match s.held with
  | .nothing => .ok s
  | .parameter _ none => .error .invalidValue
  | .parameter p (some value) => do
    return { s with invocation := ← setParameter s.invocation p value, held := .nothing }
  | .action word =>
    match Action.ofWord? word with
    | some action =>
      .ok { s with invocation := { s.invocation with action := action }, held := .nothing }
    | none => .error .invalidValue

-- =============================================================== words

/-- Gives a switch, or one of the two wishes. -/
def giveSwitch (s : Progress) (meaning : Meaning) : Except Refusal Progress := do
  let s ← s.settle
  match meaning with
  | .switch w => return { s with invocation := ← setSwitch s.invocation w }
  | .help => throw .displayHelp
  | .version => throw .displayVersion
  | .parameter p => return { s with held := .parameter p none }

/-- Gives a parameter together with its value. -/
def giveParameter (s : Progress) (p : Parameter) (value : List Char) :
    Except Refusal Progress := do
  let s ← s.settle
  return { s with invocation := ← setParameter s.invocation p (String.ofList value) }

/-- Takes a long option, without its dashes. -/
def takeLong (s : Progress) (word : List Char) : Except Refusal Progress :=
  let name := word.takeWhile (· != '=')
  match ofLong? name, word.dropWhile (· != '=') with
  | none, _ => .error .unknownArgument
  | some (.parameter p), '=' :: value => s.giveParameter p value
  | some _, _ :: _ => .error .tooManyValues
  | some meaning, [] => s.giveSwitch meaning

/-- Takes a run of short options, without its dash. -/
def takeShorts (s : Progress) : List Char → Except Refusal Progress
  | [] => .ok s
  | c :: rest =>
    match ofShort? c with
    | none => .error .unknownArgument
    | some (.parameter p) =>
      match rest with
      | [] => s.giveSwitch (.parameter p)
      | '=' :: value => s.giveParameter p value
      | value => s.giveParameter p value
    | some meaning => do takeShorts (← s.giveSwitch meaning) rest

/-- Takes a word as the action, of which there is one. -/
def takeAction (s : Progress) (word : List Char) : Except Refusal Progress :=
  if s.acted then .error .unknownArgument
  else do
    let s ← s.settle
    return { s with held := .action (String.ofList word), acted := true }

/-- Takes a word that is no option. -/
def takeValue (s : Progress) (word : List Char) : Except Refusal Progress :=
  match s.held with
  | .parameter p none => .ok { s with held := .parameter p (some (String.ofList word)) }
  | _ => s.takeAction word

/-- Takes one word. -/
def take (s : Progress) (word : String) : Except Refusal Progress :=
  let cs := word.toList
  if s.plain then s.takeAction cs
  else
    match cs with
    | ['-', '-'] => .ok { s with plain := true }
    | '-' :: '-' :: long => s.takeLong long
    | '-' :: c :: rest => s.takeShorts (c :: rest)
    | _ => s.takeValue cs

end Progress

-- ============================================================== parsing

/-- The invocation that a command line asks for. -/
def parse (words : List String) : Except Refusal Invocation := do
  let s ← words.foldlM Progress.take Progress.start
  let s ← s.settle
  return s.invocation

end TrafficShaping.CommandLine
