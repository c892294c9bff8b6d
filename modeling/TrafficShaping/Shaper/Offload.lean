/-
Offload features: what the feature tool reports, and which of it spoils a
bandwidth limit. With segmentation or receive offload on, the limiter sees
packets merged into larger ones and shapes below the rate it was given.

The report is read entry by entry. An entry stands at the front of a line,
blanks apart: a name of lower-case letters, digits and hyphens, a colon, at
least one blank, and `on` or `off` as a whole word. The blanks may run over
line ends.
-/
import TrafficShaping.Text.Blank
import TrafficShaping.Text.Matches
import TrafficShaping.Text.Word

namespace TrafficShaping.Offload

/-- The features that spoil a bandwidth limit. -/
def features : List String :=
  ["tcp-segmentation-offload", "generic-segmentation-offload", "generic-receive-offload"]

-- ============================================================ one entry

/-- A feature and whether it is on. -/
structure Entry where
  name : List Char
  isOn : Bool
  deriving DecidableEq, Repr

/-- The characters of feature names. -/
def isNameChar (c : Char) : Bool := c.isLower || c.isDigit || c == '-'

/-- The state of a feature at the front of a text, as a whole word. -/
def state? (cs : List Char) : Option Bool :=
  let ends (rest : List Char) : Bool := !rest.head?.any Text.isWordChar
  match cs with
  | 'o' :: 'n' :: rest => if ends rest then some true else none
  | 'o' :: 'f' :: 'f' :: rest => if ends rest then some false else none
  | _ => none

/-- The entry at the front of a text, with the number of characters it
takes up. -/
def entry? (cs : List Char) : Option (Entry × Nat) :=
  let start := cs.dropWhile Text.isBlank
  let name := start.takeWhile isNameChar
  match start.dropWhile isNameChar with
  | ':' :: afterColon =>
    let gap := afterColon.takeWhile Text.isBlank
    if name.isEmpty || gap.isEmpty then none
    else
      (state? (afterColon.dropWhile Text.isBlank)).map fun isOn =>
        (⟨name, isOn⟩,
          (cs.takeWhile Text.isBlank).length + name.length + 1 + gap.length
            + if isOn then 2 else 3)
  | _ => none

-- ========================================================== all entries

/-- The entries of a report: those at line starts that no earlier entry
reaches over. -/
def entries (report : String) : List Entry := Text.lineMatches entry? report.toList

/-- The features of a report that are on and spoil a bandwidth limit. -/
def enabled (report : String) : List String :=
  ((entries report).filter fun e => e.isOn && features.contains (String.ofList e.name)).map
    fun e => String.ofList e.name

end TrafficShaping.Offload
