/-
Drafts: traffic control commands under construction.

A draft collects settings in any order. A setting that holds one value is
overwritten by a later one, and lists grow at their end. Building checks that
the settings make a command and lays its words out in the one order that the
tool reads: options, object, operation, device, attachment, the part that
belongs to the object, and last whatever extra words were given.
-/
import TrafficShaping.Command
import TrafficShaping.Rules

namespace TrafficShaping

-- =================================================== what a draft says

/-- What a command is about. -/
inductive TcObject where
  | qdisc
  | filter
  deriving DecidableEq, Repr

/-- The word for an object. -/
def TcObject.render : TcObject → String
  | .qdisc => "qdisc"
  | .filter => "filter"

/-- What is done to the object. -/
inductive TcOperation where
  | add
  | delete
  | show
  deriving DecidableEq, Repr

/-- The word for an operation. -/
def TcOperation.render : TcOperation → String
  | .add => "add"
  | .delete => "del"
  | .show => "show"

/-- Where the object attaches. -/
inductive TcTarget where
  | root
  | ingress
  | parent (h : Handle)
  deriving DecidableEq, Repr

/-- The words for a target. -/
def TcTarget.words : TcTarget → List String
  | .root => ["root"]
  | .ingress => ["ingress"]
  | .parent h => ["parent", h.render]

/-- The target at which a discipline's parent is found. -/
def QdiscParent.target : QdiscParent → TcTarget
  | .root => .root
  | .handle h => .parent h

/-- A command under construction. -/
structure Draft where
  object : TcObject
  operation : Option TcOperation
  device : Option String
  target : Option TcTarget
  /-- The discipline's own handle. -/
  handle : Option Handle
  kind : Option QdiscKind
  params : List String
  priority : Option UInt16
  terms : List MatchTerm
  /-- The class a filter sends packets to. -/
  flow : Option Handle
  /-- Whether statistics are asked for. -/
  stats : Bool
  /-- Further words, put last. -/
  extra : List String
  deriving DecidableEq, Repr

/-- One step in the construction of a command. -/
inductive Setting where
  | operation (op : TcOperation)
  | device (name : String)
  | target (t : TcTarget)
  | handle (h : Handle)
  | kind (k : QdiscKind)
  | params (words : List String)
  | priority (n : UInt16)
  | terms (ts : List MatchTerm)
  | flow (h : Handle)
  | stats
  | extra (words : List String)
  deriving DecidableEq, Repr

namespace Draft

/-- A draft that says nothing but its object. -/
def empty (object : TcObject) : Draft where
  object := object
  operation := none
  device := none
  target := none
  handle := none
  kind := none
  params := []
  priority := none
  terms := []
  flow := none
  stats := false
  extra := []

/-- The draft after one more setting. -/
def set (d : Draft) : Setting → Draft
  | .operation op => { d with operation := some op }
  | .device name => { d with device := some name }
  | .target t => { d with target := some t }
  | .handle h => { d with handle := some h }
  | .kind k => { d with kind := some k }
  | .params words => { d with params := d.params ++ words }
  | .priority n => { d with priority := some n }
  | .terms ts => { d with terms := d.terms ++ ts }
  | .flow h => { d with flow := some h }
  | .stats => { d with stats := true }
  | .extra words => { d with extra := d.extra ++ words }

/-- The draft that a sequence of settings makes. -/
def ofSettings (object : TcObject) (settings : List Setting) : Draft :=
  settings.foldl set (empty object)

end Draft

-- =========================================================== checking

/-- Why a draft is no command. -/
inductive DraftError where
  | noOperation
  | noDevice
  | emptyDevice
  | noQdiscTarget
  | noQdiscKind
  | classAsQdisc (h : Handle)
  | noFilterParent
  | noTerm
  | noFlowOrAction
  deriving DecidableEq, Repr

/-- The wording of a draft error. -/
def DraftError.message : DraftError → String
  | noOperation => "TC operation must be specified"
  | noDevice => "Device interface must be specified"
  | emptyDevice => "Device interface cannot be empty"
  | noQdiscTarget => "Qdisc add requires a root, ingress or parent target"
  | noQdiscKind => "Qdisc type must be specified for add operation"
  | classAsQdisc h => "Qdisc handle " ++ h.render ++ " must have a zero minor"
  | noFilterParent => "Filter add requires a parent qdisc"
  | noTerm => "Filter add requires at least one match"
  | noFlowOrAction => "Filter add requires a flowid or an action"

namespace Draft

/-- What adding a discipline needs. -/
def checkQdisc (d : Draft) : Except DraftError Unit := do
  if d.target.isNone then throw .noQdiscTarget
  if d.kind.isNone && d.target != some .ingress then throw .noQdiscKind
  match d.handle with
  | some h => if h.isQdisc then pure () else throw (.classAsQdisc h)
  | none => pure ()

/-- What adding a filter needs. -/
def checkFilter (d : Draft) : Except DraftError Unit := do
  match d.target with
  | some (.parent _) => pure ()
  | _ => throw .noFilterParent
  if d.terms.isEmpty then throw .noTerm
  if d.flow.isNone && d.extra.isEmpty then throw .noFlowOrAction

/-- The operation and device of a draft that makes a command. -/
def check (d : Draft) : Except DraftError (TcOperation × String) := do
  let some op := d.operation | throw .noOperation
  let some device := d.device | throw .noDevice
  if device.isEmpty then throw .emptyDevice
  if op = .add then
    match d.object with
    | .qdisc => d.checkQdisc
    | .filter => d.checkFilter
  return (op, device)

-- =========================================================== building

/-- A named word followed by a value, where there is one. -/
def option (name : String) (value : Option String) : List String :=
  match value with
  | some v => [name, v]
  | none => []

/-- The words of a filter's term. The written form is taken apart at every
space, so a network that holds a space gives several words. -/
def termWords (t : MatchTerm) : List String :=
  "match" :: (t.render.toList.splitOnP (· == ' ')).map String.ofList

/-- The words that belong to a discipline. Its handle is always given; its
kind and parameters only where it is added, and not at the ingress hook,
whose name is the kind already. -/
def qdiscWords (d : Draft) (op : TcOperation) : List String :=
  option "handle" (d.handle.map Handle.render)
    ++ if op = .add ∧ d.target ≠ some .ingress then
        (d.kind.map QdiscKind.render).toList ++ d.params
      else []

/-- The words that belong to a filter, given only where it is added. -/
def filterWords (d : Draft) (op : TcOperation) : List String :=
  if op = .add then
    ["protocol", "ip"] ++ option "prio" (d.priority.map fun n => n.toNat.repr) ++ ["u32"]
      ++ d.terms.flatMap termWords ++ option "flowid" (d.flow.map Handle.render)
  else []

/-- The words of a command, in order. -/
def words (d : Draft) (op : TcOperation) (device : String) : List String :=
  (if d.stats then ["-s"] else [])
    ++ [d.object.render, op.render, "dev", device]
    ++ (d.target.map TcTarget.words).getD []
    ++ (match d.object with
        | .qdisc => d.qdiscWords op
        | .filter => d.filterWords op)
    ++ d.extra

/-- The command that a draft describes. -/
def build (d : Draft) : Except DraftError Command :=
  d.check.map fun (op, device) => ⟨.tc, d.words op device⟩

end Draft

-- ============================================== commands from settings

namespace Command

/-- The command about disciplines that these settings describe. -/
def qdisc (settings : List Setting) : Except DraftError Command :=
  (Draft.ofSettings .qdisc settings).build

/-- The command about filters that these settings describe. -/
def filter (settings : List Setting) : Except DraftError Command :=
  (Draft.ofSettings .filter settings).build

/-- The command that installs a discipline. -/
def addQdisc (q : Qdisc) : Except DraftError Command :=
  qdisc [.operation .add, .device q.device, .target q.parent.target, .handle q.handle,
    .kind q.kind, .params q.params]

/-- The command that installs a filter. -/
def addFilter (f : Filter) : Except DraftError Command :=
  filter [.operation .add, .device f.device, .target (.parent f.parent),
    .priority f.priority, .terms f.terms, .flow f.flow]

/-- The commands that install a rule set, one for each rule, disciplines
first. -/
def ofRules (r : RuleSet) : Except DraftError (List Command) := do
  let qdiscs ← r.qdiscs.mapM addQdisc
  let filters ← r.filters.mapM addFilter
  return qdiscs ++ filters

end Command

end TrafficShaping
