/-
A platform: the devices there are, what hangs at them, and what the issued
commands do to that.

The platform is told apart from the program that runs on it: it reads a
command off its words, and its reading settles the one device and the one
action that the command comes to. Each action says what a device has to be
like for it and what becomes of the device; nothing else on the platform
changes. A command that is not possible leaves everything as it is.
-/
import Mathlib.Logic.Function.Basic
import TrafficShaping.Proofs.Command.Words
import TrafficShaping.Proofs.Platform.Handles

namespace TrafficShaping

-- ============================================================ devices

/-- A discipline as it is installed: its name, the place it hangs at, and its
kind with the parameters. -/
structure Discipline where
  handle : Handle
  parent : QdiscParent
  words : List String
  deriving DecidableEq, Repr

/-- All that hangs at the root of a device. -/
structure DeviceTree where
  qdiscs : List Discipline
  /-- Each with the name of the discipline that it hangs at. -/
  filters : List (Handle × List String)
  deriving DecidableEq, Repr

/-- The names in use in a tree. -/
def DeviceTree.handles (t : DeviceTree) : List Handle := t.qdiscs.map (·.handle)

/-- A device: its tree where it has one, and the filters of its ingress hook
where it has that. -/
structure Device where
  root : Option DeviceTree
  ingress : Option (List (List String))
  deriving DecidableEq, Repr

/-- A device at which nothing hangs. -/
def Device.bare : Device := ⟨none, none⟩

/-- The device with one more filter, where there is something for the filter
to hang at. -/
def Device.addFilter? (dev : Device) (parent : Handle) (words : List String) : Option Device :=
  if parent = Command.ingressHandle then
    dev.ingress.map fun filters => { dev with ingress := some (filters ++ [words]) }
  else match dev.root with
    | some tree =>
      if parent ∈ tree.handles then
        some { dev with root := some { tree with filters := tree.filters ++ [(parent, words)] } }
      else none
    | none => none

/-- The devices there are, by name. -/
@[ext]
structure Platform where
  device? : String → Option Device

namespace Platform

/-- The platform with another device, or none, of this name. -/
def set (σ : Platform) (name : String) (dev : Option Device) : Platform :=
  ⟨Function.update σ.device? name dev⟩

variable {σ : Platform} {name other : String} {dev : Option Device}

@[simp] theorem set_same (σ : Platform) (name : String) (dev : Option Device) :
    (σ.set name dev).device? name = dev :=
  Function.update_self ..

theorem set_of_ne (h : other ≠ name) : (σ.set name dev).device? other = σ.device? other :=
  Function.update_of_ne h ..

/-- What stands under a name once one device is set. -/
theorem set_device? (other : String) :
    (σ.set name dev).device? other = if other = name then dev else σ.device? other :=
  Function.update_apply ..

/-- Replacing a device by itself changes nothing. -/
theorem set_eq_self (h : σ.device? name = dev) : σ.set name dev = σ := by
  rw [← h]
  exact Platform.ext (Function.update_eq_self ..)

@[simp] theorem set_set (dev' : Option Device) :
    (σ.set name dev).set name dev' = σ.set name dev' :=
  Platform.ext (Function.update_idem ..)

end Platform

-- ============================================================ actions

/-- What can be done to a device. -/
inductive Act where
  | deleteRoot
  | deleteIngress
  | deleteLink
  | addLink
  | bringUp
  | addIngress
  | addRoot (handle : Handle) (words : List String)
  | addChild (parent handle : Handle) (words : List String)
  | addFilter (parent : Handle) (words : List String)
  deriving DecidableEq, Repr

namespace Act

/-- What becomes of a device, or of its absence, under an action; nothing when
the action is not possible. A child needs its parent's discipline and a name
that is not in use. -/
def on : Act → Option Device → Option (Option Device)
  | deleteRoot, some ⟨some _, ingress⟩ => some (some ⟨none, ingress⟩)
  | deleteIngress, some ⟨root, some _⟩ => some (some ⟨root, none⟩)
  | deleteLink, some _ => some none
  | addLink, none => some (some .bare)
  | bringUp, some dev => some (some dev)
  | addIngress, some ⟨root, none⟩ => some (some ⟨root, some []⟩)
  | addRoot handle words, some ⟨none, ingress⟩ =>
    some (some ⟨some ⟨[⟨handle, .root, words⟩], []⟩, ingress⟩)
  | addChild parent handle words, some ⟨some tree, ingress⟩ =>
    if Handle.qdisc parent.major ∈ tree.handles ∧ handle ∉ tree.handles then
      some (some ⟨some { tree with
        qdiscs := tree.qdiscs ++ [⟨handle, .handle parent, words⟩] }, ingress⟩)
    else none
  | addFilter parent words, some dev => (dev.addFilter? parent words).map some
  | _, _ => none

/-- Whether an action makes or removes the device itself. -/
def isLink : Act → Bool
  | deleteLink => true
  | addLink => true
  | _ => false

/-- All other actions leave a device where there was one, and none where there
was none. -/
theorem isSome_on {a : Act} (ha : a.isLink = false) {before after : Option Device}
    (h : a.on before = some after) : after.isSome = before.isSome := by
  unfold on at h
  split at h
  case h_3 => cases ha
  case h_4 => cases ha
  case h_8 =>
    split at h
    · cases h
      rfl
    · cases h
  case h_9 =>
    obtain ⟨dev, -, rfl⟩ := Option.map_eq_some_iff.1 h
    rfl
  case h_10 => cases h
  all_goals
    cases h
    rfl

end Act

-- ========================================================= operations

/-- An action on a device of this name. -/
structure Operation where
  device : String
  act : Act
  deriving DecidableEq, Repr

namespace Operation

/-- What a command of the traffic control tool does, but for those that only
show something. -/
def ofTc? : List String → Option Operation
  | ["qdisc", "del", "dev", device, "root"] => some ⟨device, .deleteRoot⟩
  | ["qdisc", "del", "dev", device, "ingress"] => some ⟨device, .deleteIngress⟩
  | ["qdisc", "add", "dev", device, "ingress"] => some ⟨device, .addIngress⟩
  | "qdisc" :: "add" :: "dev" :: device :: "root" :: "handle" :: handle :: words => do
    return ⟨device, .addRoot (← Handle.read? handle) words⟩
  | "qdisc" :: "add" :: "dev" :: device :: "parent" :: parent :: "handle" :: handle :: words => do
    return ⟨device, .addChild (← Handle.read? parent) (← Handle.read? handle) words⟩
  | "filter" :: "add" :: "dev" :: device :: "parent" :: parent :: words => do
    return ⟨device, .addFilter (← Handle.read? parent) words⟩
  | _ => none

/-- What a command of the link tool does. -/
def ofIp? : List String → Option Operation
  | ["link", "del", device] => some ⟨device, .deleteLink⟩
  | ["link", "add", device, "type", "ifb"] => some ⟨device, .addLink⟩
  | ["link", "set", "dev", device, "up"] => some ⟨device, .bringUp⟩
  | _ => none

/-- What a command does; nothing for a query. -/
def read? (c : Command) : Option Operation :=
  match c.program with
  | .tc => ofTc? c.args
  | .ip => ofIp? c.args
  | .ethtool => none

end Operation

namespace Platform

/-- The platform after an operation, where that is possible. -/
def perform? (σ : Platform) (op : Operation) : Option Platform :=
  (op.act.on (σ.device? op.device)).map (σ.set op.device)

/-- Whether a command can succeed. Queries always can. -/
def Permits (σ : Platform) (c : Command) : Prop :=
  ∀ op, Operation.read? c = some op → (σ.perform? op).isSome

/-- The platform after a command. Queries and commands that are not possible
leave it as it is. -/
def after (σ : Platform) (c : Command) : Platform :=
  match Operation.read? c with
  | some op => (σ.perform? op).getD σ
  | none => σ

/-- The platform after commands, one by one. -/
def afterAll (σ : Platform) (commands : List Command) : Platform := commands.foldl after σ

variable {σ : Platform} {c : Command} {op : Operation}

@[simp] theorem afterAll_nil : σ.afterAll [] = σ := rfl

@[simp] theorem afterAll_cons (commands : List Command) :
    σ.afterAll (c :: commands) = (σ.after c).afterAll commands := rfl

@[simp] theorem afterAll_append (before after : List Command) :
    σ.afterAll (before ++ after) = (σ.afterAll before).afterAll after :=
  List.foldl_append ..

/-- Queries change nothing. -/
theorem after_query (h : Operation.read? c = none) : σ.after c = σ := by
  unfold after
  rw [h]

/-- Queries leave a platform as it is. -/
theorem afterAll_queries {commands : List Command}
    (h : ∀ c ∈ commands, Operation.read? c = none) : σ.afterAll commands = σ := by
  induction commands with
  | nil => rfl
  | cons c commands ih =>
      rw [afterAll_cons, after_query (h c (List.mem_cons_self ..))]
      exact ih fun d hd => h d (List.mem_cons_of_mem _ hd)

/-- A command that acts is permitted where its act goes through at its
device. -/
theorem permits_iff (h : Operation.read? c = some op) :
    σ.Permits c ↔ (op.act.on (σ.device? op.device)).isSome := by
  simp [Permits, h, perform?]

/-- A command makes of its device what its action says where that is possible,
and changes nothing else. -/
theorem after_eq_set (h : Operation.read? c = some op) :
    σ.after c
      = σ.set op.device ((op.act.on (σ.device? op.device)).getD (σ.device? op.device)) := by
  unfold after perform?
  rw [h]
  cases hon : op.act.on (σ.device? op.device) with
  | none => simp [hon, set_eq_self]
  | some dev => simp [hon]

/-- Unless it makes or removes devices, a command leaves the same ones
there. -/
theorem isSome_after (h : Operation.read? c = some op) (hlink : op.act.isLink = false)
    (name : String) : ((σ.after c).device? name).isSome = (σ.device? name).isSome := by
  rw [after_eq_set h]
  by_cases hname : name = op.device
  · subst hname
    rw [set_same]
    cases hon : op.act.on (σ.device? op.device) with
    | none => rfl
    | some dev => exact Act.isSome_on hlink hon
  · rw [set_of_ne hname]

end Platform

-- =============================================== reading what is issued

/-- The words of a discipline after its handle. -/
def Qdisc.words (q : Qdisc) : List String := q.kind.word :: q.params

/-- What installing a discipline does. -/
def Qdisc.act (q : Qdisc) : Act :=
  match q.parent with
  | .root => .addRoot q.handle q.words
  | .handle h => .addChild h q.handle q.words

/-- The words of a filter after its parent. -/
def Filter.words (f : Filter) : List String :=
  ["protocol", "ip", "prio", f.priority.toNat.repr, "u32"] ++ f.terms.flatMap Draft.termWords
    ++ ["flowid", f.flow.render]

/-- The words of the filter that feeds the mirror device, after its parent. -/
def feedWords (mirror : String) : List String :=
  ["protocol", "ip", "u32", "match", "u32", "0", "0", "action", "mirred", "egress", "redirect",
    "dev", mirror]

namespace Operation

variable (device mirror : String)

theorem read?_deleteRoot : read? (Command.deleteRoot device) = some ⟨device, .deleteRoot⟩ := rfl

theorem read?_deleteIngress :
    read? (Command.deleteIngress device) = some ⟨device, .deleteIngress⟩ := rfl

theorem read?_deleteLink : read? (Command.deleteLink device) = some ⟨device, .deleteLink⟩ := rfl

theorem read?_addMirror : read? (Command.addMirror device) = some ⟨device, .addLink⟩ := rfl

theorem read?_bringUp : read? (Command.bringUp device) = some ⟨device, .bringUp⟩ := rfl

theorem read?_addIngress : read? (Command.addIngress device) = some ⟨device, .addIngress⟩ := rfl

theorem read?_feedMirror : read? (Command.feedMirror device mirror)
    = some ⟨device, .addFilter Command.ingressHandle (feedWords mirror)⟩ := rfl

theorem read?_showOn : read? (Command.showOn device) = none := rfl

theorem read?_askFeatures : read? (Command.askFeatures device) = none := rfl

/-- A discipline's command installs it. -/
theorem read?_installQdisc (q : Qdisc) :
    read? (Command.installQdisc q) = some ⟨q.device, q.act⟩ := by
  obtain ⟨device, parent, handle, kind, params⟩ := q
  cases parent with
  | root =>
      show (Handle.read? handle.render >>= fun h => _) = _
      rw [Handle.read?_render]
      rfl
  | handle h =>
      show (Handle.read? h.render >>= fun h => _) = _
      rw [Handle.read?_render]
      show (Handle.read? handle.render >>= fun h => _) = _
      rw [Handle.read?_render]
      rfl

/-- A filter's command installs it. -/
theorem read?_installFilter (f : Filter) :
    read? (Command.installFilter f) = some ⟨f.device, .addFilter f.parent f.words⟩ := by
  obtain ⟨device, parent, priority, terms, flow⟩ := f
  show (Handle.read? parent.render >>= fun h => _) = _
  rw [Handle.read?_render]
  rfl

end Operation

end TrafficShaping
