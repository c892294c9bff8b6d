/-
Which commands change a platform, told from their words alone.

Traffic control changes something when it adds or deletes a discipline or a
filter, and the link tool when it adds, deletes or sets a device. Everything
else that is issued only asks: for offload features, for what is installed, or
for what passed through it.
-/
import TrafficShaping.Proofs.Command.Words

namespace TrafficShaping

namespace Command

/-- Whether a command changes the platform. Options come before the object and
are passed over. -/
def changesPlatform (c : Command) : Bool :=
  match c.program, c.args.dropWhile (·.toList.head? == some '-') with
  | .tc, object :: operation :: _ =>
    ["qdisc", "filter"].contains object && ["add", "del"].contains operation
  | .ip, object :: operation :: _ =>
    object == "link" && ["add", "del", "set"].contains operation
  | _, _ => false

/-- The queries of what is installed, with what passed through it. -/
inductive Shows : Command → Prop where
  | qdiscs (device : String) : Shows (tc ["-s", "qdisc", "show", "dev", device])
  | filters (device : String) (parent : Handle) :
    Shows (tc ["-s", "filter", "show", "dev", device, "parent", parent.render])

variable {c : Command}

theorem changesPlatform_askFeatures (interface : String) :
    (askFeatures interface).changesPlatform = false := rfl

/-- Showing what is there changes nothing. -/
theorem Shows.changesPlatform_eq_false (h : c.Shows) : c.changesPlatform = false := by
  cases h <;> rfl

end Command

end TrafficShaping
