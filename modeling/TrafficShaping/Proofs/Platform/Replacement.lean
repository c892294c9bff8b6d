/-
Clearing and installing as a platform sees them, whatever was there.

Clearing leaves the interface bare and no mirror device. From there every
change that installing makes is possible, provided that the interface is
there and is not its own mirror: in the first case nothing can take the
ingress hook, in the second the device holds the outbound tree by the time
the inbound one is to go in. What comes of it depends on the platform only
as far as neither device is concerned.
-/
import TrafficShaping.Proofs.Platform.Trees

namespace TrafficShaping

open Shaper (changes)

namespace Platform

variable {σ : Platform} {p : ShapingPolicy}

-- ============================================================ clearing

/-- The platform with a bare interface, where there is one, and without the
mirror device. -/
def cleared (σ : Platform) (p : ShapingPolicy) : Platform :=
  (σ.set p.interface ((σ.device? p.interface).map fun _ => Device.bare)).set p.mirrorDevice none

/-- Deleting the root leaves a device without one, whether it had one or not. -/
theorem after_deleteRoot (name : String) :
    σ.after (Command.deleteRoot name)
      = σ.set name ((σ.device? name).map fun dev => { dev with root := none }) := by
  rw [after_eq_set (Operation.read?_deleteRoot name)]
  rcases σ.device? name with _ | ⟨_ | tree, ingress⟩ <;> rfl

theorem after_deleteIngress (name : String) :
    σ.after (Command.deleteIngress name)
      = σ.set name ((σ.device? name).map fun dev => { dev with ingress := none }) := by
  rw [after_eq_set (Operation.read?_deleteIngress name)]
  rcases σ.device? name with _ | ⟨root, _ | filters⟩ <;> rfl

theorem after_deleteLink (name : String) :
    σ.after (Command.deleteLink name) = σ.set name none := by
  rw [after_eq_set (Operation.read?_deleteLink name)]
  rcases σ.device? name with _ | dev <;> rfl

/-- Clearing gets through on every platform. -/
theorem brings_clear (σ : Platform) (p : ShapingPolicy) :
    σ.Brings (Shaper.clearTasks p) (σ.cleared p) := by
  constructor
  · simp [Shaper.clearTasks, Carries]
  · have hrest (τ : Platform) : τ.afterAll ((Shaper.clearTasks p).map Task.command)
        = (((τ.after (Command.deleteRoot p.interface)).after
            (Command.deleteRoot p.mirrorDevice)).after (Command.deleteIngress p.interface)).after
            (Command.deleteLink p.mirrorDevice) := rfl
    rw [hrest, after_deleteLink, after_deleteIngress, after_deleteRoot, after_deleteRoot]
    refine Platform.ext (funext fun name => ?_)
    by_cases hm : name = p.mirrorDevice
    · subst hm
      simp [cleared]
    · by_cases hi : name = p.interface
      · subst hi
        cases hdev : σ.device? p.interface <;> simp [cleared, set_device?, hm, hdev, Device.bare]
      · simp [cleared, set_device?, hm, hi]

/-- Where there is nothing to clear, nothing changes. -/
theorem cleared_eq_self (hmirror : σ.device? p.mirrorDevice = none)
    (hinterface : ∀ dev, σ.device? p.interface = some dev → dev = .bare) : σ.cleared p = σ := by
  have hbare : ((σ.device? p.interface).map fun _ => Device.bare) = σ.device? p.interface := by
    cases hdev : σ.device? p.interface with
    | none => rfl
    | some dev => rw [Option.map_some, hinterface dev hdev]
  unfold cleared
  rw [hbare, set_eq_self rfl, set_eq_self hmirror]

-- ========================================================= redirecting

/-- The mirror device is created and brought up. -/
theorem brings_mirror {mirror : String} (hmirror : σ.device? mirror = none) :
    σ.Brings [⟨Command.addMirror mirror, .creation⟩, ⟨Command.bringUp mirror, .change⟩]
      (σ.set mirror (some .bare)) := by
  have hcreate : Act.addLink.on (σ.device? mirror) = some (some .bare) := by
    rw [hmirror]
    rfl
  have hup : Act.bringUp.on ((σ.set mirror (some .bare)).device? mirror) = some (some .bare) := by
    rw [set_same]
    rfl
  have hboth : Brings σ [⟨Command.addMirror mirror, .creation⟩,
      ⟨Command.bringUp mirror, .change⟩] _ :=
    (brings_of_on (Operation.read?_addMirror mirror) hcreate).seq
      (brings_of_on (Operation.read?_bringUp mirror) hup)
  rwa [set_set] at hboth

/-- A bare interface takes the hook and the filter that feeds the mirror
device. -/
theorem brings_feed {interface mirror : String}
    (hinterface : σ.device? interface = some .bare) :
    σ.Brings (changes [Command.addIngress interface, Command.feedMirror interface mirror])
      (σ.set interface (some ⟨none, some [feedWords mirror]⟩)) := by
  have hhook : Act.addIngress.on (σ.device? interface) = some (some ⟨none, some []⟩) := by
    rw [hinterface]
    rfl
  have hfeed : (Act.addFilter Command.ingressHandle (feedWords mirror)).on
      ((σ.set interface (some ⟨none, some []⟩)).device? interface)
        = some (some ⟨none, some [feedWords mirror]⟩) := by
    rw [set_same]
    rfl
  have hboth : Brings σ
      (changes [Command.addIngress interface, Command.feedMirror interface mirror]) _ :=
    (brings_of_on (Operation.read?_addIngress interface) hhook).seq
      (brings_of_on (Operation.read?_feedMirror interface mirror) hfeed)
  rwa [set_set] at hboth

/-- Without an interface there is nothing to hook into. -/
theorem not_carries_feed {interface mirror : String} (hinterface : σ.device? interface = none) :
    ¬ σ.Carries (changes [Command.addIngress interface, Command.feedMirror interface mirror]) := by
  intro hcarries
  have hpermits := hcarries.1 rfl
  rw [permits_iff (Operation.read?_addIngress interface), hinterface] at hpermits
  cases hpermits

-- ========================================================== installing

/-- The platform with everything in place that installing a policy puts
there. -/
def shaped (σ : Platform) (s : Shaper) : Platform :=
  (σ.set s.policy.interface
      (some ⟨some s.plan.outbound.tree, some [feedWords s.policy.mirrorDevice]⟩)).set
    s.policy.mirrorDevice (some ⟨some s.plan.inbound.tree, none⟩)

end Platform

namespace Shaper

/-- What installing has to get through once the offload features are no
obstacle. -/
def replacement (s : Shaper) : List Task :=
  clearTasks s.policy ++ (redirectTasks s.policy ++ changes s.ruleCommands)

theorem schedule_eq (s : Shaper) : s.schedule = s.inquiryTasks ++ s.replacement := rfl

/-- The rules of the outbound direction are such as a bare interface takes. -/
theorem outbound_installable (s : Shaper) : s.plan.outbound.Installable s.policy.interface :=
  compile_installable s.policy s.config .outbound

/-- Those of the inbound direction are such as a bare mirror takes. -/
theorem inbound_installable (s : Shaper) : s.plan.inbound.Installable s.policy.mirrorDevice :=
  compile_installable s.policy s.config .inbound

/-- The part that leaves the interface cleared and the mirror device up. -/
def preparation (p : ShapingPolicy) : List Task :=
  clearTasks p ++ [⟨Command.addMirror p.mirrorDevice, .creation⟩,
    ⟨Command.bringUp p.mirrorDevice, .change⟩]

/-- The replacement, part by part. -/
theorem replacement_eq (s : Shaper) :
    s.replacement = preparation s.policy
      ++ (changes [Command.addIngress s.policy.interface,
            Command.feedMirror s.policy.interface s.policy.mirrorDevice]
        ++ (changes (Command.installRules s.plan.outbound)
          ++ changes (Command.installRules s.plan.inbound))) := by
  simp [replacement, preparation, redirectTasks, ruleCommands, changes]

end Shaper

namespace Platform

/-- The platform when both devices are ready for what is to be installed. -/
def prepared (σ : Platform) (p : ShapingPolicy) : Platform :=
  (σ.cleared p).set p.mirrorDevice (some .bare)

variable {σ : Platform} {s : Shaper}

/-- Clearing and redirecting brings any platform that has the interface to the
prepared one. -/
theorem brings_preparation (σ : Platform) (p : ShapingPolicy) :
    σ.Brings (Shaper.preparation p) (σ.prepared p) :=
  (brings_clear σ p).seq (brings_mirror (set_same _ p.mirrorDevice none))

/-- The interface is bare by then, unless it is missing; one that is its own
mirror has just been created. -/
theorem interface_prepared (σ : Platform) (p : ShapingPolicy) :
    (σ.prepared p).device? p.interface
      = if p.interface = p.mirrorDevice then some .bare
        else (σ.device? p.interface).map fun _ => Device.bare := by
  simp only [prepared, cleared, set_device?]
  split <;> simp

/-- Where it is bare, redirecting and the outbound rules go through. -/
theorem brings_outbound {τ : Platform} (hbare : τ.device? s.policy.interface = some .bare) :
    τ.Brings (changes [Command.addIngress s.policy.interface,
          Command.feedMirror s.policy.interface s.policy.mirrorDevice]
        ++ changes (Command.installRules s.plan.outbound))
      (τ.set s.policy.interface
        (some ⟨some s.plan.outbound.tree, some [feedWords s.policy.mirrorDevice]⟩)) := by
  have hrules := brings_rules s.outbound_installable
    (set_same τ s.policy.interface (some ⟨none, some [feedWords s.policy.mirrorDevice]⟩))
  have hboth := (brings_feed hbare).seq hrules
  rwa [set_set] at hboth

/-- Both trees on top of what was prepared make up the shaped platform. -/
theorem shaped_eq (hne : s.policy.interface ≠ s.policy.mirrorDevice) :
    ((σ.prepared s.policy).set s.policy.interface
        (some ⟨some s.plan.outbound.tree, some [feedWords s.policy.mirrorDevice]⟩)).set
      s.policy.mirrorDevice (some ⟨some s.plan.inbound.tree, none⟩) = σ.shaped s := by
  refine Platform.ext (funext fun name => ?_)
  by_cases hm : name = s.policy.mirrorDevice
  · subst hm
    simp [shaped]
  · by_cases hi : name = s.policy.interface
    · subst hi
      simp [shaped, set_device?, hne]
    · simp [shaped, prepared, cleared, set_device?, hm, hi]

/-- Installing gets through where the interface is there and is not its own
mirror, and leaves everything in place. -/
theorem brings_replacement (hinterface : (σ.device? s.policy.interface).isSome)
    (hne : s.policy.interface ≠ s.policy.mirrorDevice) : σ.Brings s.replacement (σ.shaped s) := by
  obtain ⟨dev, hdev⟩ := Option.isSome_iff_exists.1 hinterface
  have hbare := interface_prepared σ s.policy
  rw [if_neg hne, hdev, Option.map_some] at hbare
  have hready : ((σ.prepared s.policy).set s.policy.interface
      (some ⟨some s.plan.outbound.tree, some [feedWords s.policy.mirrorDevice]⟩)).device?
        s.policy.mirrorDevice = some ⟨none, none⟩ := by
    rw [set_of_ne hne.symm]
    exact set_same ..
  have hinbound := brings_rules s.inbound_installable hready
  have hall := (brings_preparation σ s.policy).seq ((brings_outbound hbare).seq hinbound)
  rw [Shaper.replacement_eq, ← List.append_assoc (changes _), ← shaped_eq hne]
  exact hall

/-- Otherwise it does not get through. -/
theorem not_carries_replacement
    (h : ¬ ((σ.device? s.policy.interface).isSome
      ∧ s.policy.interface ≠ s.policy.mirrorDevice)) : ¬ σ.Carries s.replacement := by
  rw [Shaper.replacement_eq, carries_append, (brings_preparation σ s.policy).2]
  rintro ⟨-, hcarries⟩
  have hprepared := interface_prepared σ s.policy
  by_cases hsame : s.policy.interface = s.policy.mirrorDevice
  · -- the outbound tree is on the very device that the inbound one needs
    rw [if_pos hsame] at hprepared
    rw [← List.append_assoc, carries_append, (brings_outbound hprepared).2] at hcarries
    have hinstallable := s.inbound_installable
    rw [← hsame] at hinstallable
    exact not_carries_rules hinstallable (set_same ..) hcarries.2
  · -- the interface was not there to begin with
    have hmissing : σ.device? s.policy.interface = none :=
      Option.not_isSome_iff_eq_none.1 fun hsome => h ⟨hsome, hsame⟩
    rw [if_neg hsame, hmissing] at hprepared
    exact not_carries_feed hprepared (carries_append.1 hcarries).1

end Platform

end TrafficShaping
