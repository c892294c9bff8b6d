/-
Runners that answer as a platform does, and what comes of tasks under them.

A platform lets a command succeed exactly where it is possible, and has known
words for what it says to deletions of what is not there and to the creation
of what is there already; a query may be answered in any way, or not at all.
The purposes forgive those very words. So whether tasks get through depends
on the platform alone: every change among them has to be possible when its
turn comes (`Platform.Carries`), and the platform that is left is the same
under every runner that answers for it.
-/
import TrafficShaping.Proofs.Platform.Devices
import TrafficShaping.Proofs.Session.Tasks

namespace TrafficShaping

-- ============================================================ answers

namespace Act

/-- What may be said to an action that is not possible. Where there are no
known words, anything may be. -/
def Complains : Act → String → Prop
  | deleteRoot, text =>
    ∃ phrase ∈ ["Cannot find", "handle of zero", "Invalid handle"], phrase.toList <:+: text.toList
  | deleteIngress, text =>
    ∃ phrase ∈ ["Cannot find", "handle of zero", "Invalid handle"], phrase.toList <:+: text.toList
  | deleteLink, text => "Cannot find device".toList <:+: text.toList
  | addLink, text => "File exists".toList <:+: text.toList
  | _, _ => True

/-- Something that may be said to it. -/
def complaint : Act → String
  | deleteRoot => "handle of zero"
  | deleteIngress => "Invalid handle"
  | deleteLink => "Cannot find device"
  | _ => "File exists"

/-- For each act there is a complaint that counts as one about it. -/
theorem complains_complaint (a : Act) : a.Complains a.complaint := by
  cases a with
  | deleteRoot => exact ⟨"handle of zero", by simp, List.infix_rfl⟩
  | deleteIngress => exact ⟨"Invalid handle", by simp, List.infix_rfl⟩
  | deleteLink => exact List.infix_rfl
  | addLink => exact List.infix_rfl
  | _ => trivial

end Act

namespace Platform

/-- What a platform may answer to a command. -/
def Allows (σ : Platform) (c : Command) (result : Except Fault CommandOutput) : Prop :=
  ∀ op, Operation.read? c = some op → ∃ output, result = .ok output
    ∧ (output.success = true ↔ (σ.perform? op).isSome)
    ∧ (output.success = false → op.act.Complains output.stderr)

/-- A runner answers every command as the platform may that the commands
before it leave. -/
def Answers (σ : Platform) (runner : Runner) : Prop :=
  ∀ seen c, (σ.afterAll seen).Allows c (runner seen c)

/-- A runner of a platform: one that has nothing to say but to what is not
possible. -/
def runner (σ : Platform) : Runner := fun seen c =>
  match Operation.read? c with
  | some op =>
    if ((σ.afterAll seen).perform? op).isSome then .ok (CommandOutput.ok "")
    else .ok (CommandOutput.failed op.act.complaint)
  | none => .ok (CommandOutput.ok "")

/-- Every platform has a runner that answers for it. -/
theorem answers_runner (σ : Platform) : σ.Answers σ.runner := by
  intro seen c op hop
  unfold runner
  rw [hop]
  by_cases hpossible : ((σ.afterAll seen).perform? op).isSome
  · refine ⟨CommandOutput.ok "", by simp [hpossible], by simp [CommandOutput.ok, hpossible], ?_⟩
    exact fun h => nomatch h
  · refine ⟨CommandOutput.failed op.act.complaint, by simp [hpossible],
      by simp [CommandOutput.failed, hpossible], ?_⟩
    exact fun _ => Act.complains_complaint op.act

end Platform

-- ======================================================== forgiveness

/-- The actions that a purpose may see fail. -/
inductive Purpose.Forgives : Purpose → Act → Prop where
  | deleteRoot : Forgives .deletion .deleteRoot
  | deleteIngress : Forgives .deletion .deleteIngress
  | deleteLink : Forgives .deletion .deleteLink
  | addLink : Forgives .creation .addLink

/-- Each of the words for an absent discipline or hook is harmless to a
deletion. -/
theorem Purpose.mentions_of_absent {text phrase : String}
    (hphrase : phrase ∈ ["Cannot find", "handle of zero", "Invalid handle"])
    (h : phrase.toList <:+: text.toList) :
    ∃ phrase ∈ Purpose.deletion.harmless, Text.Mentions phrase.toList text.toList := by
  simp only [List.mem_cons, List.not_mem_nil, or_false] at hphrase
  rcases hphrase with rfl | rfl | rfl
  · exact ⟨"cannot find", by decide, Text.mentions_of_isInfix (by decide) (by decide) h⟩
  · exact ⟨"handle of zero", by decide, Text.mentions_of_isInfix (by decide) (by decide) h⟩
  · exact ⟨"invalid handle", by decide, Text.mentions_of_isInfix (by decide) (by decide) h⟩

/-- Success is tolerated of whatever may fail. -/
theorem Purpose.Forgives.tolerates_success {p : Purpose} {a : Act} (h : p.Forgives a)
    {output : CommandOutput} (hsuccess : output.success = true) : p.Tolerates (.ok output) := by
  cases h <;> exact Or.inl hsuccess

/-- So is what it is refused with. -/
theorem Purpose.Forgives.tolerates_refusal {p : Purpose} {a : Act} (h : p.Forgives a)
    {output : CommandOutput} (hsaid : a.Complains output.stderr) : p.Tolerates (.ok output) := by
  cases h with
  | deleteRoot =>
      obtain ⟨phrase, hphrase, hinfix⟩ := hsaid
      exact Or.inr (Purpose.mentions_of_absent hphrase hinfix)
  | deleteIngress =>
      obtain ⟨phrase, hphrase, hinfix⟩ := hsaid
      exact Or.inr (Purpose.mentions_of_absent hphrase hinfix)
  | deleteLink =>
      have hfind : "Cannot find".toList <:+: "Cannot find device".toList := by decide
      exact Or.inr (Purpose.mentions_of_absent (by simp) (hfind.trans hsaid))
  | addLink =>
      exact Or.inr ⟨"file exists", by decide,
        Text.mentions_of_isInfix (by decide) (by decide) hsaid⟩

/-- A task fits a platform: its command changes something there, and it is run
for the sake of that, or its purpose forgives the refusal. -/
def Task.Fits (k : Task) : Prop :=
  ∃ op, Operation.read? k.command = some op ∧ (k.purpose = .change ∨ k.purpose.Forgives op.act)

namespace Platform

variable {σ : Platform} {k : Task}

/-- A result of a fitting task is tolerated unless it is that of a change that
is not possible. -/
theorem tolerates_iff (hfits : k.Fits) {result : Except Fault CommandOutput}
    (hallows : σ.Allows k.command result) :
    k.purpose.Tolerates result ↔ (k.purpose = .change → σ.Permits k.command) := by
  obtain ⟨command, purpose⟩ := k
  obtain ⟨op, hop, hpurpose⟩ := hfits
  obtain ⟨output, rfl, hsuccess, hsaid⟩ := hallows op hop
  have hpermits : σ.Permits command ↔ output.success = true := by
    rw [hsuccess]
    exact ⟨fun h => h op hop, fun h op' hop' => Option.some.inj (hop.symm.trans hop') ▸ h⟩
  rcases hpurpose with rfl | hforgives
  · rw [hpermits]
    simp [Purpose.Tolerates, Purpose.harmless]
  · have hne : purpose ≠ .change := by
      rintro rfl
      exact nomatch hforgives
    have htolerated : purpose.Tolerates (.ok output) := by
      cases houtput : output.success with
      | false => exact hforgives.tolerates_refusal (hsaid houtput)
      | true => exact hforgives.tolerates_success houtput
    simp [hne, htolerated]

-- =========================================================== carrying

/-- A platform carries tasks through: every change among them is possible when
its turn comes. -/
def Carries (σ : Platform) : List Task → Prop
  | [] => True
  | k :: ks => (k.purpose = .change → σ.Permits k.command) ∧ (σ.after k.command).Carries ks

@[simp] theorem carries_nil : σ.Carries [] := trivial

/-- A schedule is carried out where its first part is, and from there on its
second. -/
theorem carries_append {ks ls : List Task} :
    σ.Carries (ks ++ ls) ↔ σ.Carries ks ∧ (σ.afterAll (ks.map Task.command)).Carries ls := by
  induction ks generalizing σ with
  | nil => simp
  | cons k ks ih =>
      simp only [List.cons_append, Carries, List.map_cons, afterAll_cons, ih, and_assoc]

/-- A platform carries tasks through and is then that other platform. -/
def Brings (σ : Platform) (ks : List Task) (τ : Platform) : Prop :=
  σ.Carries ks ∧ σ.afterAll (ks.map Task.command) = τ

theorem brings_nil (σ : Platform) : σ.Brings [] σ := ⟨trivial, rfl⟩

/-- What one schedule leaves, the next one goes on from. -/
theorem Brings.seq {τ υ : Platform} {ks ls : List Task} (h : σ.Brings ks τ)
    (h' : τ.Brings ls υ) : σ.Brings (ks ++ ls) υ := by
  obtain ⟨hcarries, rfl⟩ := h
  obtain ⟨hcarries', rfl⟩ := h'
  exact ⟨carries_append.2 ⟨hcarries, hcarries'⟩, by simp⟩

/-- A possible command makes of its device what its action says, whatever it
is run for. -/
theorem brings_of_on {name : String} {a : Act} {dev : Option Device}
    (h : Operation.read? k.command = some ⟨name, a⟩) (hon : a.on (σ.device? name) = some dev) :
    σ.Brings [k] (σ.set name dev) := by
  refine ⟨⟨fun _ => ?_, trivial⟩, ?_⟩
  · rw [permits_iff h, hon]
    rfl
  · rw [List.map_singleton, afterAll_cons, afterAll_nil, after_eq_set h, hon]
    rfl

variable {runner : Runner} {t : Transcript} {ks : List Task}

/-- Tasks that the platform carries through are all handed over. -/
theorem march_of_carries (hanswers : σ.Answers runner) (hfits : ∀ k ∈ ks, k.Fits)
    (h : (σ.afterAll t.commands).Carries ks) :
    ∃ ws, march runner t ks
      = (.ok (), ⟨t.commands ++ ks.map Task.command, t.warnings ++ ws⟩) := by
  induction ks generalizing t with
  | nil => exact ⟨[], by simp⟩
  | cons k ks ih =>
      obtain ⟨hhead, htail⟩ := h
      have htolerated : k.purpose.Tolerates (runner t.commands k.command) :=
        (tolerates_iff (hfits k (List.mem_cons_self ..)) (hanswers _ _)).2 hhead
      obtain ⟨ws, hrest⟩ := ih (t := (t.issue k.command).warn
        (k.purpose.warnings (runner t.commands k.command)))
        (fun l hl => hfits l (List.mem_cons_of_mem _ hl)) (by simpa using htail)
      refine ⟨k.purpose.warnings (runner t.commands k.command) ++ ws, ?_⟩
      simp only [march]
      rw [if_pos htolerated, hrest]
      simp

/-- Tasks that it does not carry through end in a fault. -/
theorem march_of_not_carries (hanswers : σ.Answers runner) (hfits : ∀ k ∈ ks, k.Fits)
    (h : ¬ (σ.afterAll t.commands).Carries ks) :
    ∃ fault t', march runner t ks = (.error fault, t') := by
  induction ks generalizing t with
  | nil => exact absurd trivial h
  | cons k ks ih =>
      have htolerated := tolerates_iff (hfits k (List.mem_cons_self ..))
        (hanswers t.commands k.command)
      simp only [march]
      split
      case isTrue hpassed =>
          refine ih (fun l hl => hfits l (List.mem_cons_of_mem _ hl)) fun htail => ?_
          exact h ⟨htolerated.1 hpassed, by simpa using htail⟩
      case isFalse => exact ⟨_, _, rfl⟩

end Platform

end TrafficShaping
