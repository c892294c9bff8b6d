/-
Command lines written and read back (`written_invocation_is_read`).

An argument that brings its value along is about one subject: the action, a
switch or a parameter. What a list of them says about a subject is what its
argument about that subject says, and what an invocation is, field by field,
is what is said about its subjects. So matching has one invariant: after each
argument, what is settled is the invocation in which everything is as it was
said so far (`Reads`). It is kept as long as a subject is new and its value is
of its kind, and anything else is refused (`take_word`, `take_word_refused`).

What a list says does not depend on its order as long as no subject comes
twice, so it makes no difference in which order an invocation is written.
-/
import Mathlib.Data.List.Find
import Mathlib.Data.List.Induction
import Mathlib.Data.List.Nodup
import Mathlib.Data.List.TakeWhile
import Mathlib.Logic.Function.Basic
import TrafficShaping.CommandLine.Matcher
import TrafficShaping.Proofs.Text.Numerals

namespace TrafficShaping

-- ==================================================== statement vocabulary

namespace CommandLine

namespace Switch

/-- All switches. -/
def all : List Switch := [verbose, reorder, dryRun, json, skipOffloadCheck]

/-- The name of a switch. -/
def name : Switch → String
  | verbose => "verbose"
  | reorder => "reorder"
  | dryRun => "dry-run"
  | json => "json"
  | skipOffloadCheck => "skip-offload-check"

end Switch

namespace Parameter

/-- All parameters. -/
def all : List Parameter :=
  [interface, mirrorDevice, bandwidth, impairment, source, destination, exclude, bufferSize,
   profile]

/-- The names of a parameter. -/
def spellings : Parameter → List String
  | interface => ["interface"]
  | mirrorDevice => ["ifb"]
  | bandwidth => ["bandwidth"]
  | impairment => ["impairment", "netem"]
  | source => ["from"]
  | destination => ["to"]
  | exclude => ["exclude"]
  | bufferSize => ["buffer-size"]
  | profile => ["profile"]

/-- A name of a parameter. -/
abbrev Spelling (p : Parameter) : Type := {name : String // name ∈ p.spellings}

end Parameter

/-- What an argument is about. -/
inductive Subject where
  | action
  | switch (s : Switch)
  | parameter (p : Parameter)
  deriving DecidableEq, Repr

/-- All subjects. -/
def Subject.all : List Subject :=
  .action :: Switch.all.map .switch ++ Parameter.all.map .parameter

/-- An argument that needs no other word. -/
inductive Argument where
  | action (a : Action)
  | switch (s : Switch)
  | parameter (p : Parameter) (name : p.Spelling) (value : String)
  deriving DecidableEq

namespace Argument

/-- How an argument is written. -/
def word : Argument → String
  | action a => a.render
  | switch s => "--" ++ s.name
  | parameter _ name value => "--" ++ name.val ++ "=" ++ value

/-- What an argument is about. -/
def subject : Argument → Subject
  | action _ => .action
  | switch s => .switch s
  | parameter p _ _ => .parameter p

/-- What an argument says about its subject. -/
def text : Argument → String
  | action a => a.render
  | switch _ => ""
  | parameter _ _ value => value

/-- A parameter that is a number of packets has one as its value. -/
def Fits : Argument → Prop
  | parameter .bufferSize _ value => (packets? value).isSome = true
  | _ => True

end Argument

/-- No subject comes twice, and values are of their kinds. -/
structure Sound (args : List Argument) : Prop where
  once : (args.map Argument.subject).Nodup
  fits : ∀ a ∈ args, a.Fits

/-- What arguments say about a subject. -/
def said? (args : List Argument) (subject : Subject) : Option String :=
  (args.find? fun a => a.subject == subject).map Argument.text

end CommandLine

namespace Invocation

open CommandLine

/-- The invocation in which everything is as it is said, and nothing else is
given. -/
def saying (said? : Subject → Option String) : Invocation where
  action := ((said? .action).bind Action.ofWord?).getD .status
  verbose := (said? (.switch .verbose)).isSome
  interface := said? (.parameter .interface)
  mirrorDevice := said? (.parameter .mirrorDevice)
  bandwidth := said? (.parameter .bandwidth)
  impairment := said? (.parameter .impairment)
  source := said? (.parameter .source)
  destination := said? (.parameter .destination)
  exclude := said? (.parameter .exclude)
  reorder := (said? (.switch .reorder)).isSome
  bufferSize := (said? (.parameter .bufferSize)).bind packets?
  profile := said? (.parameter .profile)
  dryRun := (said? (.switch .dryRun)).isSome
  json := (said? (.switch .json)).isSome
  skipOffloadCheck := (said? (.switch .skipOffloadCheck)).isSome

variable (i : Invocation)

/-- Whether a switch is on. -/
def isOn : Switch → Bool
  | .verbose => i.verbose
  | .reorder => i.reorder
  | .dryRun => i.dryRun
  | .json => i.json
  | .skipOffloadCheck => i.skipOffloadCheck

/-- The value of a parameter, as it is written. -/
def value? : Parameter → Option String
  | .interface => i.interface
  | .mirrorDevice => i.mirrorDevice
  | .bandwidth => i.bandwidth
  | .impairment => i.impairment
  | .source => i.source
  | .destination => i.destination
  | .exclude => i.exclude
  | .bufferSize => i.bufferSize.map fun n => n.toNat.repr
  | .profile => i.profile

/-- The argument about a subject, if one is needed. -/
def argument? (spelling : ∀ p : Parameter, p.Spelling) : Subject → Option Argument
  | .action => some (.action i.action)
  | .switch s => if i.isOn s then some (.switch s) else none
  | .parameter p => (i.value? p).map (.parameter p (spelling p))

/-- The arguments for an invocation. -/
def arguments (spelling : ∀ p : Parameter, p.Spelling) : List Argument :=
  Subject.all.filterMap (i.argument? spelling)

end Invocation

namespace CommandLine

-- ================================================================ names

variable {args args' : List Argument} {a : Argument} {subject : Subject}

/-- A switch is known by its name. -/
theorem ofLong?_switch (s : Switch) : ofLong? s.name.toList = some (.switch s) := by
  cases s <;> decide

/-- A parameter is known by each of its names. -/
theorem ofLong?_spelling {p : Parameter} :
    ∀ name ∈ p.spellings, ofLong? name.toList = some (.parameter p) := by
  cases p <;> decide

/-- Names hold no equals sign, so that they end where the value begins. -/
theorem Switch.ne_equals (s : Switch) : ∀ c ∈ s.name.toList, (c != '=') = true := by
  have hall : s.name.toList.all (· != '=') = true := by cases s <;> decide
  exact List.all_eq_true.1 hall

/-- No name has an equals sign, which sets off the value. -/
theorem Parameter.ne_equals {p : Parameter} :
    ∀ name ∈ p.spellings, ∀ c ∈ name.toList, (c != '=') = true := by
  have hall : ∀ name ∈ p.spellings, name.toList.all (· != '=') = true := by cases p <;> decide
  exact fun name hname => List.all_eq_true.1 (hall name hname)

-- ========================================================= what is said

theorem sound_nil : Sound [] := ⟨List.nodup_nil, fun _ h => nomatch h⟩

/-- Whether arguments are sound does not depend on their order. -/
theorem Sound.perm (h : Sound args) (hperm : args.Perm args') : Sound args' where
  once := (hperm.map Argument.subject).nodup h.once
  fits b hb := h.fits b (hperm.mem_iff.2 hb)

/-- One more argument has to be about a subject of its own. -/
theorem sound_append_iff :
    Sound (args ++ [a])
      ↔ Sound args ∧ a.subject ∉ args.map Argument.subject ∧ a.Fits := by
  have hperm : (a :: args).Perm (args ++ [a]) := (List.perm_append_singleton a args).symm
  constructor
  · intro h
    have hcons := h.perm hperm.symm
    obtain ⟨hnew, honce⟩ := List.nodup_cons.1 hcons.once
    obtain ⟨hfits, hrest⟩ := List.forall_mem_cons.1 hcons.fits
    exact ⟨⟨honce, hrest⟩, hnew, hfits⟩
  · intro h
    obtain ⟨hsound, hnew, hfits⟩ := h
    have hcons : Sound (a :: args) :=
      ⟨List.nodup_cons.2 ⟨hnew, hsound.once⟩, List.forall_mem_cons.2 ⟨hfits, hsound.fits⟩⟩
    exact hcons.perm hperm

/-- Nothing is said of a subject that no argument is of. -/
theorem said?_eq_none_iff :
    said? args subject = none ↔ subject ∉ args.map Argument.subject := by
  unfold said?
  rw [Option.map_eq_none_iff, List.find?_eq_none]
  simp

/-- One more argument says what it says about its own subject. -/
theorem said?_append (hnew : a.subject ∉ args.map Argument.subject) :
    said? (args ++ [a]) = Function.update (said? args) a.subject (some a.text) := by
  funext subject
  by_cases hsubject : subject = a.subject
  · subst hsubject
    have hnone : args.find? (fun b => b.subject == a.subject) = none :=
      Option.map_eq_none_iff.1 (said?_eq_none_iff.2 hnew)
    rw [Function.update_self]
    simp [said?, List.find?_append, hnone]
  · have hother : (a.subject == subject) = false := beq_false_of_ne (Ne.symm hsubject)
    rw [Function.update_of_ne hsubject]
    simp [said?, List.find?_append, hother]

/-- With no subject twice, the order is not part of what is said. -/
theorem said?_perm (honce : (args.map Argument.subject).Nodup) (hperm : args.Perm args') :
    said? args = said? args' := by
  funext subject
  unfold said?
  rw [List.find?_eq_find?_of_perm hperm]
  intro a ha b hb
  have hsubject : a.subject = b.subject := (beq_iff_eq.1 ha.2).trans (beq_iff_eq.1 hb.2).symm
  exact List.inj_on_of_nodup_map honce ha.1 hb.1 hsubject

-- ============================================================= effects

variable {t : Subject → Option String}

/-- Giving a switch is saying it, once. -/
theorem setSwitch_saying (w : Switch) :
    setSwitch (.saying t) w
      = once (t (.switch w)).isSome (.saying (Function.update t (.switch w) (some ""))) := by
  cases w <;> simp [setSwitch, Invocation.saying, Function.update]

/-- A number of packets that was said is one. -/
theorem Sound.packets_isSome (h : Sound args) {text : String}
    (hsaid : said? args (.parameter .bufferSize) = some text) :
    (packets? text).isSome = true := by
  obtain ⟨a, hfind, rfl⟩ := Option.map_eq_some_iff.1 hsaid
  have hfits := h.fits a (List.mem_of_find?_eq_some hfind)
  have hsubject : a.subject = .parameter .bufferSize := by simpa using List.find?_some hfind
  cases a with
  | action | switch => cases hsubject
  | parameter p name value =>
      cases hsubject
      exact hfits

/-- Giving a parameter is saying it, once, as long as what is said about numbers
of packets are such. -/
theorem setParameter_saying (h : Sound args) {p : Parameter} {name : p.Spelling} {value : String}
    (hfits : (Argument.parameter p name value).Fits) :
    setParameter (.saying (said? args)) p value
      = once (said? args (.parameter p)).isSome
          (.saying (Function.update (said? args) (.parameter p) (some value))) := by
  cases p with
  | bufferSize =>
      obtain ⟨n, hn⟩ := Option.isSome_iff_exists.1 hfits
      cases hsaid : said? args (.parameter .bufferSize) with
      | none => simp [setParameter, Invocation.saying, Function.update, once, hsaid, hn]
      | some text =>
          obtain ⟨m, hm⟩ := Option.isSome_iff_exists.1 (h.packets_isSome hsaid)
          simp [setParameter, Invocation.saying, once, hsaid, hm]
  | interface | mirrorDevice | bandwidth | impairment | source | destination | exclude | profile =>
      simp [setParameter, Invocation.saying, Function.update]

-- =============================================================== words

variable {s : Progress}

/-- A word with two dashes in front and something behind them is an option. -/
theorem take_dashes (hplain : s.plain = false) {word : String} {long : List Char}
    (hlong : long ≠ []) (hword : word.toList = '-' :: '-' :: long) :
    s.take word = s.takeLong long := by
  obtain ⟨c, rest, rfl⟩ := List.exists_cons_of_ne_nil hlong
  simp [Progress.take, hplain, hword]

/-- The word of a switch gives it. -/
theorem take_switch (hplain : s.plain = false) (w : Switch) :
    s.take (Argument.switch w).word = s.giveSwitch (.switch w) := by
  have hword : (Argument.switch w).word.toList = '-' :: '-' :: w.name.toList := by
    simp [Argument.word]
  have hname : w.name.toList ≠ [] := by cases w <;> decide
  rw [take_dashes hplain hname hword]
  unfold Progress.takeLong
  rw [List.takeWhile_eq_self_iff.2 w.ne_equals, List.dropWhile_eq_nil_iff.2 w.ne_equals]
  simp only [ofLong?_switch]

/-- The word of a parameter gives it with its value. -/
theorem take_parameter (hplain : s.plain = false) (p : Parameter) (name : p.Spelling)
    (value : String) :
    s.take (Argument.parameter p name value).word = s.giveParameter p value.toList := by
  have hword : (Argument.parameter p name value).word.toList
      = '-' :: '-' :: (name.val.toList ++ '=' :: value.toList) := by
    simp [Argument.word]
  have hequals := Parameter.ne_equals name.val name.property
  rw [take_dashes hplain (by simp) hword]
  unfold Progress.takeLong
  rw [List.takeWhile_append_of_pos hequals, List.dropWhile_append_of_pos hequals]
  simp [ofLong?_spelling name.val name.property]

/-- The word of an action is taken as a value. -/
theorem take_action (hplain : s.plain = false) (a : Action) :
    s.take (Argument.action a).word = s.takeValue a.render.toList := by
  cases a <;> simp [Progress.take, hplain, Argument.word, Action.render]

-- ============================================================ matching

/-- A command line was taken so far, and what is settled is what it says. -/
structure Reads (s : Progress) (args : List Argument) : Prop where
  sound : Sound args
  plain : s.plain = false
  acted : s.acted = (said? args .action).isSome
  settle : s.settle = .ok ⟨.saying (said? args), .nothing, s.acted, false⟩

/-- At the start nothing has been said. -/
theorem reads_start : Reads .start [] :=
  ⟨sound_nil, rfl, rfl, rfl⟩

namespace Reads

/-- Giving a switch says it of what was said before. -/
theorem giveSwitch (h : Reads s args) (w : Switch) :
    s.giveSwitch (.switch w)
      = (setSwitch (.saying (said? args)) w).map fun i => ⟨i, .nothing, s.acted, false⟩ := by
  unfold Progress.giveSwitch
  rw [h.settle]
  show (do
    let i ← setSwitch (.saying (said? args)) w
    return ⟨i, .nothing, s.acted, false⟩ : Except Refusal Progress) = _
  cases setSwitch (.saying (said? args)) w <;> rfl

/-- Giving a parameter says its value of what was said before. -/
theorem giveParameter (h : Reads s args) (p : Parameter) (value : String) :
    s.giveParameter p value.toList
      = (setParameter (.saying (said? args)) p value).map
          fun i => ⟨i, .nothing, s.acted, false⟩ := by
  unfold Progress.giveParameter
  rw [h.settle, String.ofList_toList]
  show (do
    let i ← setParameter (.saying (said? args)) p value
    return ⟨i, .nothing, s.acted, false⟩ : Except Refusal Progress) = _
  cases setParameter (.saying (said? args)) p value <;> rfl

/-- Nothing waits for a value, so a word that is no option is the action. -/
theorem takeValue (h : Reads s args) (word : String) :
    s.takeValue word.toList
      = if s.acted then .error .unknownArgument
        else .ok ⟨.saying (said? args), .action word, true, false⟩ := by
  have haction : s.takeValue word.toList = s.takeAction word.toList := by
    unfold Progress.takeValue
    split
    next p hheld =>
      have hsettle := h.settle
      unfold Progress.settle at hsettle
      rw [hheld] at hsettle
      cases hsettle
    · rfl
  rw [haction]
  unfold Progress.takeAction
  rw [h.settle, String.ofList_toList]
  rfl

/-- Once it took effect, an argument that is no action has been read. -/
theorem settled (h : Reads s args) (ha : Sound (args ++ [a])) (hother : a.subject ≠ .action) :
    Reads ⟨.saying (said? (args ++ [a])), .nothing, s.acted, false⟩ (args ++ [a]) where
  sound := ha
  plain := rfl
  acted := by
    rw [h.acted, said?_append (sound_append_iff.1 ha).2.1, Function.update_of_ne hother.symm]
  settle := rfl

end Reads

/-- An action is known by its word. -/
theorem ofWord?_render (a : Action) : Action.ofWord? a.render = some a := by
  cases a <;> decide

/-- What is said of the action settles it, and nothing else. -/
theorem saying_action {t : Subject → Option String} (a : Action) :
    Invocation.saying (Function.update t .action (some a.render))
      = { Invocation.saying t with action := a } := by
  simp [Invocation.saying, Function.update, ofWord?_render]

/-- An argument about a subject of its own whose value is of its kind is taken. -/
theorem take_word (h : Reads s args) (ha : Sound (args ++ [a])) :
    ∃ s', s.take a.word = .ok s' ∧ Reads s' (args ++ [a]) := by
  obtain ⟨-, hnew, hfits⟩ := sound_append_iff.1 ha
  have hnone : (said? args a.subject).isSome = false := by
    rw [said?_eq_none_iff.2 hnew]
    rfl
  have hsaid := said?_append hnew
  cases a with
  | action a =>
      change (said? args .action).isSome = false at hnone
      change said? _ = Function.update (said? args) .action (some a.render) at hsaid
      refine ⟨⟨.saying (said? args), .action a.render, true, false⟩, ?_, ha, rfl, ?_, ?_⟩
      · rw [take_action h.plain, h.takeValue, h.acted, hnone]
        rfl
      · rw [hsaid, Function.update_self]
        rfl
      · rw [hsaid, saying_action]
        simp only [Progress.settle, ofWord?_render]
  | switch w =>
      change (said? args (.switch w)).isSome = false at hnone
      change said? _ = Function.update (said? args) (.switch w) (some "") at hsaid
      refine ⟨_, ?_, h.settled ha (fun heq => nomatch heq)⟩
      rw [take_switch h.plain, h.giveSwitch, setSwitch_saying, hsaid, hnone]
      rfl
  | parameter p name value =>
      change (said? args (.parameter p)).isSome = false at hnone
      change said? _ = Function.update (said? args) (.parameter p) (some value) at hsaid
      refine ⟨_, ?_, h.settled ha (fun heq => nomatch heq)⟩
      rw [take_parameter h.plain, h.giveParameter, setParameter_saying h.sound hfits, hsaid, hnone]
      rfl

/-- What is not a number of packets is refused, whatever was given before. -/
theorem setParameter_of_not_fits {i : Invocation} {p : Parameter} {name : p.Spelling}
    {value : String} (h : ¬ (Argument.parameter p name value).Fits) :
    ∃ e, setParameter i p value = .error e := by
  cases p with
  | bufferSize =>
      have hnone : packets? value = none := by simpa [Argument.Fits] using h
      unfold setParameter
      rw [hnone]
      cases i.bufferSize with
      | none => exact ⟨_, rfl⟩
      | some n => exact ⟨_, rfl⟩
  | interface | mirrorDevice | bandwidth | impairment | source | destination | exclude | profile =>
      exact absurd trivial h

/-- A subject that was there already is refused, and so is a value not of its
kind. -/
theorem take_word_refused (h : Reads s args) (ha : ¬ Sound (args ++ [a])) :
    ∃ e, s.take a.word = .error e := by
  have hsome (hfits : a.Fits) : (said? args a.subject).isSome = true := by
    by_contra hnone
    have hnew : a.subject ∉ args.map Argument.subject :=
      said?_eq_none_iff.1 (Option.not_isSome_iff_eq_none.1 hnone)
    exact ha (sound_append_iff.2 ⟨h.sound, hnew, hfits⟩)
  cases a with
  | action a =>
      have hacted : s.acted = true := h.acted.trans (hsome trivial)
      rw [take_action h.plain, h.takeValue, hacted]
      exact ⟨_, rfl⟩
  | switch w =>
      have hgiven : (said? args (.switch w)).isSome = true := hsome trivial
      rw [take_switch h.plain, h.giveSwitch, setSwitch_saying, hgiven]
      exact ⟨_, rfl⟩
  | parameter p name value =>
      rw [take_parameter h.plain, h.giveParameter]
      by_cases hfits : (Argument.parameter p name value).Fits
      · have hgiven : (said? args (.parameter p)).isSome = true := hsome hfits
        rw [setParameter_saying h.sound hfits, hgiven]
        exact ⟨_, rfl⟩
      · obtain ⟨e, he⟩ := setParameter_of_not_fits hfits
        rw [he]
        exact ⟨_, rfl⟩

theorem foldlM_take_append :
    ((args ++ [a]).map Argument.word).foldlM Progress.take s
      = (args.map Argument.word).foldlM Progress.take s >>= fun s' => s'.take a.word := by
  rw [List.map_append, List.map_singleton, List.foldlM_append]
  congr 1
  funext s'
  rw [List.foldlM_cons]
  cases s'.take a.word <;> rfl

/-- What taking a whole command line comes to. -/
theorem foldlM_take (args : List Argument) :
    (Sound args → ∃ s, (args.map Argument.word).foldlM Progress.take .start = .ok s ∧ Reads s args)
      ∧ (¬ Sound args
        → ∃ e, (args.map Argument.word).foldlM Progress.take .start = .error e) := by
  -- the last argument settles the matter only where those before it were taken
  induction args using List.reverseRecOn with
  | nil => exact ⟨fun _ => ⟨_, rfl, reads_start⟩, fun h => absurd sound_nil h⟩
  | append_singleton args a ih =>
      rw [foldlM_take_append]
      by_cases hargs : Sound args
      · obtain ⟨s, hs, hreads⟩ := ih.1 hargs
        rw [hs]
        exact ⟨take_word hreads, take_word_refused hreads⟩
      · obtain ⟨e, he⟩ := ih.2 hargs
        rw [he]
        exact ⟨fun ha => absurd (sound_append_iff.1 ha).1 hargs, fun _ => ⟨e, rfl⟩⟩

/-- A command line is read where nothing comes twice and values are of their
kinds, and as what it says. -/
theorem parse_words_eq_ok_iff {i : Invocation} :
    parse (args.map Argument.word) = .ok i ↔ Sound args ∧ i = .saying (said? args) := by
  unfold parse
  by_cases hsound : Sound args
  · obtain ⟨s, hs, hreads⟩ := (foldlM_take args).1 hsound
    rw [hs]
    show (do let t ← s.settle; return t.invocation : Except Refusal Invocation) = .ok i ↔ _
    rw [hreads.settle, and_iff_right hsound]
    show Except.ok _ = Except.ok i ↔ _
    rw [Except.ok.injEq, eq_comm]
  · obtain ⟨e, he⟩ := (foldlM_take args).2 hsound
    rw [he]
    exact iff_of_false (fun h => nomatch h) fun h => hsound h.1

-- ============================================================= writing

variable {i : Invocation} {spelling : ∀ p : Parameter, p.Spelling}

/-- A number of packets is read from its numeral. -/
theorem packets?_repr (n : UInt32) : packets? n.toNat.repr = some n := by
  have hsize : n.toNat < UInt32.size := n.toNat_lt
  have hlimit : n.toNat < Nat.pow 2 63 := Nat.lt_trans hsize (by decide)
  have hrange : 0 ≤ (n.toNat : Int) ∧ (n.toNat : Int) < UInt32.size :=
    ⟨Int.natCast_nonneg _, Int.ofNat_lt.2 hsize⟩
  unfold packets?
  rw [Nat.toList_repr, Text.readInt64?_toDigits hlimit]
  simp only [if_pos hrange, Int.toNat_natCast, UInt32.ofNat_toNat]

theorem Subject.mem_all (subject : Subject) : subject ∈ Subject.all := by
  cases subject with
  | action => decide
  | switch s => cases s <;> decide
  | parameter p => cases p <;> decide

/-- The argument for a subject is of that subject. -/
theorem subject_of_argument? (h : i.argument? spelling subject = some a) :
    a.subject = subject := by
  unfold Invocation.argument? at h
  cases subject with
  | action =>
      cases h
      rfl
  | switch s =>
      have ha : Argument.switch s = a := Option.some.inj (Option.ite_none_right_eq_some.1 h).2
      rw [← ha]
      rfl
  | parameter p =>
      obtain ⟨value, -, rfl⟩ := Option.map_eq_some_iff.1 h
      rfl

/-- An invocation is written with an argument for each subject it says something
of. -/
theorem mem_arguments_iff :
    a ∈ i.arguments spelling ↔ i.argument? spelling a.subject = some a := by
  unfold Invocation.arguments
  rw [List.mem_filterMap]
  constructor
  · intro h
    obtain ⟨subject, -, ha⟩ := h
    rwa [subject_of_argument? ha]
  · exact fun h => ⟨a.subject, a.subject.mem_all, h⟩

/-- The arguments that an invocation is written with are sound. -/
theorem sound_arguments : Sound (i.arguments spelling) where
  once := by
    unfold Invocation.arguments
    rw [List.map_filterMap]
    refine List.Nodup.filterMap ?_ (by decide : Subject.all.Nodup)
    intro subject subject' about habout habout'
    obtain ⟨a, ha, rfl⟩ := Option.map_eq_some_iff.1 habout
    obtain ⟨a', ha', heq⟩ := Option.map_eq_some_iff.1 habout'
    rw [← subject_of_argument? ha, ← subject_of_argument? ha', heq]
  fits a ha := by
    rw [mem_arguments_iff] at ha
    unfold Argument.Fits
    split
    next name value =>
      obtain ⟨text, hvalue, htext⟩ := Option.map_eq_some_iff.1 ha
      obtain ⟨n, -, rfl⟩ := Option.map_eq_some_iff.1 hvalue
      cases htext
      rw [packets?_repr]
      rfl
    · trivial

/-- Each argument is what is said about its subject. -/
theorem said?_of_mem (honce : (args.map Argument.subject).Nodup) (ha : a ∈ args) :
    said? args a.subject = some a.text := by
  rw [said?_perm honce (List.perm_cons_erase ha)]
  simp [said?]

/-- They say of a subject what the invocation has for it. -/
theorem said?_arguments :
    said? (i.arguments spelling) subject = (i.argument? spelling subject).map Argument.text := by
  cases hargument : i.argument? spelling subject with
  | none =>
      refine said?_eq_none_iff.2 fun hmem => ?_
      obtain ⟨a, ha, rfl⟩ := List.mem_map.1 hmem
      rw [mem_arguments_iff, hargument] at ha
      cases ha
  | some a =>
      obtain rfl := subject_of_argument? hargument
      exact said?_of_mem sound_arguments.once (mem_arguments_iff.2 hargument)

/-- Where everything about an invocation is said, it is what is said. -/
theorem saying_eq (haction : t .action = some i.action.render)
    (hswitch : ∀ w, (t (.switch w)).isSome = i.isOn w)
    (hparameter : ∀ p, t (.parameter p) = i.value? p) : .saying t = i := by
  have hbufferSize : (i.value? .bufferSize).bind packets? = i.bufferSize := by
    unfold Invocation.value?
    cases i.bufferSize with
    | none => rfl
    | some n => exact packets?_repr n
  unfold Invocation.saying
  simp only [haction, hswitch, hparameter, hbufferSize, Option.bind_some, ofWord?_render,
    Option.getD_some]
  rfl

/-- The arguments for an invocation say everything about it. -/
theorem saying_arguments : .saying (said? (i.arguments spelling)) = i := by
  refine saying_eq said?_arguments (fun w => ?_) fun p => ?_
  · rw [said?_arguments]
    show (Option.map Argument.text (if i.isOn w then some (.switch w) else none)).isSome = i.isOn w
    cases i.isOn w <;> rfl
  · rw [said?_arguments]
    show ((i.value? p).map (.parameter p (spelling p))).map Argument.text = i.value? p
    cases i.value? p <;> rfl

/-- Arguments in another order are read alike. -/
theorem parse_words_of_perm (h : args.Perm args')
    (hread : parse (args.map Argument.word) = .ok i) :
    parse (args'.map Argument.word) = .ok i := by
  obtain ⟨hsound, rfl⟩ := parse_words_eq_ok_iff.1 hread
  rw [parse_words_eq_ok_iff, said?_perm hsound.once h]
  exact ⟨hsound.perm h, rfl⟩

/-- What is read does not depend on the order of the arguments. -/
theorem parse_words_perm (h : args.Perm args') :
    parse (args.map Argument.word) = .ok i ↔ parse (args'.map Argument.word) = .ok i :=
  ⟨parse_words_of_perm h, parse_words_of_perm h.symm⟩

-- ============================================================= reading

/-- Every invocation that is written is read back, whichever names are taken and
in whichever order the arguments come. Of arguments of any kind, those are read
that say nothing twice, and as what each says about its subject; no order
matters there either. -/
theorem written_invocation_is_read :
    (∀ (i : Invocation) (spelling : ∀ p : Parameter, p.Spelling) (args : List Argument),
        args.Perm (i.arguments spelling) → parse (args.map Argument.word) = .ok i)
      ∧ (∀ (args : List Argument) (i : Invocation),
        parse (args.map Argument.word) = .ok i ↔ Sound args ∧ i = .saying (said? args))
      ∧ ∀ (args args' : List Argument) (i : Invocation), args.Perm args' →
        (parse (args.map Argument.word) = .ok i ↔ parse (args'.map Argument.word) = .ok i) := by
  refine ⟨?_, fun _ _ => parse_words_eq_ok_iff, fun _ _ _ h => parse_words_perm h⟩
  intro i spelling args hperm
  rw [parse_words_perm hperm, parse_words_eq_ok_iff]
  exact ⟨sound_arguments, saying_arguments.symm⟩

/-- The last name of a parameter: the other one of the two that an impairment
has. -/
def Parameter.lastName (p : Parameter) : p.Spelling :=
  ⟨p.spellings.getLast (by cases p <;> decide), List.getLast_mem _⟩

/-- Values that are empty or look like options are read as values. -/
theorem written_invocation_is_read_shuffled :
    parse
        ["--json", "--netem=--to=*:80", "--exclude=", "--buffer-size=4294967295", "clear",
         "--from=-", "--ifb=="]
      = .ok
        { Invocation.default with
          action := .clear, mirrorDevice := some "=", impairment := some "--to=*:80",
          source := some "-", exclude := some "", bufferSize := some 4294967295,
          json := true } := by
  have hread := written_invocation_is_read.1
    { Invocation.default with
      action := .clear, mirrorDevice := some "=", impairment := some "--to=*:80",
      source := some "-", exclude := some "", bufferSize := some 4294967295, json := true }
    Parameter.lastName
    [.switch .json, .parameter .impairment ⟨"netem", by decide⟩ "--to=*:80",
     .parameter .exclude ⟨"exclude", by decide⟩ "",
     .parameter .bufferSize ⟨"buffer-size", by decide⟩ "4294967295", .action .clear,
     .parameter .source ⟨"from", by decide⟩ "-", .parameter .mirrorDevice ⟨"ifb", by decide⟩ "="]
    (by decide)
  exact hread

end CommandLine

end TrafficShaping
