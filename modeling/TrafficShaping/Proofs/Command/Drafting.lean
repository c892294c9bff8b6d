/-
Drafts and the order of their settings (`build_settled_by_last_values`).

A draft is made by settings, one after the other. Some of them hold one value,
and of these only the last one of a kind counts; others hold lists, which are
put together in the order they come in; and asking for statistics counts however
often it is done. One setting does to a draft what this says (`scalar_set`,
`listing_set`), so all of them do, and nothing else about them is left in the
draft. Whether there is a command, and which one, is then told from the last
values and the lists alone.
-/
import Mathlib.Data.List.Induction
import TrafficShaping.Proofs.Command.Words

namespace TrafficShaping

-- ==================================================== statement vocabulary

/-- The settings that hold one value. -/
inductive Scalar where
  | operation
  | device
  | target
  | handle
  | kind
  | priority
  | flow
  deriving DecidableEq, Repr

/-- What a setting of one value holds. -/
@[reducible] def Scalar.Value : Scalar → Type
  | operation => TcOperation
  | device => String
  | target => TcTarget
  | handle => Handle
  | kind => QdiscKind
  | priority => UInt16
  | flow => Handle

/-- The settings that hold a list. -/
inductive Listing where
  | params
  | terms
  | extra
  deriving DecidableEq, Repr

/-- What a setting of a list holds. -/
@[reducible] def Listing.Item : Listing → Type
  | params => String
  | terms => MatchTerm
  | extra => String

namespace Setting

/-- The value that a setting gives for one of the scalars. -/
def value? : (x : Scalar) → Setting → Option x.Value
  | .operation, operation op => some op
  | .device, device name => some name
  | .target, target t => some t
  | .handle, handle h => some h
  | .kind, kind k => some k
  | .priority, priority n => some n
  | .flow, flow h => some h
  | _, _ => none

/-- What a setting adds to one of the lists. -/
def items : (x : Listing) → Setting → List x.Item
  | .params, params words => words
  | .terms, terms ts => ts
  | .extra, extra words => words
  | _, _ => []

/-- The last value given for a scalar. -/
def last (x : Scalar) (ss : List Setting) : Option x.Value := (ss.filterMap (value? x)).getLast?

/-- All that is given for a list, in order. -/
def all (x : Listing) (ss : List Setting) : List x.Item := ss.flatMap (items x)

/-- Settings that come to the same, whatever order they are in. -/
structure Agree (ss ss' : List Setting) : Prop where
  last_eq : ∀ x, last x ss = last x ss'
  all_eq : ∀ x, all x ss = all x ss'
  stats_iff : stats ∈ ss ↔ stats ∈ ss'

/-- Settings that make a command of this operation on this device. -/
structure Complete (object : TcObject) (ss : List Setting) (op : TcOperation) (device : String) :
    Prop where
  operation_eq : last .operation ss = some op
  device_eq : last .device ss = some device
  device_ne : device ≠ ""
  /-- To add a discipline takes a target, a kind unless the target names it, and
  no handle of a class. -/
  qdisc : op = .add → object = .qdisc →
    (∃ t, last .target ss = some t ∧ (t ≠ .ingress → ∃ k, last .kind ss = some k))
      ∧ ∀ h, last .handle ss = some h → h.minor = 0
  /-- To add a filter takes a parent, a term, and something to do with the packets. -/
  filter : op = .add → object = .filter →
    (∃ parent, last .target ss = some (.parent parent)) ∧ all .terms ss ≠ []
      ∧ ((∃ h, last .flow ss = some h) ∨ all .extra ss ≠ [])

/-- The words that belong to an object and an operation on it: in full only where
something is added, and at the ingress hook not even then. -/
inductive Body (ss : List Setting) : TcObject → TcOperation → List String → Prop
  | addQdisc {k : QdiscKind} (htarget : last .target ss ≠ some .ingress)
    (hkind : last .kind ss = some k) :
    Body ss .qdisc .add
      (Draft.option "handle" ((last .handle ss).map Handle.render) ++ k.render :: all .params ss)
  | addIngress (htarget : last .target ss = some .ingress) :
    Body ss .qdisc .add (Draft.option "handle" ((last .handle ss).map Handle.render))
  | addFilter :
    Body ss .filter .add
      (["protocol", "ip"] ++ Draft.option "prio" ((last .priority ss).map fun n => n.toNat.repr)
        ++ ["u32"] ++ (all .terms ss).flatMap Draft.termWords
        ++ Draft.option "flowid" ((last .flow ss).map Handle.render))
  | qdisc {op : TcOperation} (hop : op ≠ .add) :
    Body ss .qdisc op (Draft.option "handle" ((last .handle ss).map Handle.render))
  | filter {op : TcOperation} (hop : op ≠ .add) : Body ss .filter op []

end Setting

namespace Draft

open Setting

-- ============================================================= settings

/-- The value that a draft holds for a scalar. -/
def scalar (d : Draft) : (x : Scalar) → Option x.Value
  | .operation => d.operation
  | .device => d.device
  | .target => d.target
  | .handle => d.handle
  | .kind => d.kind
  | .priority => d.priority
  | .flow => d.flow

/-- The list that a draft holds. -/
def listing (d : Draft) : (x : Listing) → List x.Item
  | .params => d.params
  | .terms => d.terms
  | .extra => d.extra

variable {object : TcObject} {ss ss' : List Setting} {d : Draft} {op : TcOperation}
  {device : String}

/-- A setting replaces the single value that it is of. -/
theorem scalar_set (d : Draft) (s : Setting) (x : Scalar) :
    (d.set s).scalar x = (s.value? x).or (d.scalar x) := by
  cases x <;> cases s <;> rfl

/-- A setting of a list is put behind what the list has. -/
theorem listing_set (d : Draft) (s : Setting) (x : Listing) :
    (d.set s).listing x = d.listing x ++ s.items x := by
  cases x <;> cases s <;> first | rfl | exact (List.append_nil _).symm

/-- The counts are asked for from the first setting that asks for them. -/
theorem stats_set (d : Draft) (s : Setting) : (d.set s).stats = true ↔ s = .stats ∨ d.stats := by
  cases s <;> simp [set]

theorem object_set (d : Draft) (s : Setting) : (d.set s).object = d.object := by
  cases s <;> rfl

/-- One more setting is made last. -/
theorem ofSettings_concat (object : TcObject) (ss : List Setting) (s : Setting) :
    ofSettings object (ss ++ [s]) = (ofSettings object ss).set s := by
  unfold ofSettings
  rw [List.foldl_append]
  rfl

/-- Of a single value the last setting counts. -/
theorem scalar_ofSettings (object : TcObject) (ss : List Setting) (x : Scalar) :
    (ofSettings object ss).scalar x = last x ss := by
  induction ss using List.reverseRecOn with
  | nil => cases x <;> rfl
  | append_singleton ss s ih =>
      rw [ofSettings_concat, scalar_set, ih]
      unfold last
      rw [List.filterMap_append, List.getLast?_append]
      cases hs : s.value? x <;> simp [hs]

/-- Of a list all settings count, in order. -/
theorem listing_ofSettings (object : TcObject) (ss : List Setting) (x : Listing) :
    (ofSettings object ss).listing x = all x ss := by
  induction ss using List.reverseRecOn with
  | nil => cases x <;> rfl
  | append_singleton ss s ih =>
      rw [ofSettings_concat, listing_set, ih]
      simp [all]

/-- The counts are asked for where any setting does. -/
theorem stats_ofSettings (object : TcObject) (ss : List Setting) :
    (ofSettings object ss).stats = true ↔ .stats ∈ ss := by
  induction ss using List.reverseRecOn with
  | nil => simp [ofSettings, empty]
  | append_singleton ss s ih =>
      rw [ofSettings_concat, stats_set, ih]
      simp [or_comm, eq_comm]

theorem object_ofSettings (object : TcObject) (ss : List Setting) :
    (ofSettings object ss).object = object := by
  induction ss using List.reverseRecOn with
  | nil => rfl
  | append_singleton ss s ih => rw [ofSettings_concat, object_set, ih]

/-- A draft is no more than what it holds. -/
theorem eq_of_parts {d d' : Draft} (hobject : d.object = d'.object)
    (hscalar : ∀ x, d.scalar x = d'.scalar x) (hlisting : ∀ x, d.listing x = d'.listing x)
    (hstats : d.stats = d'.stats) : d = d' := by
  obtain ⟨object, operation, device, target, handle, kind, params, priority, terms, flow, stats,
    extra⟩ := d
  obtain ⟨object', operation', device', target', handle', kind', params', priority', terms',
    flow', stats', extra'⟩ := d'
  rw [Draft.mk.injEq]
  exact ⟨hobject, hscalar .operation, hscalar .device, hscalar .target, hscalar .handle,
    hscalar .kind, hlisting .params, hscalar .priority, hlisting .terms, hscalar .flow, hstats,
    hlisting .extra⟩

/-- The draft that settings make has their last values and their lists, and no more. -/
theorem ofSettings_eq (object : TcObject) (ss : List Setting) :
    ofSettings object ss =
      { object := object
        operation := last .operation ss
        device := last .device ss
        target := last .target ss
        handle := last .handle ss
        kind := last .kind ss
        params := all .params ss
        priority := last .priority ss
        terms := all .terms ss
        flow := last .flow ss
        stats := decide (.stats ∈ ss)
        extra := all .extra ss } := by
  refine eq_of_parts (object_ofSettings object ss) (fun x => ?_) (fun x => ?_) ?_
  · rw [scalar_ofSettings]
    cases x <;> rfl
  · rw [listing_ofSettings]
    cases x <;> rfl
  · rw [Bool.eq_iff_iff, stats_ofSettings, decide_eq_true_eq]

/-- Settings that agree make one draft. -/
theorem ofSettings_eq_of_agree (h : Agree ss ss') :
    ofSettings object ss = ofSettings object ss' := by
  rw [ofSettings_eq, ofSettings_eq]
  simp only [h.last_eq, h.all_eq, h.stats_iff]

-- ============================================================= checking

/-- A last test is passed only where it finds nothing. -/
theorem throw_eq_ok_iff {ε : Type} {c : Prop} [Decidable c] {e : ε} :
    (if c then throw e else pure () : Except ε Unit) = .ok () ↔ ¬ c := by
  by_cases hc : c
  · rw [if_pos hc]
    exact ⟨fun h => (nomatch h), fun h => absurd hc h⟩
  · rw [if_neg hc]
    exact ⟨fun _ => hc, fun _ => rfl⟩

/-- A discipline to add needs a target, a kind unless that is the hook, and a
handle of its own if any. -/
theorem checkQdisc_eq_ok_iff :
    d.checkQdisc = .ok ()
      ↔ (∃ t, d.target = some t ∧ (t ≠ .ingress → ∃ k, d.kind = some k))
        ∧ ∀ h, d.handle = some h → h.minor = 0 := by
  unfold checkQdisc
  simp only [guard_eq_ok_iff]
  rw [← and_assoc]
  refine and_congr ?_ ?_
  · cases d.target with
    | none => simp
    | some t => cases d.kind <;> simp
  · cases d.handle with
    | none => simp [pure, Except.pure]
    | some h =>
        by_cases hq : h.minor = 0
        · simp [hq, Handle.isQdisc, pure, Except.pure]
        · simp [hq, Handle.isQdisc, throw, throwThe, MonadExceptOf.throw]

/-- A filter to add needs a parent, a term, and a class or something more. -/
theorem checkFilter_eq_ok_iff :
    d.checkFilter = .ok ()
      ↔ (∃ parent, d.target = some (.parent parent)) ∧ d.terms ≠ []
        ∧ ((∃ h, d.flow = some h) ∨ d.extra ≠ []) := by
  have hrest : ¬ d.terms.isEmpty = true ∧ ¬ (d.flow.isNone && d.extra.isEmpty) = true
      ↔ d.terms ≠ [] ∧ ((∃ h, d.flow = some h) ∨ d.extra ≠ []) := by
    cases d.flow <;> simp
  unfold checkFilter
  cases d.target with
  | none => simp [throw, throwThe, MonadExceptOf.throw, bind, Except.bind]
  | some t =>
      cases t with
      | root => simp [throw, throwThe, MonadExceptOf.throw, bind, Except.bind]
      | ingress => simp [throw, throwThe, MonadExceptOf.throw, bind, Except.bind]
      | parent h =>
          simp only [guard_eq_ok_iff, throw_eq_ok_iff]
          rw [hrest]
          exact ⟨fun hp => ⟨⟨h, rfl⟩, hp⟩, And.right⟩

/-- Settings pass the check where they are complete. -/
theorem check_ofSettings_eq_ok_iff :
    (ofSettings object ss).check = .ok (op, device) ↔ Complete object ss op device := by
  rw [ofSettings_eq, check_eq_ok_iff, checkQdisc_eq_ok_iff, checkFilter_eq_ok_iff]
  exact ⟨fun ⟨h₁, h₂, h₃, h₄, h₅⟩ => ⟨h₁, h₂, h₃, h₄, h₅⟩,
    fun ⟨h₁, h₂, h₃, h₄, h₅⟩ => ⟨h₁, h₂, h₃, h₄, h₅⟩⟩

-- ============================================================= laid out

/-- What is written of a discipline is laid out as a body. -/
theorem qdiscWords_ofSettings (h : Complete .qdisc ss op device) :
    Body ss .qdisc op ((ofSettings .qdisc ss).qdiscWords op) := by
  rw [ofSettings_eq]
  unfold qdiscWords
  by_cases hop : op = .add
  · obtain ⟨⟨t, ht, hk⟩, -⟩ := h.qdisc hop rfl
    subst hop
    by_cases hingress : last .target ss = some .ingress
    · rw [if_neg fun hne => hne.2 hingress, List.append_nil]
      exact .addIngress hingress
    · obtain ⟨k, hk⟩ := hk fun hi => hingress (ht.trans (congrArg some hi))
      rw [if_pos ⟨rfl, hingress⟩, hk]
      exact .addQdisc hingress hk
  · rw [if_neg fun hadd => hop hadd.1, List.append_nil]
    exact .qdisc hop

/-- What is written of a filter is laid out as a body. -/
theorem filterWords_ofSettings (ss : List Setting) (op : TcOperation) :
    Body ss .filter op ((ofSettings .filter ss).filterWords op) := by
  rw [ofSettings_eq]
  unfold filterWords
  by_cases hop : op = .add
  · subst hop
    rw [if_pos rfl]
    exact .addFilter
  · rw [if_neg hop]
    exact .filter hop

/-- The words of complete settings: an option for statistics, the object, the
operation, the device, the target, what belongs to the object, and the extra
words. -/
theorem words_ofSettings (h : Complete object ss op device) :
    ∃ body, Body ss object op body
      ∧ (ofSettings object ss).words op device
        = (if .stats ∈ ss then ["-s"] else [])
          ++ [object.render, op.render, "dev", device]
          ++ ((last .target ss).map TcTarget.words).getD []
          ++ body
          ++ all .extra ss := by
  have hstats : (if (ofSettings object ss).stats = true then ["-s"] else [])
      = if .stats ∈ ss then ["-s"] else [] :=
    if_congr (stats_ofSettings object ss) rfl rfl
  unfold words
  rw [hstats]
  cases object with
  | qdisc =>
      refine ⟨_, qdiscWords_ofSettings h, ?_⟩
      rw [ofSettings_eq]
  | filter =>
      refine ⟨_, filterWords_ofSettings ss op, ?_⟩
      rw [ofSettings_eq]

/-- What is built depends on the last value given for each scalar, on what is
given for each list, and on whether statistics are asked for. There is a command
where these are complete, and it has their words in their places. -/
theorem build_settled_by_last_values (object : TcObject) (ss : List Setting) :
    (∀ ss', Agree ss ss' → (ofSettings object ss).build = (ofSettings object ss').build)
      ∧ ((∃ c, (ofSettings object ss).build = .ok c) ↔ ∃ op device, Complete object ss op device)
      ∧ ∀ c, (ofSettings object ss).build = .ok c →
        ∃ op device body, Complete object ss op device ∧ Body ss object op body
          ∧ c = ⟨.tc, (if .stats ∈ ss then ["-s"] else [])
              ++ [object.render, op.render, "dev", device]
              ++ ((last .target ss).map TcTarget.words).getD []
              ++ body
              ++ all .extra ss⟩ := by
  refine ⟨fun ss' h => ?_, ⟨?_, ?_⟩, fun c hc => ?_⟩
  · rw [ofSettings_eq_of_agree h]
  · rintro ⟨c, hc⟩
    obtain ⟨op, device, hcheck, -⟩ := build_eq_ok_iff.1 hc
    exact ⟨op, device, check_ofSettings_eq_ok_iff.1 hcheck⟩
  · rintro ⟨op, device, hcomplete⟩
    exact ⟨_, build_eq_ok_iff.2 ⟨op, device, check_ofSettings_eq_ok_iff.2 hcomplete, rfl⟩⟩
  · obtain ⟨op, device, hcheck, rfl⟩ := build_eq_ok_iff.1 hc
    have hcomplete := check_ofSettings_eq_ok_iff.1 hcheck
    obtain ⟨body, hbody, hwords⟩ := words_ofSettings hcomplete
    exact ⟨op, device, body, hcomplete, hbody, congrArg (Command.mk .tc) hwords⟩

/-- An ingress hook is added in the same words whatever kind and parameters were
given, and whichever way round the settings come. -/
theorem build_settled_by_last_values_at_ingress :
    let ss : List Setting := [.device "lo", .operation .show, .kind .tbf, .params ["rate"],
      .target .root, .device "eth0", .params ["1mbit"], .target .ingress, .operation .add,
      .extra ["block", "1"]]
    let ss' : List Setting := [.target .ingress, .extra ["block"], .operation .add,
      .params ["rate", "1mbit"], .kind .tbf, .device "eth0", .extra ["1"]]
    Agree ss ss' ∧ (∃ op device, Complete .qdisc ss' op device)
      ∧ (ofSettings .qdisc ss').build
        = .ok ⟨.tc, ["qdisc", "add", "dev", "eth0", "ingress", "block", "1"]⟩ := by
  intro ss ss'
  have hagree : Agree ss ss' := by
    refine ⟨fun x => ?_, fun x => ?_, by decide⟩
    · cases x <;> rfl
    · cases x <;> rfl
  have hbuilt : (ofSettings .qdisc ss').build
      = .ok ⟨.tc, ["qdisc", "add", "dev", "eth0", "ingress", "block", "1"]⟩ :=
    ((build_settled_by_last_values .qdisc ss).1 ss' hagree).symm.trans rfl
  exact ⟨hagree, (build_settled_by_last_values .qdisc ss').2.1.1 ⟨_, hbuilt⟩, hbuilt⟩

end Draft

end TrafficShaping
