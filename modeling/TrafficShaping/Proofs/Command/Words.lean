/-
The words of every command that is issued while a policy is installed,
cleared or inspected.

Commands are drafted setting by setting and may fail to be built; here each
of them is written out as the list of words it comes to, and building it is
shown to give that list wherever its device has a name. Later proofs speak
of the words only.
-/
import TrafficShaping.Command.Catalogue

namespace TrafficShaping

-- ========================================================= written out

/-- The word by which a program is called. -/
def Program.word : Program → String
  | .tc => "tc"
  | .ip => "ip"
  | .ethtool => "ethtool"

/-- The word for a kind of discipline. -/
def QdiscKind.word : QdiscKind → String
  | .prio => "prio"
  | .tbf => "tbf"
  | .netem => "netem"

namespace Command

/-- A command on one line: its program, and each argument behind a space. -/
def line (k : Command) : String :=
  k.program.word ++ String.join (k.args.map fun arg => " " ++ arg)

/-- A command of the traffic control tool. -/
def tc (args : List String) : Command := ⟨.tc, args⟩

/-- Deletes a device's tree of disciplines. -/
def deleteRoot (device : String) : Command := tc ["qdisc", "del", "dev", device, "root"]

/-- Deletes a device's ingress hook. -/
def deleteIngress (device : String) : Command := tc ["qdisc", "del", "dev", device, "ingress"]

/-- Deletes a device. -/
def deleteLink (device : String) : Command := ip ["link", "del", device]

/-- Adds a mirror device. -/
def addMirror (device : String) : Command := ip ["link", "add", device, "type", "ifb"]

/-- Brings a device up. -/
def bringUp (device : String) : Command := ip ["link", "set", "dev", device, "up"]

/-- Adds an ingress hook to a device. -/
def addIngress (device : String) : Command := tc ["qdisc", "add", "dev", device, "ingress"]

/-- Sends all that arrives at the interface to the mirror device. -/
def feedMirror (interface mirror : String) : Command :=
  tc ["filter", "add", "dev", interface, "parent", "ffff:", "protocol", "ip", "u32",
    "match", "u32", "0", "0", "action", "mirred", "egress", "redirect", "dev", mirror]

/-- Asks for the disciplines of a device. -/
def showOn (device : String) : Command := tc ["qdisc", "show", "dev", device]

/-- Asks for the offload features of an interface. -/
def askFeatures (interface : String) : Command := ⟨.ethtool, ["-k", interface]⟩

/-- Installs a discipline. -/
def installQdisc (q : Qdisc) : Command :=
  tc (["qdisc", "add", "dev", q.device] ++ q.parent.target.words
    ++ ["handle", q.handle.render, q.kind.word] ++ q.params)

/-- Installs a filter. -/
def installFilter (f : Filter) : Command :=
  tc (["filter", "add", "dev", f.device, "parent", f.parent.render, "protocol", "ip",
      "prio", f.priority.toNat.repr, "u32"]
    ++ f.terms.flatMap Draft.termWords ++ ["flowid", f.flow.render])

/-- Installs a rule set, one command a rule, disciplines first. -/
def installRules (r : RuleSet) : List Command :=
  r.qdiscs.map installQdisc ++ r.filters.map installFilter

end Command

-- ============================================================== words

theorem QdiscKind.render_eq_word (kind : QdiscKind) : kind.render = kind.word := by
  cases kind <;> rfl

/-- Words between spaces are the first of them and each other behind a space. -/
theorem intercalate_cons_eq_join (sep word : String) (words : List String) :
    sep.intercalate (word :: words) = word ++ String.join (words.map fun w => sep ++ w) := by
  induction words generalizing word with
  | nil => simp
  | cons next words ih =>
      rw [String.intercalate_cons_cons, ih]
      simp [String.append_assoc]

/-- A command is shown as its line. -/
theorem Command.render_eq_line (k : Command) : k.render = k.line := by
  have hword : k.program.render = k.program.word := by cases k.program <;> rfl
  unfold render argv line
  rw [intercalate_cons_eq_join, hword]

-- ==================================================== built from drafts

namespace Draft

variable {d : Draft} {op : TcOperation} {device : String}

/-- What comes after a test comes to something only where the test is passed. -/
theorem guard_eq_ok_iff {ε α : Type} {c : Prop} [Decidable c] {e : ε} {rest : Except ε α} {a : α} :
    (if c then (throw e : Except ε Unit) >>= fun _ => rest else rest) = .ok a
      ↔ ¬ c ∧ rest = .ok a := by
  by_cases hc : c
  · rw [if_pos hc]
    exact ⟨fun h => (nomatch h), fun h => absurd hc h.1⟩
  · rw [if_neg hc]
    exact ⟨fun h => ⟨hc, h⟩, And.right⟩

/-- What follows a check that is made in some cases only comes to something
where the check is passed in those. -/
theorem check_bind_eq_ok_iff {ε α : Type} {c : Prop} [Decidable c] {check : Except ε Unit}
    {a b : α} :
    (if c then check >>= fun _ => pure a else pure a) = .ok b ↔ a = b ∧ (c → check = .ok ()) := by
  by_cases hc : c
  · rw [if_pos hc]
    cases check <;> simp [hc, pure, Except.pure, bind, Except.bind]
  · rw [if_neg hc]
    simp [hc, pure, Except.pure]

/-- A draft passes the check with an operation and the name of a device, where
whatever is to be added passes its own. -/
theorem check_eq_ok_iff :
    d.check = .ok (op, device)
      ↔ d.operation = some op ∧ d.device = some device ∧ device ≠ ""
        ∧ (op = .add → d.object = .qdisc → d.checkQdisc = .ok ())
        ∧ (op = .add → d.object = .filter → d.checkFilter = .ok ()) := by
  unfold check
  cases d.operation with
  | none => simp [throw, throwThe, MonadExceptOf.throw]
  | some op' =>
      cases d.device with
      | none => simp [throw, throwThe, MonadExceptOf.throw]
      | some device' =>
          simp only [guard_eq_ok_iff]
          -- once the object is known, the other object's check is not asked for
          cases d.object with
          | qdisc =>
              rw [check_bind_eq_ok_iff, Prod.mk.injEq, String.isEmpty_iff]
              constructor
              · rintro ⟨hne, ⟨rfl, rfl⟩, hcheck⟩
                exact ⟨rfl, rfl, hne, fun hadd _ => hcheck hadd, fun _ h => (nomatch h)⟩
              · rintro ⟨⟨⟩, ⟨⟩, hne, hcheck, -⟩
                exact ⟨hne, ⟨rfl, rfl⟩, fun hadd => hcheck hadd rfl⟩
          | filter =>
              rw [check_bind_eq_ok_iff, Prod.mk.injEq, String.isEmpty_iff]
              constructor
              · rintro ⟨hne, ⟨rfl, rfl⟩, hcheck⟩
                exact ⟨rfl, rfl, hne, fun _ h => (nomatch h), fun hadd _ => hcheck hadd⟩
              · rintro ⟨⟨⟩, ⟨⟩, hne, -, hcheck⟩
                exact ⟨hne, ⟨rfl, rfl⟩, fun hadd => hcheck hadd rfl⟩

/-- A draft is built where it passes the check, from the words it then has. -/
theorem build_eq_ok_iff {c : Command} :
    d.build = .ok c ↔ ∃ op device, d.check = .ok (op, device) ∧ c = ⟨.tc, d.words op device⟩ := by
  unfold build
  cases d.check with
  | error e => exact ⟨fun h => (nomatch h), fun ⟨_, _, h, _⟩ => (nomatch h)⟩
  | ok checked =>
      obtain ⟨op, device⟩ := checked
      constructor
      · rintro ⟨⟩
        exact ⟨op, device, rfl, rfl⟩
      · rintro ⟨op', device', ⟨⟩, rfl⟩
        rfl

/-- Deleting and showing need an operation and a device, and no more. -/
theorem build_of_ne_add (op : TcOperation) (hop : d.operation = some op) (hadd : op ≠ .add)
    (hdevice : d.device = some device) (h : device ≠ "") :
    d.build = .ok ⟨.tc, d.words op device⟩ := by
  refine build_eq_ok_iff.2 ⟨op, device, check_eq_ok_iff.2 ⟨hop, hdevice, h, ?_, ?_⟩, rfl⟩
  · exact fun hop _ => absurd hop hadd
  · exact fun hop _ => absurd hop hadd

/-- Adding a discipline needs what `checkQdisc` asks for as well. -/
theorem build_of_add_qdisc (hobject : d.object = .qdisc) (hop : d.operation = some .add)
    (hdevice : d.device = some device) (h : device ≠ "") (hqdisc : d.checkQdisc = .ok ()) :
    d.build = .ok ⟨.tc, d.words .add device⟩ := by
  refine build_eq_ok_iff.2 ⟨.add, device, check_eq_ok_iff.2 ⟨hop, hdevice, h, ?_, ?_⟩, rfl⟩
  · exact fun _ _ => hqdisc
  · exact fun _ hfilter => nomatch hobject.symm.trans hfilter

/-- Adding a filter needs what `checkFilter` asks for as well. -/
theorem build_of_add_filter (hobject : d.object = .filter) (hop : d.operation = some .add)
    (hdevice : d.device = some device) (h : device ≠ "") (hfilter : d.checkFilter = .ok ()) :
    d.build = .ok ⟨.tc, d.words .add device⟩ := by
  refine build_eq_ok_iff.2 ⟨.add, device, check_eq_ok_iff.2 ⟨hop, hdevice, h, ?_, ?_⟩, rfl⟩
  · exact fun _ hqdisc => nomatch hobject.symm.trans hqdisc
  · exact fun _ _ => hfilter

end Draft

namespace Command

variable {device interface mirror : String}

theorem createMirror_eq (mirror : String) : createMirror mirror = addMirror mirror := rfl

theorem showFeatures_eq (interface : String) : showFeatures interface = askFeatures interface := rfl

/-- A tree's removal can be built where its device has a name. -/
theorem removeRoot_eq (h : device ≠ "") : removeRoot device = .ok (deleteRoot device) :=
  Draft.build_of_ne_add .delete rfl (by decide) rfl h

/-- So can its removal. -/
theorem removeRedirect_eq (h : interface ≠ "") :
    removeRedirect interface mirror = .ok [deleteIngress interface, deleteLink mirror] := by
  have hhook : qdisc [.operation .delete, .device interface, .target .ingress]
      = .ok (deleteIngress interface) :=
    Draft.build_of_ne_add .delete rfl (by decide) rfl h
  unfold removeRedirect
  rw [hhook]
  rfl

/-- The redirection can be built where the interface has a name. -/
theorem redirect_eq (h : interface ≠ "") :
    redirect interface mirror
      = .ok [bringUp mirror, addIngress interface, feedMirror interface mirror] := by
  have hhook : qdisc [.operation .add, .device interface, .target .ingress]
      = .ok (addIngress interface) :=
    Draft.build_of_add_qdisc rfl rfl rfl h rfl
  have hfeed : filter [.operation .add, .device interface, .target (.parent ingressHandle),
        .terms [.all], .extra ["action", "mirred", "egress", "redirect", "dev", mirror]]
      = .ok (feedMirror interface mirror) :=
    Draft.build_of_add_filter rfl rfl rfl h rfl
  unfold redirect
  rw [hhook, hfeed]
  rfl

/-- So can the question for its disciplines. -/
theorem showQdiscs_eq (h : device ≠ "") : showQdiscs device false = .ok (showOn device) :=
  Draft.build_of_ne_add .show rfl (by decide) rfl h

/-- A discipline's command can be built where its device has a name and its
handle is not that of a class. -/
theorem addQdisc_eq {q : Qdisc} (hd : q.device ≠ "") (hh : q.handle.isQdisc = true) :
    addQdisc q = .ok (installQdisc q) := by
  obtain ⟨device, parent, handle, kind, params⟩ := q
  have hcheck : (if handle.isQdisc = true then pure ()
      else throw (.classAsQdisc handle) : Except DraftError Unit) = .ok () := by
    rw [if_pos hh]
    rfl
  -- no parent is the ingress hook, so kind and parameters are always given
  have htarget : parent.target ≠ .ingress := by
    cases parent <;> exact fun h => nomatch h
  refine (Draft.build_of_add_qdisc rfl rfl rfl hd ?_).trans ?_
  · exact hcheck
  · simp [installQdisc, tc, Draft.words, Draft.qdiscWords, Draft.option, Draft.ofSettings,
      Draft.set, Draft.empty, TcObject.render, TcOperation.render, htarget,
      QdiscKind.render_eq_word]

/-- A filter's command can be built where its device has a name and it has a
term. -/
theorem addFilter_eq {f : Filter} (hd : f.device ≠ "") (ht : f.terms ≠ []) :
    addFilter f = .ok (installFilter f) := by
  obtain ⟨device, parent, priority, terms, flow⟩ := f
  cases terms with
  | nil => exact absurd rfl ht
  | cons t ts =>
      refine (Draft.build_of_add_filter rfl rfl rfl hd rfl).trans ?_
      simp [installFilter, tc, Draft.words, Draft.filterWords, Draft.option, Draft.ofSettings,
        Draft.set, Draft.empty, TcObject.render, TcOperation.render, TcTarget.words]

/-- Building commands one by one gives them all where each can be built. -/
theorem mapM_eq_ok {α β ε : Type} {build : α → Except ε β} {built : α → β} {as : List α}
    (h : ∀ a ∈ as, build a = .ok (built a)) : as.mapM build = .ok (as.map built) := by
  induction as with
  | nil => rfl
  | cons a as ih =>
      rw [List.mapM_cons, h a (List.mem_cons_self ..),
        ih fun b hb => h b (List.mem_cons_of_mem _ hb)]
      rfl

/-- A rule set's commands can be built where each rule's can. -/
theorem ofRules_eq {r : RuleSet}
    (hq : ∀ q ∈ r.qdiscs, q.device ≠ "" ∧ q.handle.isQdisc = true)
    (hf : ∀ f ∈ r.filters, f.device ≠ "" ∧ f.terms ≠ []) :
    ofRules r = .ok (installRules r) := by
  unfold ofRules
  rw [mapM_eq_ok fun q hmem => addQdisc_eq (hq q hmem).1 (hq q hmem).2,
    mapM_eq_ok fun f hmem => addFilter_eq (hf f hmem).1 (hf f hmem).2]
  rfl

end Command

end TrafficShaping
