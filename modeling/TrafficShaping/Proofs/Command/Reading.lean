/-
The commands that install rules, read back as the rules they install.

A rule set is installed by one command a rule, disciplines before filters, and
the first rule that no command can be built for ends the matter
(`ofRules_eq_findSome?`). A command is only a list of words. What it says can
be read off these words from left to right: every word stands where the word
before it announces it, so no device name, parameter or network is mistaken
for another.

What is read is what was written, up to one limit. A term is written as a text
and the text is taken apart at its spaces. A network without a space is one of
the pieces again. One that holds a space comes apart, and then no word of the
command has a space left, so whatever is read is not that network
(`read?_command_iff`).
-/
import Mathlib.Data.List.Forall2
import TrafficShaping.Proofs.Command.Words
import TrafficShaping.Proofs.Platform.Handles
import TrafficShaping.Proofs.Session.Laws
import TrafficShaping.Proofs.Text.Numerals
import TrafficShaping.Proofs.Text.Words
import TrafficShaping.Shaper.Step

namespace TrafficShaping

-- ==================================================== refused drafts

namespace Draft

variable {d : Draft} {device : String} {e : DraftError}

/-- A device that has a name passes for one. -/
theorem isEmpty_eq_false (h : device ≠ "") : device.isEmpty = false := by
  rw [Bool.eq_false_iff]
  intro hempty
  exact h (String.isEmpty_iff.1 hempty)

/-- What `checkQdisc` finds wrong is what adding a discipline fails with. -/
theorem build_of_refused_qdisc (hobject : d.object = .qdisc) (hop : d.operation = some .add)
    (hdevice : d.device = some device) (h : device ≠ "") (hqdisc : d.checkQdisc = .error e) :
    d.build = .error e := by
  have hcheck : d.check = .error e := by
    unfold check
    rw [hop, hdevice]
    simp only [isEmpty_eq_false h, hobject, hqdisc, if_true]
    rfl
  unfold build
  rw [hcheck]
  rfl

/-- What `checkFilter` finds wrong is what adding a filter fails with. -/
theorem build_of_refused_filter (hobject : d.object = .filter) (hop : d.operation = some .add)
    (hdevice : d.device = some device) (h : device ≠ "") (hfilter : d.checkFilter = .error e) :
    d.build = .error e := by
  have hcheck : d.check = .error e := by
    unfold check
    rw [hop, hdevice]
    simp only [isEmpty_eq_false h, hobject, hfilter, if_true]
    rfl
  unfold build
  rw [hcheck]
  rfl

end Draft

namespace Command

/-- A discipline cannot be added under the handle of a class. -/
theorem addQdisc_of_class {q : Qdisc} (hd : q.device ≠ "") (hh : q.handle.isQdisc = false) :
    addQdisc q = .error (.classAsQdisc q.handle) := by
  obtain ⟨device, parent, handle, kind, params⟩ := q
  have hcheck : (if handle.isQdisc = true then pure ()
      else throw (.classAsQdisc handle) : Except DraftError Unit)
        = .error (.classAsQdisc handle) := by
    rw [hh]
    rfl
  exact Draft.build_of_refused_qdisc rfl rfl rfl hd hcheck

/-- A filter cannot be added without a term. -/
theorem addFilter_of_nil {f : Filter} (hd : f.device ≠ "") (ht : f.terms = []) :
    addFilter f = .error .noTerm := by
  obtain ⟨device, parent, priority, terms, flow⟩ := f
  obtain rfl : terms = [] := ht
  exact Draft.build_of_refused_filter rfl rfl rfl hd rfl

/-- Building commands one by one gives them all, or else what is wrong with the
first that cannot be built. -/
theorem mapM_eq_findSome? {α β ε : Type} {build : α → Except ε β} {built : α → β}
    {wrong? : α → Option ε} (hbuilt : ∀ a, wrong? a = none → build a = .ok (built a))
    (hwrong : ∀ a e, wrong? a = some e → build a = .error e) (as : List α) :
    as.mapM build = (as.findSome? wrong?).elim (.ok (as.map built)) .error := by
  induction as with
  | nil => rfl
  | cons a as ih =>
      rw [List.mapM_cons, List.findSome?_cons]
      cases ha : wrong? a with
      | some e =>
          rw [hwrong a e ha]
          rfl
      | none =>
          rw [hbuilt a ha, ih]
          cases as.findSome? wrong? <;> rfl

end Command

-- ============================================================= rules

/-- A rule to install. -/
inductive Rule where
  | qdisc (q : Qdisc)
  | filter (f : Filter)
  deriving DecidableEq, Repr

/-- The rules of a rule set in the order they are installed. -/
def RuleSet.rules (r : RuleSet) : List Rule :=
  r.qdiscs.map Rule.qdisc ++ r.filters.map Rule.filter

/-- The rules tell disciplines and filters apart. -/
theorem RuleSet.parts_eq_of_rules_eq {r r' : RuleSet} (h : r.rules = r'.rules) :
    r.qdiscs = r'.qdiscs ∧ r.filters = r'.filters := by
  unfold rules at h
  constructor
  · have hqdiscs := congrArg (List.filterMap fun rule =>
      match rule with
      | Rule.qdisc q => some q
      | Rule.filter _ => none) h
    simpa [List.filterMap_append, List.filterMap_map, Function.comp_def] using hqdiscs
  · have hfilters := congrArg (List.filterMap fun rule =>
      match rule with
      | Rule.qdisc _ => none
      | Rule.filter f => some f) h
    simpa [List.filterMap_append, List.filterMap_map, Function.comp_def] using hfilters

/-- The network that a term names. -/
def MatchTerm.net? : MatchTerm → Option String
  | sourceNet net => some net
  | destinationNet net => some net
  | _ => none

namespace Rule

/-- The command that installs a rule, as far as it can be built. -/
def command? : Rule → Except DraftError Command
  | qdisc q => Command.addQdisc q
  | filter f => Command.addFilter f

/-- The command that installs a rule, written out. -/
def command : Rule → Command
  | qdisc q => Command.installQdisc q
  | filter f => Command.installFilter f

/-- What is wrong with a rule: a device without a name, a discipline under the
handle of a class, a filter without a term. -/
def offence? : Rule → Option DraftError
  | qdisc q =>
    if q.device = "" then some .emptyDevice
    else if q.handle.minor = 0 then none
    else some (.classAsQdisc q.handle)
  | filter f =>
    if f.device = "" then some .emptyDevice
    else if f.terms = [] then some .noTerm
    else none

/-- The networks that a rule names. -/
def nets : Rule → List String
  | qdisc _ => []
  | filter f => f.terms.filterMap MatchTerm.net?

/-- A rule with which nothing is wrong has its command. -/
theorem command?_of_sound (rule : Rule) (h : rule.offence? = none) :
    rule.command? = .ok rule.command := by
  cases rule with
  | qdisc q =>
      by_cases hdevice : q.device = ""
      · simp [offence?, hdevice] at h
      · have hminor : q.handle.minor = 0 := by simpa [offence?, hdevice] using h
        exact Command.addQdisc_eq hdevice (beq_iff_eq.2 hminor)
  | filter f =>
      by_cases hdevice : f.device = ""
      · simp [offence?, hdevice] at h
      · have hterms : f.terms ≠ [] := by simpa [offence?, hdevice] using h
        exact Command.addFilter_eq hdevice hterms

/-- A rule with which something is wrong has no command, and that is why. -/
theorem command?_of_offence (rule : Rule) (e : DraftError) (h : rule.offence? = some e) :
    rule.command? = .error e := by
  cases rule with
  | qdisc q =>
      obtain ⟨device, parent, handle, kind, params⟩ := q
      by_cases hdevice : device = ""
      · obtain rfl : e = .emptyDevice := by simpa [offence?, hdevice, eq_comm] using h
        subst hdevice
        rfl
      · by_cases hminor : handle.minor = 0
        · simp [offence?, hdevice, hminor] at h
        · obtain rfl : e = .classAsQdisc handle := by
            simpa [offence?, hdevice, hminor, eq_comm] using h
          exact Command.addQdisc_of_class hdevice (beq_eq_false_iff_ne.2 hminor)
  | filter f =>
      obtain ⟨device, parent, priority, terms, flow⟩ := f
      by_cases hdevice : device = ""
      · obtain rfl : e = .emptyDevice := by simpa [offence?, hdevice, eq_comm] using h
        subst hdevice
        rfl
      · by_cases hterms : terms = []
        · obtain rfl : e = .noTerm := by simpa [offence?, hdevice, hterms, eq_comm] using h
          exact Command.addFilter_of_nil hdevice hterms
        · simp [offence?, hdevice, hterms] at h

/-- Nothing is wrong with a rule that has a device with a name and is a
discipline under a handle of its own or a filter with a term. -/
theorem offence?_eq_none_iff (rule : Rule) :
    rule.offence? = none ↔ match rule with
      | qdisc q => q.device ≠ "" ∧ q.handle.minor = 0
      | filter f => f.device ≠ "" ∧ f.terms ≠ [] := by
  cases rule with
  | qdisc q => by_cases hdevice : q.device = "" <;> simp [offence?, hdevice]
  | filter f => by_cases hdevice : f.device = "" <;> simp [offence?, hdevice]

end Rule

/-- A rule set's commands are those of its rules. -/
theorem Command.ofRules_eq_mapM (r : RuleSet) : ofRules r = r.rules.mapM Rule.command? := by
  unfold ofRules RuleSet.rules
  rw [List.mapM_append, List.mapM_map, List.mapM_map]
  rfl

/-- A rule set has a command for every rule, or else what is wrong with the
first rule that has none. -/
theorem Command.ofRules_eq_findSome? (r : RuleSet) :
    ofRules r
      = (r.rules.findSome? Rule.offence?).elim (.ok (r.rules.map Rule.command)) .error := by
  rw [ofRules_eq_mapM]
  exact mapM_eq_findSome? Rule.command?_of_sound Rule.command?_of_offence r.rules

-- ======================================================== the reader

/-- The kind that a word names. -/
def QdiscKind.read? : String → Option QdiscKind
  | "prio" => some .prio
  | "tbf" => some .tbf
  | "netem" => some .netem
  | _ => none

/-- The number below 65536 that a word is the decimal numeral of. -/
def readNumber? (word : String) : Option UInt16 := (Text.readPort word.toList).toOption

/-- One more term in front of those that are read after it. -/
def termBefore? (term? : Option MatchTerm) (later? : Option (List MatchTerm × Handle)) :
    Option (List MatchTerm × Handle) := do
  let term ← term?
  let (terms, flow) ← later?
  return (term :: terms, flow)

/-- Reads a filter's terms and the class after them, to the last word. -/
def readTerms? : List String → Option (List MatchTerm × Handle)
  | "match" :: "ip" :: "src" :: net :: words =>
    termBefore? (some (.sourceNet net)) (readTerms? words)
  | "match" :: "ip" :: "dst" :: net :: words =>
    termBefore? (some (.destinationNet net)) (readTerms? words)
  | "match" :: "ip" :: "sport" :: port :: "0xffff" :: words =>
    termBefore? ((readNumber? port).map .sourcePort) (readTerms? words)
  | "match" :: "ip" :: "dport" :: port :: "0xffff" :: words =>
    termBefore? ((readNumber? port).map .destinationPort) (readTerms? words)
  | "match" :: "u32" :: "0" :: "0" :: words =>
    termBefore? (some .all) (readTerms? words)
  | ["flowid", flow] => (Handle.read? flow).map fun h => ([], h)
  | _ => none

/-- Reads a discipline from what follows its device. -/
def Qdisc.read? (device : String) : List String → Option Qdisc
  | "root" :: "handle" :: handle :: kind :: params => do
    return ⟨device, .root, ← Handle.read? handle, ← QdiscKind.read? kind, params⟩
  | "parent" :: parent :: "handle" :: handle :: kind :: params => do
    return ⟨device, .handle (← Handle.read? parent), ← Handle.read? handle,
      ← QdiscKind.read? kind, params⟩
  | _ => none

/-- Reads a filter from what follows its device. -/
def Filter.read? (device : String) : List String → Option Filter
  | "parent" :: parent :: "protocol" :: "ip" :: "prio" :: priority :: "u32" :: words => do
    let (terms, flow) ← readTerms? words
    return ⟨device, ← Handle.read? parent, ← readNumber? priority, terms, flow⟩
  | _ => none

/-- The rule that a command's words install. -/
def Rule.read? : List String → Option Rule
  | "tc" :: "qdisc" :: "add" :: "dev" :: device :: words =>
    (Qdisc.read? device words).map .qdisc
  | "tc" :: "filter" :: "add" :: "dev" :: device :: words =>
    (Filter.read? device words).map .filter
  | _ => none

-- ============================================================= spaces

namespace Text

theorem space_not_mem_repr (n : Nat) : ' ' ∉ n.repr.toList := by
  intro hmem
  rw [Nat.toList_repr] at hmem
  exact absurd (Nat.isDigit_of_mem_toDigits (by decide) (by decide) hmem) (by decide)

end Text

namespace Draft

/-- The words of a term have no space in them. -/
theorem space_not_mem_termWords {t : MatchTerm} {word : String} (h : word ∈ termWords t) :
    ' ' ∉ word.toList := by
  rcases List.mem_cons.1 h with rfl | hpiece
  · decide
  · obtain ⟨piece, hmem, rfl⟩ := List.mem_map.1 hpiece
    rw [String.toList_ofList]
    exact fun hspace => absurd (Text.not_of_mem_splitOnP hmem _ hspace) (by decide)

/-- A term that is written as words a space apart comes apart as these
words. -/
theorem termWords_of_intercalate {t : MatchTerm} {ws : List String} (hne : ws ≠ [])
    (hws : ∀ w ∈ ws, ' ' ∉ w.toList) (h : t.render = " ".intercalate ws) :
    termWords t = "match" :: ws := by
  have hlists : ∀ cs ∈ ws.map String.toList, ' ' ∉ cs := by
    intro cs hcs
    obtain ⟨w, hw, rfl⟩ := List.mem_map.1 hcs
    exact hws w hw
  have hpieces : t.render.toList.splitOnP (· == ' ') = ws.map String.toList := by
    rw [h, String.toList_intercalate, ← List.splitOn_eq_splitOnP]
    exact List.splitOn_intercalate ' ' hlists (by simpa using hne)
  unfold termWords
  rw [hpieces, List.map_map]
  simp [Function.comp_def]

end Draft

namespace MatchTerm

/-- The words of a term after the first. -/
def spelling : MatchTerm → List String
  | sourceNet net => ["ip", "src", net]
  | destinationNet net => ["ip", "dst", net]
  | sourcePort port => ["ip", "sport", port.toNat.repr, "0xffff"]
  | destinationPort port => ["ip", "dport", port.toNat.repr, "0xffff"]
  | all => ["u32", "0", "0"]

/-- A term is rendered as its words, a space apart. -/
theorem render_eq_intercalate (t : MatchTerm) : t.render = " ".intercalate t.spelling := by
  cases t <;> simp [render, spelling, String.intercalate_cons_cons, String.intercalate_singleton,
    String.append_assoc, ← String.toList_inj]

/-- A term comes apart as it is spelled where its network holds no space. -/
theorem termWords_eq_spelling {t : MatchTerm} (h : ∀ net, t.net? = some net → ' ' ∉ net.toList) :
    Draft.termWords t = "match" :: t.spelling := by
  refine Draft.termWords_of_intercalate ?_ ?_ (render_eq_intercalate t)
  · cases t <;> simp [spelling]
  · cases t with
    | sourceNet net => simpa [spelling] using h net rfl
    | destinationNet net => simpa [spelling] using h net rfl
    | sourcePort port => simpa [spelling] using Text.space_not_mem_repr port.toNat
    | destinationPort port => simpa [spelling] using Text.space_not_mem_repr port.toNat
    | all => simp [spelling]

end MatchTerm

-- ===================================================== reading back

/-- A number is read from its numeral. -/
theorem readNumber?_repr (n : UInt16) : readNumber? n.toNat.repr = some n := by
  unfold readNumber?
  rw [Text.readPort_repr]
  rfl

/-- A kind is read from its word. -/
theorem QdiscKind.read?_word (k : QdiscKind) : read? k.word = some k := by
  cases k <;> rfl

/-- What holds of the term in front and of the terms after it holds of all
that are read. -/
theorem forall_mem_of_termBefore? {P : MatchTerm → Prop} {term? : Option MatchTerm}
    {later? : Option (List MatchTerm × Handle)} {ts : List MatchTerm} {flow : Handle}
    (h : termBefore? term? later? = some (ts, flow)) (hfront : ∀ t, term? = some t → P t)
    (hlater : ∀ us, later? = some (us, flow) → ∀ t ∈ us, P t) : ∀ t ∈ ts, P t := by
  cases term? with
  | none => cases h
  | some u =>
      cases later? with
      | none => cases h
      | some r =>
          obtain ⟨us, flow'⟩ := r
          obtain ⟨rfl, rfl⟩ := Prod.mk.inj (Option.some.inj h)
          intro t ht
          rcases List.mem_cons.1 ht with rfl | hmem
          · exact hfront t rfl
          · exact hlater us rfl t hmem

/-- A spelt term in front is the first term that is read. -/
theorem readTerms?_spelling (t : MatchTerm) (words : List String) :
    readTerms? ("match" :: t.spelling ++ words) = termBefore? (some t) (readTerms? words) := by
  cases t with
  | sourceNet net => rfl
  | destinationNet net => rfl
  | sourcePort port =>
      show termBefore? ((readNumber? port.toNat.repr).map .sourcePort) _ = _
      rw [readNumber?_repr]
      rfl
  | destinationPort port =>
      show termBefore? ((readNumber? port.toNat.repr).map .destinationPort) _ = _
      rw [readNumber?_repr]
      rfl
  | all => rfl

/-- Spelt terms and the class after them are read back. -/
theorem readTerms?_of_spelled {ts : List MatchTerm} {flow : Handle}
    (h : ∀ t ∈ ts, ∀ net, t.net? = some net → ' ' ∉ net.toList) :
    readTerms? (ts.flatMap Draft.termWords ++ ["flowid", flow.render]) = some (ts, flow) := by
  induction ts with
  | nil => simp [readTerms?, Handle.read?_render]
  | cons t ts ih =>
      rw [List.flatMap_cons, MatchTerm.termWords_eq_spelling (h t (List.mem_cons_self ..)),
        List.append_assoc, readTerms?_spelling, ih fun u hu => h u (List.mem_cons_of_mem _ hu)]
      rfl

/-- The networks that are read are among the words. -/
theorem net_mem_of_readTerms? {words : List String} {ts : List MatchTerm} {flow : Handle}
    (h : readTerms? words = some (ts, flow)) :
    ∀ t ∈ ts, ∀ net, t.net? = some net → net ∈ words := by
  -- along the reader: a network is the word where its term stands, or is found
  -- among the words that are left for the later terms
  fun_induction readTerms? words generalizing ts flow with
  | case1 head words ih =>
      refine forall_mem_of_termBefore? h ?_ fun us hus t ht net hnet => ?_
      · rintro t ⟨⟩ net ⟨⟩
        simp
      · simp [ih hus t ht net hnet]
  | case2 head words ih =>
      refine forall_mem_of_termBefore? h ?_ fun us hus t ht net hnet => ?_
      · rintro t ⟨⟩ net ⟨⟩
        simp
      · simp [ih hus t ht net hnet]
  | case3 port words ih =>
      refine forall_mem_of_termBefore? h ?_ fun us hus t ht net hnet => ?_
      · intro t ht net hnet
        obtain ⟨n, -, rfl⟩ := Option.map_eq_some_iff.1 ht
        cases hnet
      · simp [ih hus t ht net hnet]
  | case4 port words ih =>
      refine forall_mem_of_termBefore? h ?_ fun us hus t ht net hnet => ?_
      · intro t ht net hnet
        obtain ⟨n, -, rfl⟩ := Option.map_eq_some_iff.1 ht
        cases hnet
      · simp [ih hus t ht net hnet]
  | case5 words ih =>
      refine forall_mem_of_termBefore? h ?_ fun us hus t ht net hnet => ?_
      · rintro t ⟨⟩ net ⟨⟩
      · simp [ih hus t ht net hnet]
  | case6 word =>
      obtain ⟨flow', -, heq⟩ := Option.map_eq_some_iff.1 h
      obtain ⟨rfl, -⟩ := Prod.mk.inj heq
      intro t ht
      cases ht
  | case7 => cases h

-- ================================================ rules read back

namespace Handle

/-- A handle is written without a space. -/
theorem space_not_mem_render (h : Handle) : ' ' ∉ h.render.toList := by
  have hdigits : ∀ n, ' ' ∉ Nat.toDigits 16 n := by
    intro n hmem
    have hdigit := Text.hexValue?_isSome_of_read (Text.readHexDigits?_toDigits n) ' ' hmem
    exact absurd hdigit (by decide)
  unfold render Text.hex
  split <;> simp [hdigits]

end Handle

namespace Rule

/-- A discipline is read from the command that installs it. -/
theorem read?_installQdisc (q : Qdisc) :
    read? (Command.installQdisc q).argv = some (.qdisc q) := by
  obtain ⟨device, parent, handle, kind, params⟩ := q
  cases parent with
  | root =>
      show (Qdisc.read? device ("root" :: "handle" :: handle.render :: kind.word :: params)).map _
        = _
      simp [Qdisc.read?, Handle.read?_render, QdiscKind.read?_word]
  | handle p =>
      show (Qdisc.read? device
        ("parent" :: p.render :: "handle" :: handle.render :: kind.word :: params)).map _ = _
      simp [Qdisc.read?, Handle.read?_render, QdiscKind.read?_word]

/-- Whether a filter is read back is decided by its terms and its class. -/
theorem read?_installFilter_iff (f : Filter) :
    read? (Command.installFilter f).argv = some (.filter f)
      ↔ readTerms? (f.terms.flatMap Draft.termWords ++ ["flowid", f.flow.render])
          = some (f.terms, f.flow) := by
  obtain ⟨device, parent, priority, terms, flow⟩ := f
  show (Filter.read? device ("parent" :: parent.render :: "protocol" :: "ip" :: "prio"
      :: priority.toNat.repr :: "u32"
      :: (terms.flatMap Draft.termWords ++ ["flowid", flow.render]))).map _ = _ ↔ _
  simp only [Filter.read?, Handle.read?_render, readNumber?_repr]
  cases readTerms? (terms.flatMap Draft.termWords ++ ["flowid", flow.render]) with
  | none => simp
  | some r =>
      obtain ⟨ts, flow'⟩ := r
      simp

/-- A rule is read back from its command exactly when no network in it holds a
space. -/
theorem read?_command_iff (rule : Rule) :
    read? rule.command.argv = some rule ↔ ∀ net ∈ rule.nets, ' ' ∉ net.toList := by
  cases rule with
  | qdisc q => exact iff_of_true (read?_installQdisc q) fun net hnet => nomatch hnet
  | filter f =>
      refine (read?_installFilter_iff f).trans ⟨fun h => ?_, fun h => ?_⟩
      · intro net hnet
        obtain ⟨t, ht, hname⟩ := List.mem_filterMap.1 hnet
        -- whatever is read as a network is a word, and words hold no space
        have hword := net_mem_of_readTerms? h t ht net hname
        rcases List.mem_append.1 hword with hterm | hlast
        · obtain ⟨u, -, hmem⟩ := List.mem_flatMap.1 hterm
          exact Draft.space_not_mem_termWords hmem
        · have hcases : net = "flowid" ∨ net = f.flow.render := by simpa using hlast
          rcases hcases with rfl | rfl
          · decide
          · exact Handle.space_not_mem_render f.flow
      · exact readTerms?_of_spelled fun t ht net hname =>
          h net (List.mem_filterMap.2 ⟨t, ht, hname⟩)

end Rule

namespace Command

-- ================================================== whole rule sets

variable {r : RuleSet} {cs : List Command}

/-- The rules of a set are its disciplines and its filters. -/
theorem forall_mem_rules {P : Rule → Prop} :
    (∀ rule ∈ r.rules, P rule)
      ↔ (∀ q ∈ r.qdiscs, P (.qdisc q)) ∧ ∀ f ∈ r.filters, P (.filter f) := by
  unfold RuleSet.rules
  simp only [List.forall_mem_append, List.forall_mem_map]

/-- There are commands exactly where nothing is wrong with any rule. -/
theorem exists_ofRules_iff :
    (∃ cs, ofRules r = .ok cs) ↔ ∀ rule ∈ r.rules, rule.offence? = none := by
  rw [ofRules_eq_findSome?, ← List.findSome?_eq_none_iff]
  cases r.rules.findSome? Rule.offence? with
  | none => exact iff_of_true ⟨_, rfl⟩ rfl
  | some e =>
      refine iff_of_false ?_ (fun h => nomatch h)
      rintro ⟨cs, hcs⟩
      cases hcs

/-- The commands, where there are any, are those of the rules. -/
theorem eq_map_of_ofRules (h : ofRules r = .ok cs) : cs = r.rules.map Rule.command := by
  have hnone : r.rules.findSome? Rule.offence? = none :=
    List.findSome?_eq_none_iff.2 (exists_ofRules_iff.1 ⟨cs, h⟩)
  rw [ofRules_eq_findSome?, hnone] at h
  exact (Except.ok.inj h).symm

/-- Where no network holds a space, the commands tell the rules. -/
theorem rules_eq_of_ofRules_eq {r' : RuleSet} (h : ofRules r = .ok cs) (h' : ofRules r' = .ok cs)
    (hnets : ∀ rule ∈ r.rules, ∀ net ∈ rule.nets, ' ' ∉ net.toList)
    (hnets' : ∀ rule ∈ r'.rules, ∀ net ∈ rule.nets, ' ' ∉ net.toList) :
    r.rules = r'.rules := by
  have hread : ∀ rs : List Rule, (∀ rule ∈ rs, ∀ net ∈ rule.nets, ' ' ∉ net.toList) →
      (rs.map Rule.command).map (fun c => Rule.read? c.argv) = rs.map some := by
    intro rs hrs
    rw [List.map_map]
    exact List.map_congr_left fun rule hmem => (Rule.read?_command_iff rule).2 (hrs rule hmem)
  have hsame : r.rules.map some = r'.rules.map some := by
    rw [← hread _ hnets, ← hread _ hnets', ← eq_map_of_ofRules h, ← eq_map_of_ofRules h']
  exact (List.map_inj_right fun _ _ => Option.some.inj).1 hsame

/-- The commands of a rule set exist exactly where every discipline has a
device with a name and a handle of its own and every filter has a device with
a name and a term; where they do not, a session that needs them fails over
what is wrong with the first bad rule, having handed over nothing. Where they
do, there is one for each rule, in order, and the rule is read back from it
exactly when no network in it holds a space, as that of a discipline always
is. So without such networks the commands tell the rule set. -/
theorem ofRules_reads_back (r : RuleSet) :
    ((∃ cs, ofRules r = .ok cs)
        ↔ (∀ q ∈ r.qdiscs, q.device ≠ "" ∧ q.handle.minor = 0)
          ∧ ∀ f ∈ r.filters, f.device ≠ "" ∧ f.terms ≠ [])
      ∧ ((∀ cs, ofRules r ≠ .ok cs) → ∃ e, r.rules.findSome? Rule.offence? = some e
          ∧ ∀ runner, (Session.built (ofRules r)).under runner
              = (.error (.invalidConfig e.message), .empty))
      ∧ (∀ cs, ofRules r = .ok cs → List.Forall₂ (fun rule c => rule.command? = .ok c
          ∧ (Rule.read? c.argv = some rule ↔ ∀ net ∈ rule.nets, ' ' ∉ net.toList)) r.rules cs)
      ∧ ∀ r' cs, ofRules r = .ok cs → ofRules r' = .ok cs →
        (∀ rule ∈ r.rules ++ r'.rules, ∀ net ∈ rule.nets, ' ' ∉ net.toList) →
        r.qdiscs = r'.qdiscs ∧ r.filters = r'.filters := by
  refine ⟨?_, fun hnone => ?_, fun cs hcs => ?_, fun r' cs hcs hcs' hnets => ?_⟩
  · rw [exists_ofRules_iff, forall_mem_rules]
    simp only [Rule.offence?_eq_none_iff]
  · cases hfirst : r.rules.findSome? Rule.offence? with
    | none => exact absurd (by rw [ofRules_eq_findSome?, hfirst]; rfl) (hnone _)
    | some e =>
        refine ⟨e, rfl, fun runner => ?_⟩
        rw [ofRules_eq_findSome?, hfirst]
        rfl
  · rw [eq_map_of_ofRules hcs, List.forall₂_map_right_iff, List.forall₂_same]
    intro rule hmem
    have hsound : rule.offence? = none := exists_ofRules_iff.1 ⟨cs, hcs⟩ rule hmem
    exact ⟨Rule.command?_of_sound rule hsound, Rule.read?_command_iff rule⟩
  · refine RuleSet.parts_eq_of_rules_eq (rules_eq_of_ofRules_eq hcs hcs' ?_ ?_)
    · exact fun rule hmem => hnets rule (List.mem_append_left _ hmem)
    · exact fun rule hmem => hnets rule (List.mem_append_right _ hmem)

/-- A network that is spelt like the end of one term and the whole of another
is read back as two terms. -/
theorem ofRules_reads_back_split_network :
    let q : Qdisc := ⟨"my dev", .handle ⟨0xab, 3⟩, .qdisc 0xffff, .netem, ["loss", "", "5 %"]⟩
    let f : Filter := ⟨"eth0", .qdisc 1, 65535,
      [.sourceNet "10.0.0.1 match ip dst 10.0.0.2", .sourcePort 22], ⟨1, 3⟩⟩
    let r : RuleSet := ⟨.outbound, "eth0", [q], [f]⟩
    ∃ cs, ofRules r = .ok cs
      ∧ List.Forall₂ (fun rule c => rule.command? = .ok c
          ∧ (Rule.read? c.argv = some rule ↔ ∀ net ∈ rule.nets, ' ' ∉ net.toList)) r.rules cs
      ∧ cs.map (fun c => Rule.read? c.argv) = [some (.qdisc q), some (.filter { f with
          terms := [.sourceNet "10.0.0.1", .destinationNet "10.0.0.2", .sourcePort 22] })] := by
  intro q f r
  obtain ⟨cs, hcs⟩ : ∃ cs, ofRules r = .ok cs :=
    (ofRules_reads_back r).1.2 (by decide)
  refine ⟨cs, hcs, (ofRules_reads_back r).2.2.1 cs hcs, ?_⟩
  rw [eq_map_of_ofRules hcs]
  decide +kernel

end Command

end TrafficShaping
