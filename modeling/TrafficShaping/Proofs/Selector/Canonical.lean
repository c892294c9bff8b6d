/-
Selectors and their written forms.

A selector can be told from its text only when its host could have been read
from one: it is not empty, holds no star, and no blank stands at its ends.
Such selectors are the canonical ones. A canonical selector is read back from
its text, and without a warning (`read_render`); reading gives canonical
selectors only (`parse_canonical`). So the text of a selector that is not
canonical stands for another one, and reading once more changes nothing.

The host may hold colons and blanks, and may be the word `none`: a written
selector always has a colon after its host, and the last colon is the one
that counts.
-/
import TrafficShaping.Proofs.Text.Numerals
import TrafficShaping.Proofs.Text.Trimming
import TrafficShaping.Selector

namespace TrafficShaping.Selector

-- ==================================================== statement vocabulary

/-- The hosts that a text can name. -/
def IsHost (host : String) : Prop :=
  host ≠ "" ∧ '*' ∉ host.toList ∧ Text.Trimmed host.toList

instance (host : String) : Decidable (IsHost host) :=
  inferInstanceAs (Decidable (_ ∧ _))

/-- The selectors that a text can stand for. -/
def Canonical : Selector → Prop
  | .nothing => True
  | .matching network _ => ∀ host ∈ network, IsHost host

instance : (s : Selector) → Decidable s.Canonical
  | .nothing => inferInstanceAs (Decidable True)
  | .matching network _ => inferInstanceAs (Decidable (∀ host ∈ network, IsHost host))

-- =============================================================== halves

variable {cs ds : List Char}

/-- A half that says something is without stars and without blanks at its
ends. -/
theorem half?_eq_some (h : half? cs = some ds) :
    ds ≠ [] ∧ '*' ∉ ds ∧ Text.Trimmed ds := by
  unfold half? at h
  simp only [List.isEmpty_iff] at h
  split at h
  · cases h
  · next hne =>
    obtain rfl := Option.some.inj h
    refine ⟨hne, ?_, Text.trimmed_trim _⟩
    intro hstar
    have hkept := Text.mem_of_mem_trim hstar
    simp at hkept

theorem half?_eq_self (hne : cs ≠ []) (hstar : '*' ∉ cs) (htrim : Text.Trimmed cs) :
    half? cs = some cs := by
  have hkept : cs.filter (· != '*') = cs := by
    rw [List.filter_eq_self]
    intro c hc
    rw [bne_iff_ne]
    rintro rfl
    exact hstar hc
  unfold half?
  rw [hkept, Text.trim_eq_self_iff.2 htrim]
  simp [hne]

-- ============================================================== writing

/-- The text of a half that may be absent. -/
def written (half : Option (List Char)) : List Char := half.getD ['*']

/-- The text of a port. -/
def portText (port : UInt16) : List Char := port.toNat.repr.toList

variable {half : Option (List Char)}

theorem written_ne_nil (h : ∀ cs ∈ half, cs ≠ []) : written half ≠ [] := by
  cases half with
  | none => exact List.cons_ne_nil _ _
  | some cs => exact h cs rfl

theorem trimmed_written (h : ∀ cs ∈ half, Text.Trimmed cs) : Text.Trimmed (written half) := by
  cases half with
  | none => decide
  | some cs => exact h cs rfl

/-- A half is read back from what is written for it. -/
theorem half?_written (h : ∀ cs ∈ half, cs ≠ [] ∧ '*' ∉ cs ∧ Text.Trimmed cs) :
    half? (written half) = half := by
  cases half with
  | none => rfl
  | some cs =>
      obtain ⟨hne, hstar, htrim⟩ := h cs rfl
      exact half?_eq_self hne hstar htrim

theorem isDigit_of_mem_portText {port : UInt16} {c : Char} (h : c ∈ portText port) :
    c.isDigit = true := by
  unfold portText at h
  rw [Nat.toList_repr] at h
  exact Nat.isDigit_of_mem_toDigits (by decide) (by decide) h

theorem not_mem_portText {port : UInt16} {c : Char} (h : c.isDigit = false) :
    c ∉ portText port := by
  intro hmem
  rw [isDigit_of_mem_portText hmem] at h
  cases h

/-- Ports are written in digits, so the text of one can stand as a half. -/
theorem portText_isHalf (port : UInt16) :
    portText port ≠ [] ∧ '*' ∉ portText port ∧ Text.Trimmed (portText port) := by
  refine ⟨?_, not_mem_portText (by decide), ?_⟩
  · unfold portText
    rw [Nat.toList_repr]
    exact Nat.toDigits_ne_nil
  · exact Text.trimmed_of_forall fun c hc =>
      Text.isBlank_of_isDigit (isDigit_of_mem_portText hc)

/-- A selector is written as its two halves around a colon. -/
theorem toList_render (network : Option String) (port : Option UInt16) :
    (matching network port).render.toList
      = written (network.map String.toList) ++ ':' :: written (port.map portText) := by
  cases network <;> cases port <;> simp [render, written, portText]

/-- The last colon of a written selector is the one before the port. -/
theorem halves_written (network : List Char) (port : Option UInt16) :
    halves (network ++ ':' :: written (port.map portText))
      = (network, some (written (port.map portText))) := by
  have hcolon : ':' ∉ written (port.map portText) := by
    cases port with
    | none => decide
    | some p => exact not_mem_portText (by decide)
  unfold halves
  rw [Text.splitAtLast?_eq_some_iff.2 ⟨rfl, hcolon⟩]

-- ============================================================== reading

/-- A canonical selector is read back, and there is nothing to warn about. -/
theorem read_render {s : Selector} (h : s.Canonical) : read s.render = (s, none) := by
  cases s with
  | nothing => rfl
  | matching network port =>
      have hhost : ∀ cs ∈ network.map String.toList,
          cs ≠ [] ∧ '*' ∉ cs ∧ Text.Trimmed cs := by
        intro cs hcs
        obtain ⟨host, hnetwork, rfl⟩ := Option.map_eq_some_iff.1 hcs
        obtain ⟨hne, hstar, htrim⟩ := h host hnetwork
        exact ⟨fun hnil => hne (String.toList_eq_nil_iff.1 hnil), hstar, htrim⟩
      have hport : ∀ cs ∈ port.map portText, cs ≠ [] ∧ '*' ∉ cs ∧ Text.Trimmed cs := by
        intro cs hcs
        obtain ⟨p, -, rfl⟩ := Option.map_eq_some_iff.1 hcs
        exact portText_isHalf p
      have htrim : Text.trim (matching network port).render.toList
          = written (network.map String.toList) ++ ':' :: written (port.map portText) := by
        rw [toList_render, Text.trim_eq_self_iff]
        exact Text.trimmed_append_cons (written_ne_nil fun cs hcs => (hhost cs hcs).1)
          (written_ne_nil fun cs hcs => (hport cs hcs).1)
          (trimmed_written fun cs hcs => (hhost cs hcs).2.2)
          (trimmed_written fun cs hcs => (hport cs hcs).2.2) ':'
      -- a written selector has a colon, and the word for nothing has none
      have hword : written (network.map String.toList) ++ ':' :: written (port.map portText)
          ≠ "none".toList := by
        intro heq
        have hmem : ':' ∈ "none".toList := by
          rw [← heq]
          simp
        exact absurd hmem (by decide)
      unfold read
      simp only [htrim, if_neg hword, halves_written, Option.bind_some, half?_written hhost,
        half?_written hport]
      cases port with
      | none => simp
      | some p =>
          have hread : Text.readPort (portText p) = .ok p := Text.readPort_repr p
          simp [hread]

theorem isHost_of_half? (h : half? cs = some ds) : IsHost (String.ofList ds) := by
  obtain ⟨hne, hstar, htrim⟩ := half?_eq_some h
  unfold IsHost
  rw [String.toList_ofList]
  exact ⟨fun hnil => hne (by simpa using hnil), hstar, htrim⟩

/-- Whatever a text is, what it is read as is canonical. -/
theorem parse_canonical (raw : String) : (parse raw).Canonical := by
  have hnetwork : ∀ front port, Canonical (.matching ((half? front).map String.ofList) port) := by
    intro front port host hhost
    obtain ⟨ds, hds, rfl⟩ := Option.map_eq_some_iff.1 hhost
    exact isHost_of_half? hds
  unfold parse read
  simp only []
  split
  · trivial
  · split
    · exact hnetwork _ _
    · split
      · exact hnetwork _ _
      · exact hnetwork _ _

/-- A canonical selector is read back from its text. -/
theorem parse_render {s : Selector} (h : s.Canonical) : parse s.render = s := by
  unfold parse
  rw [read_render h]

-- ======================================================== the statement

/-- A selector is read back from its text exactly when it is canonical. All
that reading gives is canonical, so that reading a text, writing what was read
and reading again gives the same once more, without a warning; and no two
canonical selectors have one text. -/
theorem parse_render_eq_self_iff :
    (∀ s : Selector, parse s.render = s ↔ s.Canonical)
      ∧ (∀ raw, (parse raw).Canonical)
      ∧ (∀ raw, parse (parse raw).render = parse raw)
      ∧ (∀ s t : Selector, s.Canonical → t.Canonical → s.render = t.render → s = t)
      ∧ ∀ raw, (read (parse raw).render).2 = none := by
  refine ⟨fun s => ⟨fun h => ?_, parse_render⟩, parse_canonical,
    fun raw => parse_render (parse_canonical raw), fun s t hs ht heq => ?_, fun raw => ?_⟩
  · rw [← h]
    exact parse_canonical s.render
  · rw [← parse_render hs, ← parse_render ht, heq]
  · rw [read_render (parse_canonical raw)]

/-- A host with colons and a blank in it is told from the host up to its last
colon, though the texts of both end in a port. -/
theorem parse_render_eq_self_of_colons :
    let s : Selector := .matching (some "fe80::1 x") (some 80)
    let t : Selector := .matching (some "fe80:") (some 180)
    s.Canonical ∧ t.Canonical ∧ parse s.render = s ∧ (s.render = t.render → s = t) := by
  intro s t
  have hs : s.Canonical := by decide
  have ht : t.Canonical := by decide
  exact ⟨hs, ht, (parse_render_eq_self_iff.1 s).2 hs, parse_render_eq_self_iff.2.2.2.1 s t hs ht⟩

end TrafficShaping.Selector
