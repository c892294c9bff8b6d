/-
Texts on which reading a profile breaks off (`ofText_eq_cutCharacter_iff`).

Where a port should stand and something with a quote or a bracket stands, its
first two bytes are looked at, and a character of more than one byte behind the
quote or bracket is cut in two. That is the only place, so which texts are
meant can be said on their trees: what the fields take that come first, and a
list for the ports in which such a value is the first to be no port.

The argument goes along the reader. At each step it is known what is taken and
what breaks off, and as the first error ends the reading, the two settle where
a list of members or items breaks off.
-/
import Mathlib.Data.List.Forall2
import TrafficShaping.Proofs.Profile.Fields

namespace TrafficShaping.Profile

open Json5

-- ==================================================== statement vocabulary

/-- The character behind the quote or bracket that opens a value. -/
def next? : Tree → Option Char
  | .string next _ => some next
  | .array next _ => some next
  | .object next _ => some next
  | _ => none

/-- A value is a port: a number, and not too large for floating point. -/
def IsPort (t : Tree) : Prop := ∃ n x, t = .number n ∧ n.toBinary64 = .ok x

/-- The first of these values that is no port has its second byte inside a
character. -/
def CutAmong (items : List Tree) : Prop :=
  ∃ before item after next, items = before ++ item :: after ∧ (∀ t ∈ before, IsPort t)
    ∧ next? item = some next ∧ 1 < next.utf8Size

/-- A field takes a value. -/
inductive Takes : Field → Tree → Prop
  | null {field : Field} (h : field ≠ .description) : Takes field .null
  | text {field : Field} {next : Char} {pieces : List Piece} {cs : List Char}
    (hports : field ≠ .exclude) (hflag : field ≠ .reorder) (h : decode pieces = .ok cs) :
    Takes field (.string next pieces)
  | flag {b : Bool} : Takes .reorder (.bool b)
  | ports {next : Char} {items : List Tree} (h : ∀ t ∈ items, IsPort t) :
    Takes .exclude (.array next items)

/-- A member has the name of a field and a value that the field takes. -/
def IsMember (field : Field) (m : List Piece × Tree) : Prop :=
  field.spelledBy m.1 = true ∧ Takes field m.2

/-- In a tree the list of the ports breaks reading off, and nothing before it is
wrong: there stand members of different fields, or the items of the fields that
come first. -/
inductive Breaks : Tree → Prop
  | object {next cut : Char} {fields : List Field} {before after : List (List Piece × Tree)}
    {key : List Piece} {items : List Tree} (hbefore : List.Forall₂ IsMember fields before)
    (honce : (.exclude :: fields).Nodup) (hkey : Field.exclude.spelledBy key = true)
    (hcut : CutAmong items) : Breaks (.object next (before ++ (key, .array cut items) :: after))
  | array {next cut : Char} {fields later : List Field} {before after items : List Tree}
    (hfields : Field.all = fields ++ .exclude :: later)
    (hbefore : List.Forall₂ Takes fields before) (hcut : CutAmong items) :
    Breaks (.array next (before ++ .array cut items :: after))

/-- A text describes a tree that breaks reading off. -/
def BreaksOff (text : String) : Prop := ∃ tree, read? text.toList = some tree ∧ Breaks tree

-- ======================================================== computations

section Computations

variable {ε α β : Type} {e : ε}

/-- Of two steps, the first fails or it is through and the second fails. -/
theorem bind_eq_error_iff {x : Except ε α} {f : α → Except ε β} :
    (x >>= f) = .error e ↔ x = .error e ∨ ∃ a, x = .ok a ∧ f a = .error e := by
  cases x with
  | error e' => simp [bind, Except.bind]
  | ok a => simp [bind, Except.bind]

/-- A step that cannot fail adds no way to fail. -/
theorem bind_pure_eq_error_iff {x : Except ε α} {f : α → β} :
    (x >>= fun a => pure (f a)) = .error e ↔ x = .error e := by
  cases x <;> simp [bind, Except.bind, pure, Except.pure]

/-- Nor does it take away that there is a result. -/
theorem exists_bind_pure_iff {x : Except ε α} {f : α → β} :
    (∃ b, (x >>= fun a => pure (f a)) = .ok b) ↔ ∃ a, x = .ok a := by
  cases x <;> simp [bind, Except.bind, pure, Except.pure]

/-- A list is gone through up to the first step that fails. -/
theorem mapM_eq_error_iff {f : α → Except ε β} {xs : List α} :
    xs.mapM f = .error e
      ↔ ∃ before x after, xs = before ++ x :: after ∧ (∀ y ∈ before, ∃ b, f y = .ok b)
        ∧ f x = .error e := by
  induction xs with
  | nil => simp [pure, Except.pure]
  | cons x xs ih =>
      rw [List.mapM_cons, bind_eq_error_iff]
      simp only [bind_pure_eq_error_iff, ih]
      constructor
      · intro h
        obtain hx | ⟨b, hb, before, y, after, rfl, hbefore, hy⟩ := h
        · exact ⟨[], x, xs, rfl, fun _ h => (nomatch h), hx⟩
        · exact ⟨x :: before, y, after, rfl, List.forall_mem_cons.2 ⟨⟨b, hb⟩, hbefore⟩, hy⟩
      · intro h
        obtain ⟨before, y, after, hxs, hbefore, hy⟩ := h
        cases before with
        | nil =>
            obtain ⟨rfl, rfl⟩ := List.cons.inj hxs
            exact Or.inl hy
        | cons z before =>
            obtain ⟨rfl, rfl⟩ := List.cons.inj hxs
            obtain ⟨⟨b, hb⟩, hrest⟩ := List.forall_mem_cons.1 hbefore
            exact Or.inr ⟨b, hb, before, y, after, rfl, hrest, hy⟩

/-- A list is gone through where every step is. -/
theorem exists_mapM_iff {f : α → Except ε β} {xs : List α} :
    (∃ ys, xs.mapM f = .ok ys) ↔ ∀ x ∈ xs, ∃ y, f x = .ok y := by
  induction xs with
  | nil => simp [pure, Except.pure]
  | cons x xs ih =>
      rw [List.mapM_cons, List.forall_mem_cons, ← ih]
      cases f x with
      | error e' => simp [bind, Except.bind]
      | ok y =>
          show (∃ zs, (xs.mapM f >>= fun ys => pure (y :: ys)) = .ok zs) ↔ _
          rw [exists_bind_pure_iff]
          simp

end Computations

-- ====================================================== single values

variable {t : Tree} {items : List Tree} {e : ReadError}

/-- The ports are the values that are read as one. -/
theorem exists_takePort_iff : (∃ p, takePort t = .ok p) ↔ IsPort t := by
  unfold IsPort takePort
  cases t with
  | number n => cases h : n.toBinary64 <;> simp [h]
  | null | bool | string | array | object => simp

/-- Only a value that opens with a quote or bracket breaks reading off. -/
theorem takePort_eq_cutCharacter_iff :
    takePort t = .error .cutCharacter ↔ ∃ next, next? t = some next ∧ 1 < next.utf8Size := by
  have hsize (next : Char) : noNumber next = .cutCharacter ↔ 1 < next.utf8Size := by
    have hpos := next.utf8Size_pos
    unfold noNumber
    split
    · exact iff_of_false (fun h => nomatch h) (by omega)
    · exact iff_of_true rfl (by omega)
  unfold takePort next?
  cases t with
  | string next pieces => simp [hsize]
  | array next items => simp [hsize]
  | object next members => simp [hsize]
  | number n => cases h : n.toBinary64 <;> simp [h]
  | null | bool => simp

/-- Text never breaks reading off: it only fails to decode. -/
theorem takePieces_ne_cutCharacter {pieces : List Piece} :
    takePieces pieces ≠ .error .cutCharacter := by
  unfold takePieces
  cases decode pieces <;> exact fun h => nomatch h

/-- Telling what was found where something else was expected breaks nothing
off. -/
theorem mismatch_ne_cutCharacter {α : Type} {expected : String} :
    (mismatch t expected : Except ReadError α) ≠ .error .cutCharacter := by
  intro h
  obtain hfound | ⟨word, -, hthrow⟩ := bind_eq_error_iff.1 h
  · unfold found at hfound
    split at hfound
    · cases hfound
    · cases hfound
    · split at hfound <;> cases hfound
    · exact takePieces_ne_cutCharacter (bind_pure_eq_error_iff.1 hfound)
    · cases hfound
    · cases hfound
  · cases hthrow

theorem not_exists_mismatch {α : Type} {expected : String} :
    ¬ ∃ a : α, mismatch t expected = .ok a :=
  fun h => mismatch_ne_ok h.choose_spec

/-- A field of text never breaks reading off. -/
theorem takeString_ne_cutCharacter : takeString t ≠ .error .cutCharacter := by
  unfold takeString
  split
  · exact takePieces_ne_cutCharacter
  · exact mismatch_ne_cutCharacter

/-- A text is taken where its pieces decode. -/
theorem exists_takeString_iff :
    (∃ s, takeString t = .ok s)
      ↔ ∃ next pieces cs, t = .string next pieces ∧ decode pieces = .ok cs := by
  cases t with
  | string next pieces =>
      unfold takeString takePieces
      cases h : decode pieces <;> simp [h]
  | null | bool | number | array | object =>
      refine iff_of_false not_exists_mismatch ?_
      simp

theorem takeBool_ne_cutCharacter : takeBool t ≠ .error .cutCharacter := by
  unfold takeBool
  split
  · exact fun h => nomatch h
  · exact mismatch_ne_cutCharacter

theorem exists_takeBool_iff : (∃ b, takeBool t = .ok b) ↔ ∃ b, t = .bool b := by
  cases t with
  | bool b => exact iff_of_true ⟨b, rfl⟩ ⟨b, rfl⟩
  | null | number | string | array | object =>
      refine iff_of_false not_exists_mismatch ?_
      simp

/-- A list of ports breaks reading off exactly where one of its values does and
those before it are ports. -/
theorem takePorts_eq_cutCharacter_iff :
    takePorts t = .error .cutCharacter ↔ ∃ next items, t = .array next items ∧ CutAmong items := by
  cases t with
  | array next items =>
      show items.mapM takePort = _ ↔ _
      rw [mapM_eq_error_iff]
      unfold CutAmong
      simp [exists_takePort_iff, takePort_eq_cutCharacter_iff]
  | null | bool | number | string | object =>
      refine iff_of_false mismatch_ne_cutCharacter ?_
      simp

/-- A list of ports is taken where all its items are ports. -/
theorem exists_takePorts_iff :
    (∃ ns, takePorts t = .ok ns)
      ↔ ∃ next items, t = .array next items ∧ ∀ item ∈ items, IsPort item := by
  cases t with
  | array next items =>
      show (∃ ns, items.mapM takePort = .ok ns) ↔ _
      rw [exists_mapM_iff]
      simp [exists_takePort_iff]
  | null | bool | number | string | object =>
      refine iff_of_false not_exists_mismatch ?_
      simp

-- ============================================================= fields

section Options

variable {α : Type} {take : Tree → Except ReadError α}

/-- Where null is allowed, whatever else is written fails as it would
without. -/
theorem takeOption_eq_error_iff : takeOption take t = .error e ↔ t ≠ .null ∧ take t = .error e := by
  cases t with
  | null => simp [takeOption]
  | bool | number | string | array | object =>
      unfold takeOption
      cases h : take _ <;> simp [h, Except.map]

theorem exists_takeOption_iff :
    (∃ o, takeOption take t = .ok o) ↔ t = .null ∨ ∃ a, take t = .ok a := by
  cases t with
  | null => simp [takeOption]
  | bool | number | string | array | object =>
      unfold takeOption
      cases h : take _ <;> simp [h, Except.map]

end Options

/-- A selector never breaks reading off: what its text says is judged later. -/
theorem takeSelector_ne_cutCharacter : takeSelector t ≠ .error .cutCharacter := by
  intro h
  obtain hread | ⟨o, -, hrest⟩ := bind_eq_error_iff.1 h
  · exact takeString_ne_cutCharacter (takeOption_eq_error_iff.1 hread).2
  · cases o with
    | none => cases hrest
    | some raw => cases hrest

/-- A selector is taken where its text is. -/
theorem exists_takeSelector_iff :
    (∃ r, takeSelector t = .ok r) ↔ ∃ o, takeOption takeString t = .ok o := by
  unfold takeSelector
  cases takeOption takeString t with
  | error e => simp [bind, Except.bind]
  | ok o => cases o <;> simp [bind, Except.bind, pure, Except.pure]

variable {r : Reading} {field : Field}

/-- What the fields take that hold a text. -/
theorem takes_text_iff (h : field ≠ .exclude ∧ field ≠ .reorder) :
    Takes field t ↔ field ≠ .description ∧ t = .null
      ∨ ∃ next pieces cs, t = .string next pieces ∧ decode pieces = .ok cs := by
  constructor
  · intro ht
    cases ht with
    | null hnull => exact Or.inl ⟨hnull, rfl⟩
    | text _ _ hdecode => exact Or.inr ⟨_, _, _, rfl, hdecode⟩
    | flag => exact absurd rfl h.2
    | ports => exact absurd rfl h.1
  · intro ht
    obtain ⟨hnull, rfl⟩ | ⟨next, pieces, cs, rfl, hdecode⟩ := ht
    · exact .null hnull
    · exact .text h.1 h.2 hdecode

theorem takes_flag_iff : Takes .reorder t ↔ t = .null ∨ ∃ b, t = .bool b := by
  constructor
  · intro h
    cases h with
    | null => exact Or.inl rfl
    | text _ hflag => exact absurd rfl hflag
    | flag => exact Or.inr ⟨_, rfl⟩
  · intro h
    obtain rfl | ⟨b, rfl⟩ := h
    · exact .null (fun h => nomatch h)
    · exact .flag

theorem takes_ports_iff :
    Takes .exclude t
      ↔ t = .null ∨ ∃ next items, t = .array next items ∧ ∀ item ∈ items, IsPort item := by
  constructor
  · intro h
    cases h with
    | null => exact Or.inl rfl
    | text hports => exact absurd rfl hports
    | ports h => exact Or.inr ⟨_, _, rfl, h⟩
  · intro h
    obtain rfl | ⟨next, items, rfl, h⟩ := h
    · exact .null (fun h => nomatch h)
    · exact .ports h

/-- Reading goes on behind a value exactly where its field takes it. -/
theorem exists_take_iff : (∃ r', r.take field t = .ok r') ↔ Takes field t := by
  cases field with
  | description =>
      refine Iff.trans ?_ (takes_text_iff (by decide)).symm
      rw [← exists_takeString_iff]
      show (∃ r', (takeString t >>= fun s => pure _) = .ok r') ↔ _
      rw [exists_bind_pure_iff]
      simp
  | interface | bandwidth | impairment =>
      refine Iff.trans ?_ (takes_text_iff (by decide)).symm
      rw [← exists_takeString_iff]
      show (∃ r', (takeOption takeString t >>= fun o => pure _) = .ok r') ↔ _
      rw [exists_bind_pure_iff, exists_takeOption_iff]
      simp
  | source | destination =>
      refine Iff.trans ?_ (takes_text_iff (by decide)).symm
      rw [← exists_takeString_iff]
      show (∃ r', (takeSelector t >>= fun p => pure _) = .ok r') ↔ _
      rw [exists_bind_pure_iff, exists_takeSelector_iff, exists_takeOption_iff]
      simp
  | exclude =>
      rw [takes_ports_iff, ← exists_takePorts_iff, ← exists_takeOption_iff]
      exact exists_bind_pure_iff
  | reorder =>
      rw [takes_flag_iff, ← exists_takeBool_iff, ← exists_takeOption_iff]
      exact exists_bind_pure_iff

/-- Of the fields, only the ports break reading off. -/
theorem take_eq_cutCharacter_iff :
    r.take field t = .error .cutCharacter
      ↔ field = .exclude ∧ ∃ next items, t = .array next items ∧ CutAmong items := by
  cases field with
  | exclude =>
      show (takeOption takePorts t >>= fun o => pure _) = _ ↔ _
      rw [bind_pure_eq_error_iff, takeOption_eq_error_iff, takePorts_eq_cutCharacter_iff]
      constructor
      · exact fun h => ⟨rfl, h.2⟩
      · intro h
        obtain ⟨-, next, items, rfl, hcut⟩ := h
        exact ⟨fun h => (nomatch h), next, items, rfl, hcut⟩
  | description =>
      refine iff_of_false (fun h => ?_) fun h => nomatch h.1
      exact takeString_ne_cutCharacter (bind_pure_eq_error_iff.1 h)
  | interface | bandwidth | impairment =>
      refine iff_of_false (fun h => ?_) fun h => nomatch h.1
      exact takeString_ne_cutCharacter (takeOption_eq_error_iff.1 (bind_pure_eq_error_iff.1 h)).2
  | source | destination =>
      refine iff_of_false (fun h => ?_) fun h => nomatch h.1
      exact takeSelector_ne_cutCharacter (bind_pure_eq_error_iff.1 h)
  | reorder =>
      refine iff_of_false (fun h => ?_) fun h => nomatch h.1
      exact takeBool_ne_cutCharacter (takeOption_eq_error_iff.1 (bind_pure_eq_error_iff.1 h)).2

-- ============================================================= objects

variable {seen : List Field} {key : List Piece} {members rest : List (List Piece × Tree)}

/-- A member that names a new field is taken, and the others after it. -/
theorem takeMembers_cons_eq {name : String} (hkey : takePieces key = .ok name)
    (hname : Field.ofName? name = some field) (hnew : field ∉ seen) :
    takeMembers seen r ((key, t) :: rest)
      = (r.take field t >>= fun r' => takeMembers (field :: seen) r' rest) := by
  have hcontains : seen.contains field = false := by simpa using hnew
  rw [takeMembers, hkey]
  simp only [bind, Except.bind, hname, hcontains]
  rfl

/-- The first member breaks reading off, or it is taken and a later one does. -/
theorem takeMembers_cons_eq_cutCharacter_iff :
    takeMembers seen r ((key, t) :: rest) = .error .cutCharacter
      ↔ ∃ field, field.spelledBy key = true ∧ field ∉ seen
        ∧ (r.take field t = .error .cutCharacter
          ∨ ∃ r', r.take field t = .ok r'
            ∧ takeMembers (field :: seen) r' rest = .error .cutCharacter) := by
  constructor
  · intro h
    unfold takeMembers at h
    obtain hkey | ⟨name, hkey, h⟩ := bind_eq_error_iff.1 h
    · exact absurd hkey takePieces_ne_cutCharacter
    · cases hname : Field.ofName? name with
      | none =>
          rw [hname] at h
          cases h
      | some field =>
          simp only [hname] at h
          by_cases hseen : seen.contains field = true
          · rw [hseen] at h
            cases h
          · rw [Bool.not_eq_true] at hseen
            rw [hseen] at h
            exact ⟨field, (spelledBy_iff hkey hname).2 rfl, by simpa using hseen,
              bind_eq_error_iff.1 h⟩
  · intro h
    obtain ⟨field, hspelled, hnew, hrest⟩ := h
    cases hkey : takePieces key with
    | error e => simp [Field.spelledBy, hkey] at hspelled
    | ok name =>
        have hname : name = field.name := by simpa [Field.spelledBy, hkey] using hspelled
        rw [takeMembers_cons_eq hkey (ofName?_eq_some_iff.2 hname) hnew]
        exact bind_eq_error_iff.2 hrest

/-- With one more member in front, its field is a new one and none of those that
come later. -/
theorem apart_cons_iff {fields : List Field} :
    (.exclude :: field :: fields).Nodup ∧ (∀ f ∈ .exclude :: field :: fields, f ∉ seen)
      ↔ field ∉ seen ∧ (.exclude :: fields).Nodup
        ∧ ∀ f ∈ .exclude :: fields, f ∉ field :: seen := by
  grind

/-- Members break reading off at the list of the ports, behind members that are
taken. -/
theorem takeMembers_eq_cutCharacter_iff :
    takeMembers seen r members = .error .cutCharacter
      ↔ ∃ fields before key cut items after, members = before ++ (key, .array cut items) :: after
        ∧ List.Forall₂ IsMember fields before ∧ (.exclude :: fields).Nodup
        ∧ (∀ field ∈ .exclude :: fields, field ∉ seen) ∧ Field.exclude.spelledBy key = true
        ∧ CutAmong items := by
  induction members generalizing seen r with
  | nil => simp [takeMembers]
  | cons m rest ih =>
      obtain ⟨key, t⟩ := m
      rw [takeMembers_cons_eq_cutCharacter_iff]
      simp only [ih, take_eq_cutCharacter_iff]
      constructor
      · intro h
        obtain ⟨field, hspelled, hnew, hhere | ⟨r', htake, hlater⟩⟩ := h
        · obtain ⟨rfl, cut, items, rfl, hcut⟩ := hhere
          exact ⟨[], [], key, cut, items, rest, rfl, .nil, by simp, by simpa using hnew, hspelled,
            hcut⟩
        · obtain ⟨fields, before, key', cut, items, after, rfl, hbefore, honce, hapart, hkey,
            hcut⟩ := hlater
          obtain ⟨honce', hapart'⟩ := apart_cons_iff.2 ⟨hnew, honce, hapart⟩
          exact ⟨field :: fields, (key, t) :: before, key', cut, items, after, rfl,
            .cons ⟨hspelled, exists_take_iff.1 ⟨r', htake⟩⟩ hbefore, honce', hapart', hkey, hcut⟩
      · intro h
        obtain ⟨fields, before, key', cut, items, after, hmembers, hbefore, honce, hapart, hkey,
          hcut⟩ := h
        cases hbefore with
        | nil =>
            obtain ⟨hm, rfl⟩ := List.cons.inj hmembers
            obtain ⟨rfl, rfl⟩ := Prod.mk.inj hm
            exact ⟨.exclude, hkey, hapart _ (List.mem_cons_self ..),
              Or.inl ⟨rfl, cut, items, rfl, hcut⟩⟩
        | @cons field m fields before hfirst hbefore =>
            obtain ⟨rfl, rfl⟩ := List.cons.inj hmembers
            obtain ⟨r', htake⟩ := exists_take_iff.2 hfirst.2
            obtain ⟨hnew, honce', hapart'⟩ := apart_cons_iff.1 ⟨honce, hapart⟩
            exact ⟨field, hfirst.1, hnew, Or.inr ⟨r', htake, fields, before, key', cut, items, after,
              rfl, hbefore, honce', hapart', hkey, hcut⟩⟩

-- ============================================================== arrays

/-- Items break reading off at the list of the ports, behind items that are
taken. -/
theorem takeItems_eq_cutCharacter_iff {taken : Nat} {fields : List Field} {items : List Tree} :
    takeItems taken r fields items = .error .cutCharacter
      ↔ ∃ first later before cut ports after, fields = first ++ .exclude :: later
        ∧ items = before ++ .array cut ports :: after ∧ List.Forall₂ Takes first before
        ∧ CutAmong ports := by
  induction fields generalizing taken r items with
  | nil => simp [takeItems]
  | cons field fields ih =>
      cases items with
      | nil => simp [takeItems]
      | cons t rest =>
          show (r.take field t >>= fun r' => takeItems (taken + 1) r' fields rest) = _ ↔ _
          rw [bind_eq_error_iff, take_eq_cutCharacter_iff]
          simp only [ih]
          constructor
          · intro h
            obtain ⟨rfl, cut, ports, rfl, hcut⟩ | ⟨r', htake, first, later, before, cut, ports,
              after, rfl, rfl, hbefore, hcut⟩ := h
            · exact ⟨[], fields, [], cut, ports, rest, rfl, rfl, .nil, hcut⟩
            · exact ⟨field :: first, later, t :: before, cut, ports, after, rfl, rfl,
                .cons (exists_take_iff.1 ⟨r', htake⟩) hbefore, hcut⟩
          · intro h
            obtain ⟨first, later, before, cut, ports, after, hfields, hitems, hbefore, hcut⟩ := h
            cases hbefore with
            | nil =>
                obtain ⟨rfl, rfl⟩ := List.cons.inj hfields
                obtain ⟨rfl, rfl⟩ := List.cons.inj hitems
                exact Or.inl ⟨rfl, cut, ports, rfl, hcut⟩
            | cons hfirst hbefore =>
                obtain ⟨rfl, rfl⟩ := List.cons.inj hfields
                obtain ⟨rfl, rfl⟩ := List.cons.inj hitems
                obtain ⟨r', htake⟩ := exists_take_iff.2 hfirst
                exact Or.inr ⟨r', htake, _, later, _, cut, ports, after, rfl, rfl, hbefore, hcut⟩

-- =============================================================== texts

/-- Reading a tree breaks off exactly at a tree that breaks it off. -/
theorem ofTree_eq_cutCharacter_iff {tree : Tree} :
    ofTree tree = .error .cutCharacter ↔ Breaks tree := by
  constructor
  · intro h
    cases tree with
    | object next members =>
        obtain ⟨fields, before, key, cut, items, after, rfl, hbefore, honce, -, hkey, hcut⟩ :=
          takeMembers_eq_cutCharacter_iff.1 h
        exact .object hbefore honce hkey hcut
    | array next items =>
        obtain ⟨first, later, before, cut, ports, after, hfields, rfl, hbefore, hcut⟩ :=
          takeItems_eq_cutCharacter_iff.1 h
        exact .array hfields hbefore hcut
    | null | bool | number | string => exact absurd h mismatch_ne_cutCharacter
  · intro h
    cases h with
    | object hbefore honce hkey hcut =>
        exact takeMembers_eq_cutCharacter_iff.2
          ⟨_, _, _, _, _, _, rfl, hbefore, honce, fun _ _ h => (nomatch h), hkey, hcut⟩
    | array hfields hbefore hcut =>
        exact takeItems_eq_cutCharacter_iff.2 ⟨_, _, _, _, _, _, hfields, rfl, hbefore, hcut⟩

/-- Reading a text breaks off exactly where its tree breaks it off. -/
theorem ofText_eq_cutCharacter_iff {text : String} :
    ofText text = .error .cutCharacter ↔ BreaksOff text := by
  unfold ofText BreaksOff
  cases hread : read? text.toList with
  | none => simp
  | some tree => simpa using ofTree_eq_cutCharacter_iff

/-- Parsing breaks off on exactly these texts, wherever they come from. -/
theorem parse_eq_brokenOff_iff {text origin : String} :
    parse text origin = .error .brokenOff ↔ BreaksOff text := by
  rw [← ofText_eq_cutCharacter_iff]
  unfold parse
  cases ofText text with
  | ok r => simp
  | error e => cases e <;> simp

end TrafficShaping.Profile
