/-
What a profile holds, told from the tree it was read from.

A tree gives a field the value that stands under the field's name, or in the
field's place where the tree is an array. Reading goes through the members one
by one and takes each into the profile; it stops at a second member of one
name. So once it is through, each field holds what its one value stands for,
whatever order the members were in (`ofTree_eq`), and a field that may be null
is absent exactly where the tree gives it nothing or null
(`has_iff_of_ofTree`).
-/
import Mathlib.Logic.Function.Basic
import TrafficShaping.Profile.Reader

namespace TrafficShaping.Profile

open Json5

-- ==================================================== statement vocabulary

/-- Whether a value is null. -/
def isNull : Tree → Bool
  | .null => true
  | _ => false

/-- Whether a key spells the name of a field. -/
def Field.spelledBy (field : Field) (key : List Piece) : Bool :=
  match takePieces key with
  | .ok name => name == field.name
  | .error _ => false

/-- The value of the member of a field's name. -/
def member? (field : Field) (members : List (List Piece × Tree)) : Option Tree :=
  (members.find? fun m => field.spelledBy m.1).map (·.2)

/-- The value that a tree gives for a field. -/
def given? (field : Field) : Tree → Option Tree
  | .object _ members => member? field members
  | .array _ items => items[Field.all.idxOf field]?
  | _ => none

/-- The profile whose fields hold what these values stand for. -/
def ofValues (value : Field → Option Tree) : Profile where
  description := ((value .description).bind fun t => (takeString t).toOption).getD ""
  interface := (value .interface).bind fun t => (takeString t).toOption
  bandwidth := (value .bandwidth).bind fun t => (takeString t).toOption
  impairment := (value .impairment).bind fun t => (takeString t).toOption
  source := ((value .source).bind fun t => (takeString t).toOption).map Selector.parse
  destination := ((value .destination).bind fun t => (takeString t).toOption).map Selector.parse
  exclude := (value .exclude).bind fun t => (takePorts t).toOption
  reorder := (value .reorder).bind fun t => (takeBool t).toOption

/-- Whether a profile has a field. The description is always there. -/
def has (p : Profile) : Field → Bool
  | .description => true
  | .interface => p.interface.isSome
  | .bandwidth => p.bandwidth.isSome
  | .impairment => p.impairment.isSome
  | .source => p.source.isSome
  | .destination => p.destination.isSome
  | .exclude => p.exclude.isSome
  | .reorder => p.reorder.isSome

-- ===================================================== one more field

/-- Whether a value can be taken into a field. -/
def Field.fits (field : Field) (t : Tree) : Bool :=
  match field with
  | .exclude => (takePorts t).toOption.isSome
  | .reorder => (takeBool t).toOption.isSome
  | _ => (takeString t).toOption.isSome

/-- A profile made of values has a field where there is a value that fits it. -/
theorem has_ofValues {value : Field → Option Tree} {field : Field} (h : field ≠ .description) :
    (ofValues value).has field = (value field).any field.fits := by
  cases field with
  | description => exact absurd rfl h
  | source | destination => exact Option.isSome_map.trans (Option.isSome_bind ..)
  | interface | bandwidth | impairment | exclude | reorder => exact Option.isSome_bind ..

/-- A computation that may fail is through only where both of its parts are. -/
theorem bind_eq_ok {ε α β : Type} {x : Except ε α} {f : α → Except ε β} {b : β}
    (h : (x >>= f) = .ok b) : ∃ a, x = .ok a ∧ f a = .ok b := by
  cases x with
  | error e => cases h
  | ok a => exact ⟨a, rfl, h⟩

theorem mismatch_ne_ok {α : Type} {t : Tree} {expected : String} {a : α} :
    mismatch t expected ≠ .ok a := by
  intro h
  obtain ⟨word, -, hthrow⟩ := bind_eq_ok h
  cases hthrow

/-- Where null is allowed, what is taken is what the value stands for, and only
null stands for nothing. -/
theorem takeOption_eq_ok {α : Type} {take : Tree → Except ReadError α} {t : Tree} {o : Option α}
    (hnull : (take .null).toOption = none) (h : takeOption take t = .ok o) :
    o = (take t).toOption ∧ (isNull t = false → o.isSome = true) := by
  unfold takeOption at h
  split at h
  · obtain rfl := Except.ok.inj h
    exact ⟨hnull.symm, fun hn => nomatch hn⟩
  · cases htake : take t with
    | error e =>
        rw [htake] at h
        cases h
    | ok a =>
        rw [htake] at h
        obtain rfl := Except.ok.inj h
        exact ⟨rfl, fun _ => rfl⟩

theorem takeSelector_eq_ok {t : Tree} {o : Option Selector} {ws : List UnreadablePort}
    (h : takeSelector t = .ok (o, ws)) :
    o = (takeString t).toOption.map Selector.parse ∧ (isNull t = false → o.isSome = true) := by
  unfold takeSelector at h
  obtain ⟨read, hread, hrest⟩ := bind_eq_ok h
  obtain ⟨hvalue, hsome⟩ := takeOption_eq_ok rfl hread
  rw [← hvalue]
  cases read with
  | none =>
      obtain ⟨rfl, -⟩ := Prod.mk.inj (Except.ok.inj hrest)
      exact ⟨rfl, hsome⟩
  | some raw =>
      obtain ⟨rfl, -⟩ := Prod.mk.inj (Except.ok.inj hrest)
      exact ⟨rfl, fun _ => rfl⟩

/-- Taking a value into a field puts what the value stands for there and leaves
the other fields alone. It is refused unless the value fits or is null. -/
theorem take_eq_ok {r r' : Reading} {field : Field} {t : Tree} {value : Field → Option Tree}
    (hr : r.profile = ofValues value) (h : r.take field t = .ok r') :
    r'.profile = ofValues (Function.update value field (some t))
      ∧ (isNull t = false → field.fits t = true) := by
  unfold Reading.take at h
  rw [hr] at h
  cases field with
  | description =>
      obtain ⟨s, hs, hrest⟩ := bind_eq_ok h
      obtain rfl := Except.ok.inj hrest
      constructor
      · simp [ofValues, hs, Except.toOption]
      · intro _
        show (takeString t).toOption.isSome = true
        rw [hs]
        rfl
  | source | destination =>
      obtain ⟨⟨o, ws⟩, ho, hrest⟩ := bind_eq_ok h
      obtain rfl := Except.ok.inj hrest
      obtain ⟨rfl, hsome⟩ := takeSelector_eq_ok ho
      rw [Option.isSome_map] at hsome
      exact ⟨rfl, hsome⟩
  | interface | bandwidth | impairment | exclude | reorder =>
      obtain ⟨o, ho, hrest⟩ := bind_eq_ok h
      obtain rfl := Except.ok.inj hrest
      obtain ⟨rfl, hsome⟩ := takeOption_eq_ok rfl ho
      exact ⟨rfl, hsome⟩

-- ======================================================== all fields

/-- What is read holds what these values stand for, and each value fits its
field or is null. -/
structure Holds (r : Reading) (value : Field → Option Tree) : Prop where
  profile_eq : r.profile = ofValues value
  fits : ∀ field t, value field = some t → isNull t = false → field.fits t = true

theorem holds_empty : Holds Reading.empty fun _ => none :=
  ⟨rfl, fun _ _ h => nomatch h⟩

/-- One step of reading: a value is put into its field and the other fields are
left. -/
theorem Holds.take {r r' : Reading} {field : Field} {t : Tree} {value : Field → Option Tree}
    (hr : Holds r value) (h : r.take field t = .ok r') :
    Holds r' (Function.update value field (some t)) := by
  obtain ⟨hprofile, hfits⟩ := take_eq_ok hr.profile_eq h
  refine ⟨hprofile, fun field' t' hvalue hnull => ?_⟩
  by_cases heq : field' = field
  · subst heq
    rw [Function.update_self] at hvalue
    obtain rfl := Option.some.inj hvalue
    exact hfits hnull
  · rw [Function.update_of_ne heq] at hvalue
    exact hr.fits field' t' hvalue hnull

-- ============================================================ objects

/-- A name is that of one field at most, and each field has its own. -/
theorem ofName?_eq_some_iff {name : String} {field : Field} :
    Field.ofName? name = some field ↔ name = field.name := by
  constructor
  · intro h
    have hname := List.find?_some h
    exact (beq_iff_eq.1 hname).symm
  · rintro rfl
    cases field <;> decide

/-- A key that has been read spells the one field of its name. -/
theorem spelledBy_iff {key : List Piece} {name : String} {field field' : Field}
    (hkey : takePieces key = .ok name) (hname : Field.ofName? name = some field) :
    field'.spelledBy key = true ↔ field' = field := by
  unfold Field.spelledBy
  rw [hkey]
  rw [ofName?_eq_some_iff] at hname
  subst hname
  constructor
  · intro h
    have hnames := ofName?_eq_some_iff.2 (beq_iff_eq.1 h)
    rw [ofName?_eq_some_iff.2 rfl] at hnames
    exact (Option.some.inj hnames).symm
  · rintro rfl
    exact beq_self_eq_true _

/-- The members of an object that has been read, one by one. -/
theorem takeMembers_cons {seen : List Field} {r r' : Reading} {key : List Piece} {t : Tree}
    {rest : List (List Piece × Tree)} (h : takeMembers seen r ((key, t) :: rest) = .ok r') :
    ∃ name field r₁, takePieces key = .ok name ∧ Field.ofName? name = some field
      ∧ field ∉ seen ∧ r.take field t = .ok r₁
      ∧ takeMembers (field :: seen) r₁ rest = .ok r' := by
  unfold takeMembers at h
  obtain ⟨name, hkey, h⟩ := bind_eq_ok h
  cases hname : Field.ofName? name with
  | none =>
      rw [hname] at h
      cases h
  | some field =>
      simp only [hname] at h
      by_cases hseen : seen.contains field = true
      · rw [hseen] at h
        cases h
      · rw [Bool.not_eq_true] at hseen
        rw [hseen] at h
        obtain ⟨r₁, htake, h⟩ := bind_eq_ok h
        refine ⟨name, field, r₁, hkey, hname, ?_, htake, h⟩
        simpa using hseen

/-- No member spells a field that was read before. -/
theorem not_spelledBy_of_seen {seen : List Field} {r r' : Reading}
    {members : List (List Piece × Tree)} (h : takeMembers seen r members = .ok r')
    {field : Field} (hseen : field ∈ seen) : ∀ m ∈ members, field.spelledBy m.1 = false := by
  induction members generalizing seen r with
  | nil => exact fun m hm => nomatch hm
  | cons m rest ih =>
      obtain ⟨key, t⟩ := m
      obtain ⟨name, field', r₁, hkey, hname, hnew, -, hrest⟩ := takeMembers_cons h
      intro m' hm'
      rcases List.mem_cons.1 hm' with rfl | hmem
      · rw [← Bool.not_eq_true, spelledBy_iff hkey hname]
        rintro rfl
        exact hnew hseen
      · exact ih hrest (List.mem_cons_of_mem _ hseen) m' hmem

/-- The members of an object, by induction: each field holds its member, or what
it held before. -/
theorem Holds.takeMembers {seen : List Field} {r r' : Reading} {value : Field → Option Tree}
    {members : List (List Piece × Tree)} (hr : Holds r value)
    (h : takeMembers seen r members = .ok r') :
    Holds r' fun field => (member? field members).or (value field) := by
  induction members generalizing seen r value with
  | nil =>
      obtain rfl := Except.ok.inj h
      exact hr
  | cons m rest ih =>
      obtain ⟨key, t⟩ := m
      obtain ⟨name, field, r₁, hkey, hname, -, htake, hrest⟩ := takeMembers_cons h
      have hlater := ih (hr.take htake) hrest
      -- the member just taken is the only one of its name
      have hvalues : (fun f => (member? f ((key, t) :: rest)).or (value f))
          = fun f => (member? f rest).or (Function.update value field (some t) f) := by
        funext f
        unfold member?
        rw [List.find?_cons]
        by_cases hf : f = field
        · subst hf
          have hnone : (rest.find? fun m => f.spelledBy m.1) = none := by
            rw [List.find?_eq_none]
            intro m hm
            rw [not_spelledBy_of_seen hrest (List.mem_cons_self ..) m hm]
            exact Bool.false_ne_true
          rw [(spelledBy_iff hkey hname).2 rfl, hnone, Function.update_self]
          rfl
        · have hkeyf : f.spelledBy key = false := by
            rw [← Bool.not_eq_true, spelledBy_iff hkey hname]
            exact hf
          rw [hkeyf, Function.update_of_ne hf]
      rw [hvalues]
      exact hlater

-- ============================================================= arrays

/-- The items of an array, by induction: each field that is due holds the item
at its place. -/
theorem Holds.takeItems {taken : Nat} {r r' : Reading} {value : Field → Option Tree}
    {fields : List Field} {items : List Tree} (hr : Holds r value) (hnodup : fields.Nodup)
    (h : takeItems taken r fields items = .ok r') :
    Holds r' fun field => if field ∈ fields then items[fields.idxOf field]? else value field := by
  induction fields generalizing taken r value items with
  | nil =>
      obtain rfl := Except.ok.inj h
      simpa using hr
  | cons field fields ih =>
      cases items with
      | nil => cases h
      | cons t rest =>
          obtain ⟨r₁, htake, hrest⟩ := bind_eq_ok h
          obtain ⟨hnew, hnodup'⟩ := List.nodup_cons.1 hnodup
          have hlater := ih (hr.take htake) hnodup' hrest
          have hvalues : (fun f => if f ∈ field :: fields
                then (t :: rest)[(field :: fields).idxOf f]? else value f)
              = fun f => if f ∈ fields then rest[fields.idxOf f]?
                else Function.update value field (some t) f := by
            funext f
            by_cases hf : f = field
            · subst hf
              simp [hnew]
            · have hidx : (field :: fields).idxOf f = fields.idxOf f + 1 := by
                rw [List.idxOf_cons, beq_false_of_ne (Ne.symm hf)]
                rfl
              rw [Function.update_of_ne hf, hidx]
              simp [hf]
          rw [hvalues]
          exact hlater

-- ============================================================== trees

/-- Once a tree is read, every field holds what the tree gives for it. -/
theorem holds_of_ofTree {tree : Tree} {r : Reading} (h : ofTree tree = .ok r) :
    Holds r fun field => given? field tree := by
  cases tree with
  | object next members =>
      have hmembers := holds_empty.takeMembers h
      simp only [Option.or_none] at hmembers
      exact hmembers
  | array next items =>
      have hitems := holds_empty.takeItems (by decide) h
      have hall : ∀ field, field ∈ Field.all := by
        intro field
        cases field <;> decide
      simp only [hall, if_true] at hitems
      exact hitems
  | null | bool | number | string => exact absurd h mismatch_ne_ok

/-- A profile is made of what its tree gives for each field. -/
theorem ofTree_eq {tree : Tree} {r : Reading} (h : ofTree tree = .ok r) :
    r.profile = ofValues fun field => given? field tree :=
  (holds_of_ofTree h).profile_eq

/-- Null fits no field; it is passed over. -/
theorem fits_null (field : Field) : field.fits .null = false := by
  cases field <;> rfl

/-- A profile has a field exactly where its tree gives a value for it that is
not null. -/
theorem has_iff_of_ofTree {tree : Tree} {r : Reading} (h : ofTree tree = .ok r) {field : Field}
    (hfield : field ≠ .description) :
    r.profile.has field = true ↔ ∃ t, given? field tree = some t ∧ isNull t = false := by
  rw [ofTree_eq h, has_ofValues hfield, Option.any_eq_true]
  constructor
  · rintro ⟨t, hgiven, hfits⟩
    refine ⟨t, hgiven, ?_⟩
    cases t with
    | null =>
        rw [fits_null] at hfits
        cases hfits
    | bool | number | string | array | object => rfl
  · rintro ⟨t, hgiven, hnull⟩
    exact ⟨t, hgiven, (holds_of_ofTree h).fits field t hgiven hnull⟩

end TrafficShaping.Profile
