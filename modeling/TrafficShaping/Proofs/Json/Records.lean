/-
JSON forms are read back as what they were written for.

A form is written with the members of its objects as they are listed, or, in
what the program prints, by name. The order is nothing to the reader: it finds
the members of a record by their names, and in a written record every name is
there once (`members?_inOrder`). From there it goes up, one lemma a type: plain
values, lists, values that may be absent, then choices and records. None of
these types loses anything, so that all they read is stable as well.
-/
import Mathlib.Data.List.Perm.Basic
import TrafficShaping.Json.Command

namespace TrafficShaping

open Json

-- ==================================================== statement vocabulary

/-- How the members of objects are put when a value is written. -/
inductive MemberOrder where
  | listed
  | byName
  deriving DecidableEq, Repr

/-- The value, with the members of all objects in this order. -/
def Json.inOrder : MemberOrder → Json → Json
  | .listed, j => j
  | .byName, j => j.sortFields

section

variable {α : Type} [JsonForm α]

/-- What is written for a value is read as that value. -/
def ReadsBack (o : MemberOrder) (a : α) : Prop := ofJson? ((toJson a).inOrder o) = some a

variable (α)

/-- Every value is read back. -/
def Lossless : Prop := ∀ (o : MemberOrder) (a : α), ReadsBack o a

/-- Whatever was read, in whatever form, is read back. -/
def Stable : Prop := ∀ (o : MemberOrder) (j : Json) (a : α), ofJson? j = some a → ReadsBack o a

variable {α}

/-- Where every value is read back, so is one that was read. -/
theorem Lossless.stable (h : Lossless α) : Stable α := fun o _ a _ => h o a

end

-- ============================================================= orders

namespace Json

@[simp] theorem inOrder_null (o : MemberOrder) : Json.null.inOrder o = .null := by
  cases o <;> rfl

@[simp] theorem inOrder_bool (o : MemberOrder) (b : Bool) :
    (Json.bool b).inOrder o = .bool b := by
  cases o <;> rfl

@[simp] theorem inOrder_int (o : MemberOrder) (n : Int) : (Json.int n).inOrder o = .int n := by
  cases o <;> rfl

@[simp] theorem inOrder_str (o : MemberOrder) (s : String) :
    (Json.str s).inOrder o = .str s := by
  cases o <;> rfl

/-- The items of an array stay where they are. -/
theorem sortItems_eq (items : List Json) : sortItems items = items.map sortFields := by
  induction items with
  | nil => rfl
  | cons j rest ih => rw [sortItems, ih, List.map_cons]

@[simp] theorem inOrder_arr (o : MemberOrder) (items : List Json) :
    (Json.arr items).inOrder o = .arr (items.map (inOrder o)) := by
  cases o with
  | listed => exact congrArg Json.arr (List.map_id' items).symm
  | byName => exact congrArg Json.arr (sortItems_eq items)

/-- A choice is written as an object of one member, which has no order. -/
@[simp] theorem inOrder_single (o : MemberOrder) (name : String) (j : Json) :
    (Json.obj [(name, j)]).inOrder o = .obj [(name, j.inOrder o)] := by
  cases o <;> rfl

/-- Putting a member in its place adds it and drops none. -/
theorem insertField_perm (f : String × Json) (fields : List (String × Json)) :
    (insertField f fields).Perm (f :: fields) := by
  induction fields with
  | nil => rfl
  | cons g rest ih =>
      unfold insertField
      split
      · rfl
      · exact (ih.cons g).trans (List.Perm.swap f g rest)

/-- Putting members in order drops none. -/
theorem sortMembers_perm (fields : List (String × Json)) :
    (sortMembers fields).Perm (fields.map fun f => (f.1, f.2.sortFields)) := by
  induction fields with
  | nil => rfl
  | cons f rest ih => exact (insertField_perm _ _).trans (ih.cons _)

/-- Ordering an object moves its members about and orders their values. -/
theorem inOrder_obj (o : MemberOrder) (fields : List (String × Json)) :
    ∃ members, (Json.obj fields).inOrder o = .obj members
      ∧ members.Perm (fields.map fun f => (f.1, f.2.inOrder o)) := by
  cases o with
  | listed =>
      refine ⟨fields, rfl, ?_⟩
      rw [show (fun f : String × Json => (f.1, f.2.inOrder .listed)) = id from rfl, List.map_id]
  | byName => exact ⟨_, rfl, sortMembers_perm fields⟩

-- ============================================================ records

/-- Where every name is there once, each member is found by its name. -/
theorem lookup_of_mem {fields : List (String × Json)} (hnodup : (fields.map Prod.fst).Nodup)
    {f : String × Json} (hf : f ∈ fields) : fields.lookup f.1 = some f.2 := by
  induction fields with
  | nil => cases hf
  | cons g rest ih =>
      obtain ⟨hnew, hrest⟩ := List.nodup_cons.1 hnodup
      rcases List.mem_cons.1 hf with rfl | hmem
      · exact List.lookup_cons_self
      · have hne : f.1 ≠ g.1 := fun heq => hnew (heq ▸ List.mem_map_of_mem hmem)
        obtain ⟨name, j⟩ := g
        rw [List.lookup_cons, beq_false_of_ne hne]
        exact ih hrest hmem

/-- A member is found by its name whatever order it was written in. -/
theorem lookup_inOrder {o : MemberOrder} {fields members : List (String × Json)}
    (hnodup : (fields.map Prod.fst).Nodup)
    (hperm : members.Perm (fields.map fun f => (f.1, f.2.inOrder o)))
    {f : String × Json} (hf : f ∈ fields) : members.lookup f.1 = some (f.2.inOrder o) := by
  have hnames : (members.map Prod.fst).Perm (fields.map Prod.fst) := by
    have hmapped := hperm.map Prod.fst
    rwa [List.map_map] at hmapped
  refine lookup_of_mem (hnames.nodup_iff.2 hnodup) (f := (f.1, f.2.inOrder o)) ?_
  exact hperm.mem_iff.2 (List.mem_map_of_mem hf)

/-- The value of the member of this name. -/
def member? (name : String) : Json → Option Json
  | .obj fields => fields.lookup name
  | _ => none

/-- A member of a written record is found by its name, whatever the order. -/
theorem member?_inOrder (o : MemberOrder) (names : List String) (hnodup : names.Nodup)
    {fields : List (String × Json)} (hnames : fields.map Prod.fst = names)
    {f : String × Json} (hf : f ∈ fields) :
    ((Json.obj fields).inOrder o).member? f.1 = some (f.2.inOrder o) := by
  subst hnames
  obtain ⟨members, hobj, hperm⟩ := inOrder_obj o fields
  rw [hobj]
  exact lookup_inOrder hnodup hperm hf

/-- Every member of a written record is found. -/
theorem members?_inOrder (o : MemberOrder) {fields : List (String × Json)}
    (hnodup : (fields.map Prod.fst).Nodup) :
    ((Json.obj fields).inOrder o).members? (fields.map Prod.fst)
      = some (fields.map fun f => some (f.2.inOrder o)) := by
  obtain ⟨members, hobj, hperm⟩ := inOrder_obj o fields
  rw [hobj]
  show some ((fields.map Prod.fst).map fun name => members.lookup name) = _
  rw [List.map_map]
  exact congrArg some (List.map_congr_left fun f hf => lookup_inOrder hnodup hperm hf)

/-- A record is read from its members in the order in which they are listed. -/
theorem read_record {β : Type} {o : MemberOrder} (names : List String) (hnodup : names.Nodup)
    {fields : List (String × Json)} (hnames : fields.map Prod.fst = names)
    {k : List (Option Json) → Option β} {result : Option β}
    (hk : k (fields.map fun f => some (f.2.inOrder o)) = result) :
    (((Json.obj fields).inOrder o).members? names).bind k = result := by
  subst hnames
  rw [members?_inOrder o hnodup]
  exact hk

end Json

-- ======================================================= plain values

variable {α : Type} [JsonForm α]

/-- A text stands for itself in any order. -/
theorem readsBack_of_str {o : MemberOrder} {a : α} {s : String} (hwritten : toJson a = .str s)
    (hread : ofJson? (Json.str s) = some a) : ReadsBack o a := by
  unfold ReadsBack
  rw [hwritten, inOrder_str, hread]

theorem lossless_string : Lossless String := fun _ _ => readsBack_of_str rfl rfl

theorem lossless_bool : Lossless Bool := by
  intro o b
  show ofJson? ((Json.bool b).inOrder o) = some b
  rw [inOrder_bool]
  rfl

/-- A number in range is read. -/
theorem Json.natural?_int {limit n : Nat} (h : n ≤ limit) :
    (Json.int n).natural? limit = some n := by
  show (if 0 ≤ (n : Int) ∧ (n : Int).toNat ≤ limit then some (n : Int).toNat else none) = some n
  rw [Int.toNat_natCast, if_pos ⟨Int.natCast_nonneg n, h⟩]

theorem lossless_uint16 : Lossless UInt16 := by
  intro o n
  show (((Json.int n.toNat).inOrder o).natural? 65535).map UInt16.ofNat = some n
  rw [inOrder_int, natural?_int (Nat.le_of_lt_succ n.toNat_lt), Option.map_some,
    UInt16.ofNat_toNat]

/-- A list is read back where its items are. -/
theorem lossless_list (h : Lossless α) : Lossless (List α) := by
  intro o xs
  show ofJson? ((Json.arr (xs.map toJson)).inOrder o) = some xs
  rw [inOrder_arr]
  show ((xs.map toJson).map (inOrder o)).mapM ofJson? = some xs
  induction xs with
  | nil => rfl
  | cons x xs ih =>
      have hx : ofJson? ((toJson x).inOrder o) = some x := h o x
      rw [List.map_cons, List.map_cons, List.mapM_cons, hx, ih]
      rfl

/-- Where null stands for no value, it can stand for the absent one. What each
value is read back as is left open, since a selector may come back as another
one. -/
theorem read_option {o : MemberOrder} {f : α → α} (hnull : (ofJson? Json.null : Option α) = none)
    (hread : ∀ a : α, ofJson? ((toJson a).inOrder o) = some (f a)) (x : Option α) :
    ofJson? ((toJson x).inOrder o) = some (x.map f) := by
  cases x with
  | none =>
      show ofJson? (Json.null.inOrder o) = some none
      rw [inOrder_null]
      rfl
  | some a =>
      have ha := hread a
      show ofJson? ((toJson a).inOrder o) = some (some (f a))
      cases hj : (toJson a).inOrder o with
      | null =>
          rw [hj, hnull] at ha
          cases ha
      | bool | int | fraction | str | arr | obj =>
          rw [hj] at ha
          exact congrArg (Option.map some) ha

/-- A value that may be absent and is there was read as itself. -/
theorem ofJson?_of_option {j : Json} {a : α} (h : ofJson? j = some (some a)) :
    ofJson? j = some a := by
  cases j with
  | null => cases h
  | bool | int | fraction | str | arr | obj =>
      obtain ⟨b, hb, heq⟩ := Option.map_eq_some_iff.1 h
      rw [hb, heq]

/-- A value that may be absent is read back where it is never null itself. -/
theorem lossless_option (hnull : (ofJson? Json.null : Option α) = none) (h : Lossless α) :
    Lossless (Option α) := by
  intro o x
  have hread := read_option (f := id) hnull (h o) x
  rwa [Option.map_id_apply] at hread

/-- A member that has to be there. -/
theorem need_toJson (h : Lossless α) (o : MemberOrder) (a : α) :
    need (some ((toJson a).inOrder o)) = some a := h o a

/-- A member that may be missing is read back. -/
theorem allow_toJson (h : Lossless (Option α)) (o : MemberOrder) (x : Option α) :
    allow (some ((toJson x).inOrder o)) = some x := h o x

/-- A choice that comes with a value is read back where the value is, as long
as reading goes by its name alone, null or not. -/
theorem readsBack_of_choice {β : Type} [JsonForm β] {o : MemberOrder} {name : String}
    {make : β → α} {b : β} (hwritten : toJson (make b) = .obj [(name, toJson b)])
    (hread : ∀ j, ofJson? (Json.obj [(name, j)]) = (ofJson? j).map make) (h : Lossless β) :
    ReadsBack o (make b) := by
  have hb : ofJson? ((toJson b).inOrder o) = some b := h o b
  unfold ReadsBack
  rw [hwritten, inOrder_single, hread, hb, Option.map_some]

-- ============================================================ rule sets

theorem Direction.lossless : Lossless Direction := by
  intro o d
  refine readsBack_of_str rfl ?_
  cases d <;> rfl

theorem Handle.lossless : Lossless Handle := by
  intro o h
  refine read_record ["major", "minor"] (by decide) rfl ?_
  simp only [List.map_cons, List.map_nil, need_toJson lossless_uint16]
  rfl

theorem QdiscParent.lossless : Lossless QdiscParent := by
  intro o p
  cases p with
  | root => exact readsBack_of_str rfl rfl
  | handle h => exact readsBack_of_choice rfl (fun j => by cases j <;> rfl) Handle.lossless

theorem QdiscKind.lossless : Lossless QdiscKind := by
  intro o k
  refine readsBack_of_str rfl ?_
  cases k <;> rfl

theorem MatchTerm.lossless : Lossless MatchTerm := by
  intro o m
  cases m with
  | all => exact readsBack_of_str rfl rfl
  | sourceNet | destinationNet =>
      exact readsBack_of_choice rfl (fun j => by cases j <;> rfl) lossless_string
  | sourcePort | destinationPort =>
      exact readsBack_of_choice rfl (fun j => by cases j <;> rfl) lossless_uint16

/-- Records and what they are made of are all read back. -/
theorem Qdisc.lossless : Lossless Qdisc := by
  intro o q
  refine read_record ["device", "parent", "handle", "kind", "params"] (by decide) rfl ?_
  simp only [List.map_cons, List.map_nil, need_toJson lossless_string,
    need_toJson QdiscParent.lossless, need_toJson Handle.lossless, need_toJson QdiscKind.lossless,
    need_toJson (lossless_list lossless_string)]
  rfl

theorem Filter.lossless : Lossless Filter := by
  intro o f
  refine read_record ["device", "parent", "priority", "criteria", "flow"] (by decide) rfl ?_
  simp only [List.map_cons, List.map_nil, need_toJson lossless_string,
    need_toJson Handle.lossless, need_toJson lossless_uint16,
    need_toJson (lossless_list MatchTerm.lossless)]
  rfl

theorem RuleSet.lossless : Lossless RuleSet := by
  intro o r
  refine read_record ["direction", "device", "qdiscs", "filters"] (by decide) rfl ?_
  simp only [List.map_cons, List.map_nil, need_toJson Direction.lossless,
    need_toJson lossless_string, need_toJson (lossless_list Qdisc.lossless),
    need_toJson (lossless_list Filter.lossless)]
  rfl

theorem CompiledPolicy.lossless : Lossless CompiledPolicy := by
  intro o c
  refine read_record ["outbound", "inbound"] (by decide) rfl ?_
  simp only [List.map_cons, List.map_nil, need_toJson RuleSet.lossless]
  rfl

-- ============================================================= commands

theorem Program.lossless : Lossless Program := by
  intro o p
  refine readsBack_of_str rfl ?_
  cases p <;> rfl

theorem Command.lossless : Lossless Command := by
  intro o c
  refine read_record ["program", "args"] (by decide) rfl ?_
  simp only [List.map_cons, List.map_nil, need_toJson Program.lossless,
    need_toJson (lossless_list lossless_string)]
  rfl

end TrafficShaping
