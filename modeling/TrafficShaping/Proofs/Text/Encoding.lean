/-
Bytes that spell a text (`decode?_eq_some_iff`).

The bytes of a text are those of its characters, one after the other. Reading
goes byte by byte instead: the byte that opens a character tells how many more
there are and what the first of them may be, and each of those adds six bits.
A byte that fits takes a character under way one step further or ends it, and
any other leaves an ill-formed piece behind, so a text comes out only where
every byte fits (`decoded_underway_iff`).

At most three steps lead from one character to the next. What they read is
written with the very same bytes, because an opening admits just those second
bytes with which the value has no shorter form, is no surrogate and is not
beyond the last code point.
-/
import TrafficShaping.Text.Utf8

namespace TrafficShaping.Text.Utf8

-- ==================================================== statement vocabulary

/-- The bytes of a text. -/
def encode (cs : List Char) : List UInt8 := cs.flatMap String.utf8EncodeChar

/-- A byte that goes on with a character. -/
def Continues (b : UInt8) : Prop := 0x80 ≤ b.toNat ∧ b.toNat ≤ 0xBF

/-- The bytes of the character with a number: one byte, or an opening byte and
those that go on from it. The second byte keeps out short forms, surrogates and
what is beyond the last code point. -/
inductive Shape : List UInt8 → Nat → Prop
  | one {b : UInt8} (h : b.toNat < 0x80) : Shape [b] b.toNat
  | two {b b₁ : UInt8} (hlow : 0xC2 ≤ b.toNat) (hhigh : b.toNat < 0xE0) (h₁ : Continues b₁) :
    Shape [b, b₁] (64 * (b.toNat - 0xC0) + (b₁.toNat - 0x80))
  | three {b b₁ b₂ : UInt8} (hlow : 0xE0 ≤ b.toNat) (hhigh : b.toNat < 0xF0) (h₁ : Continues b₁)
    (hshort : b.toNat = 0xE0 → 0xA0 ≤ b₁.toNat) (hsurrogate : b.toNat = 0xED → b₁.toNat ≤ 0x9F)
    (h₂ : Continues b₂) :
    Shape [b, b₁, b₂] (64 * (64 * (b.toNat - 0xE0) + (b₁.toNat - 0x80)) + (b₂.toNat - 0x80))
  | four {b b₁ b₂ b₃ : UInt8} (hlow : 0xF0 ≤ b.toNat) (hhigh : b.toNat < 0xF5)
    (h₁ : Continues b₁) (hshort : b.toNat = 0xF0 → 0x90 ≤ b₁.toNat)
    (hbeyond : b.toNat = 0xF4 → b₁.toNat ≤ 0x8F) (h₂ : Continues b₂) (h₃ : Continues b₃) :
    Shape [b, b₁, b₂, b₃]
      (64 * (64 * (64 * (b.toNat - 0xF0) + (b₁.toNat - 0x80)) + (b₂.toNat - 0x80))
        + (b₃.toNat - 0x80))

-- ======================================================= one character

variable {b : UInt8} {bs bytes rest : List UInt8} {c : Char} {cs : List Char} {n : Nat}

theorem ofNat_eq_of_toNat (h : n = b.toNat) : UInt8.ofNat n = b := by
  rw [h, UInt8.ofNat_toNat]

theorem toNat_ofNat_of_lt (h : n < 256) : (UInt8.ofNat n).toNat = n :=
  UInt8.toNat_ofNat_of_lt' h

/-- Bytes of this shape are those of a character. -/
theorem Shape.isValidChar (h : Shape bs n) : n.isValidChar := by
  unfold Nat.isValidChar
  cases h with
  | one h => omega
  | two hlow hhigh h₁ =>
      unfold Continues at h₁
      omega
  | three hlow hhigh h₁ hshort hsurrogate h₂ =>
      unfold Continues at h₁ h₂
      omega
  | four hlow hhigh h₁ hshort hbeyond h₂ h₃ =>
      unfold Continues at h₁ h₂ h₃
      omega

/-- A character is written with the bytes of its number. -/
theorem Shape.utf8EncodeChar (h : Shape bs n) : String.utf8EncodeChar (Char.ofNat n) = bs := by
  have hn : (Char.ofNat n).val.toNat = n := by
    rw [Char.ofNat, dif_pos h.isValidChar]
    rfl
  rw [String.utf8EncodeChar, hn]
  cases h with
  | @one b h => rw [if_pos (by omega), ofNat_eq_of_toNat (b := b) rfl]
  | @two b b₁ hlow hhigh h₁ =>
      unfold Continues at h₁
      rw [if_neg (by omega), if_pos (by omega), ofNat_eq_of_toNat (b := b) (by omega),
        ofNat_eq_of_toNat (b := b₁) (by omega)]
  | @three b b₁ b₂ hlow hhigh h₁ hshort hsurrogate h₂ =>
      unfold Continues at h₁ h₂
      rw [if_neg (by omega), if_neg (by omega), if_pos (by omega),
        ofNat_eq_of_toNat (b := b) (by omega), ofNat_eq_of_toNat (b := b₁) (by omega),
        ofNat_eq_of_toNat (b := b₂) (by omega)]
  | @four b b₁ b₂ b₃ hlow hhigh h₁ hshort hbeyond h₂ h₃ =>
      unfold Continues at h₁ h₂ h₃
      rw [if_neg (by omega), if_neg (by omega), if_neg (by omega),
        ofNat_eq_of_toNat (b := b) (by omega), ofNat_eq_of_toNat (b := b₁) (by omega),
        ofNat_eq_of_toNat (b := b₂) (by omega), ofNat_eq_of_toNat (b := b₃) (by omega)]

/-- Six bits make a continuation byte. -/
theorem continues_ofNat (n : Nat) : Continues (UInt8.ofNat (n % 64 + 0x80)) := by
  have h := toNat_ofNat_of_lt (n := n % 64 + 0x80) (by omega)
  unfold Continues
  omega

theorem Shape.of_eq {m : Nat} (h : Shape bs m) (hm : m = n) : Shape bs n := hm ▸ h

/-- What a character is written with has the shape of its number. -/
theorem shape_utf8EncodeChar (c : Char) : Shape (String.utf8EncodeChar c) c.toNat := by
  have hvalid : c.val.toNat < 0xD800 ∨ 0xDFFF < c.val.toNat ∧ c.val.toNat < 0x110000 := c.valid
  unfold String.utf8EncodeChar Char.toNat
  generalize c.val.toNat = n at hvalid
  dsimp only
  have hlast := toNat_ofNat_of_lt (n := n % 64 + 0x80) (by omega)
  have hthird := toNat_ofNat_of_lt (n := n / 64 % 64 + 0x80) (by omega)
  have hsecond := toNat_ofNat_of_lt (n := n / 4096 % 64 + 0x80) (by omega)
  by_cases hone : n ≤ 0x7F
  · have hopen := toNat_ofNat_of_lt (n := n) (by omega)
    rw [if_pos hone]
    exact (Shape.one (by omega)).of_eq hopen
  by_cases htwo : n ≤ 0x7FF
  · have hopen := toNat_ofNat_of_lt (n := n / 64 % 32 + 0xC0) (by omega)
    rw [if_neg hone, if_pos htwo]
    exact (Shape.two (by omega) (by omega) (continues_ofNat n)).of_eq (by omega)
  by_cases hthree : n ≤ 0xFFFF
  · have hopen := toNat_ofNat_of_lt (n := n / 4096 % 16 + 0xE0) (by omega)
    rw [if_neg hone, if_neg htwo, if_pos hthree]
    exact (Shape.three (by omega) (by omega) (continues_ofNat (n / 64)) (by omega) (by omega)
      (continues_ofNat n)).of_eq (by omega)
  · have hopen := toNat_ofNat_of_lt (n := n / 262144 % 8 + 0xF0) (by omega)
    rw [if_neg hone, if_neg htwo, if_neg hthree]
    exact (Shape.four (by omega) (by omega) (continues_ofNat (n / 4096)) (by omega) (by omega)
      (continues_ofNat (n / 64)) (continues_ofNat n)).of_eq (by omega)

-- ============================================================ openings

/-- A byte below 0x80 is a character of its own. -/
theorem opening_of_ascii (h : b.toNat < 0x80) : opening b = .whole (Char.ofNat b.toNat) := by
  simp only [opening, h, if_true]

/-- These open a character of two bytes. -/
theorem opening_of_two (hlow : 0xC2 ≤ b.toNat) (hhigh : b.toNat < 0xE0) :
    opening b = .underway ⟨0, 0x80, 0xBF, b.toNat - 0xC0⟩ := by
  simp only [opening]
  rw [if_neg (by omega), if_neg (by omega), if_pos hhigh]

/-- These one of three, where the next byte is bounded so that there is no
overlong form and no surrogate. -/
theorem opening_of_three (hlow : 0xE0 ≤ b.toNat) (hhigh : b.toNat < 0xF0) :
    opening b = .underway ⟨1, if b.toNat = 0xE0 then 0xA0 else 0x80,
      if b.toNat = 0xED then 0x9F else 0xBF, b.toNat - 0xE0⟩ := by
  simp only [opening]
  rw [if_neg (by omega), if_neg (by omega), if_neg (by omega), if_pos hhigh]

/-- These one of four, where it is bounded to what characters there are. -/
theorem opening_of_four (hlow : 0xF0 ≤ b.toNat) (hhigh : b.toNat < 0xF5) :
    opening b = .underway ⟨2, if b.toNat = 0xF0 then 0x90 else 0x80,
      if b.toNat = 0xF4 then 0x8F else 0xBF, b.toNat - 0xF0⟩ := by
  simp only [opening]
  rw [if_neg (by omega), if_neg (by omega), if_neg (by omega), if_neg (by omega), if_pos hhigh]

/-- No other byte opens a character. -/
theorem opening_of_stray (h : 0x80 ≤ b.toNat ∧ b.toNat < 0xC2 ∨ 0xF5 ≤ b.toNat) :
    opening b = .illFormed := by
  simp only [opening]
  rcases h with ⟨hlow, hhigh⟩ | h
  · rw [if_neg (by omega), if_pos hhigh]
  · rw [if_neg (by omega), if_neg (by omega), if_neg (by omega), if_neg (by omega),
      if_neg (by omega)]

/-- The range of bytes that go on, narrowed at one end or the other. -/
theorem within_narrowed_iff {p q : Prop} [Decidable p] [Decidable q] (low high : UInt8)
    (hlow : 0x80 ≤ low.toNat) (hhigh : high.toNat ≤ 0xBF) :
    (if p then low else 0x80) ≤ b ∧ b ≤ (if q then high else 0xBF)
      ↔ Continues b ∧ (p → low.toNat ≤ b.toNat) ∧ (q → b.toNat ≤ high.toNat) := by
  have hleast : (0x80 : UInt8) ≤ b ↔ 0x80 ≤ b.toNat := Iff.rfl
  have hgreatest : b ≤ (0xBF : UInt8) ↔ b.toNat ≤ 0xBF := Iff.rfl
  unfold Continues
  by_cases hp : p <;> by_cases hq : q <;>
    simp only [hp, hq, if_true, if_false, true_imp_iff, false_imp_iff, and_true, true_and,
      hleast, hgreatest, UInt8.le_iff_toNat_le] <;>
    omega

-- =============================================================== steps

/-- The text that is read in a state, unless some bytes are ill-formed. -/
def decoded (u : Option Underway) (bytes : List UInt8) : Option (List Char) :=
  (pieces u bytes).mapM id

/-- A piece that is a character is kept in front. -/
theorem mapM_some_cons {ps : List (Option Char)} :
    (some c :: ps).mapM id = some cs ↔ ∃ cs', cs = c :: cs' ∧ ps.mapM id = some cs' := by
  rw [List.mapM_cons]
  cases ps.mapM id with
  | none => simp
  | some cs' => simp [eq_comm]

theorem mapM_none_cons {ps : List (Option Char)} : (none :: ps).mapM id ≠ some cs := by
  rw [List.mapM_cons]
  exact fun h => nomatch h

/-- A byte that fits ends a character under way or takes it one step further. -/
theorem decoded_underway_iff {u : Underway} :
    decoded (some u) bytes = some cs
      ↔ ∃ b rest, bytes = b :: rest ∧ u.low ≤ b ∧ b ≤ u.high
        ∧ match u.more with
          | 0 => ∃ cs', cs = Char.ofNat (64 * u.bits + (b.toNat - 0x80)) :: cs'
              ∧ decode? rest = some cs'
          | more + 1 =>
            decoded (some ⟨more, 0x80, 0xBF, 64 * u.bits + (b.toNat - 0x80)⟩) rest = some cs := by
  cases bytes with
  | nil =>
      refine iff_of_false mapM_none_cons ?_
      rintro ⟨b, rest, h, -⟩
      cases h
  | cons b rest =>
      unfold decoded
      rw [pieces]
      by_cases hfit : u.low ≤ b ∧ b ≤ u.high
      · rw [if_pos hfit]
        have hhead : ∀ {p : UInt8 → List UInt8 → Prop},
            (∃ b' rest', b :: rest = b' :: rest' ∧ u.low ≤ b' ∧ b' ≤ u.high ∧ p b' rest')
              ↔ p b rest := by
          intro p
          constructor
          · rintro ⟨b', rest', heq, -, -, h⟩
            obtain ⟨rfl, rfl⟩ := List.cons.inj heq
            exact h
          · exact fun h => ⟨b, rest, rfl, hfit.1, hfit.2, h⟩
        rw [hhead]
        cases u.more with
        | zero => exact mapM_some_cons
        | succ more => exact Iff.rfl
      · rw [if_neg hfit]
        refine iff_of_false mapM_none_cons ?_
        rintro ⟨b', rest', heq, hlow, hhigh, -⟩
        obtain ⟨rfl, rfl⟩ := List.cons.inj heq
        exact hfit ⟨hlow, hhigh⟩

/-- What the first byte says, and what is left to the rest. -/
theorem decode?_cons (b : UInt8) (rest : List UInt8) :
    decode? (b :: rest) = match opening b with
      | .whole c => (some c :: pieces none rest).mapM id
      | .underway u => decoded (some u) rest
      | .illFormed => (none :: pieces none rest).mapM id := by
  unfold decode?
  rw [pieces]
  cases opening b <;> rfl

/-- A text that is read begins with a character, and with its bytes. -/
theorem exists_shape_of_decode? (h : decode? (b :: bytes) = some cs) :
    ∃ bs n rest cs', Shape bs n ∧ b :: bytes = bs ++ rest ∧ cs = Char.ofNat n :: cs'
      ∧ decode? rest = some cs' := by
  rw [decode?_cons] at h
  have hclass : b.toNat < 0x80 ∨ 0xC2 ≤ b.toNat ∧ b.toNat < 0xE0
      ∨ 0xE0 ≤ b.toNat ∧ b.toNat < 0xF0 ∨ 0xF0 ≤ b.toNat ∧ b.toNat < 0xF5
      ∨ (0x80 ≤ b.toNat ∧ b.toNat < 0xC2 ∨ 0xF5 ≤ b.toNat) := by
    omega
  rcases hclass with hone | ⟨hlow, hhigh⟩ | ⟨hlow, hhigh⟩ | ⟨hlow, hhigh⟩ | hstray
  · rw [opening_of_ascii hone] at h
    obtain ⟨cs', rfl, hrest⟩ := mapM_some_cons.1 h
    exact ⟨[b], _, bytes, cs', .one hone, rfl, rfl, hrest⟩
  · rw [opening_of_two hlow hhigh] at h
    obtain ⟨b₁, rest, rfl, h₁low, h₁high, cs', rfl, hrest⟩ := decoded_underway_iff.1 h
    exact ⟨[b, b₁], _, rest, cs', .two hlow hhigh ⟨h₁low, h₁high⟩, rfl, rfl, hrest⟩
  · rw [opening_of_three hlow hhigh] at h
    obtain ⟨b₁, _, rfl, h₁low, h₁high, h⟩ := decoded_underway_iff.1 h
    obtain ⟨b₂, rest, rfl, h₂low, h₂high, cs', rfl, hrest⟩ := decoded_underway_iff.1 h
    obtain ⟨h₁, hshort, hsurrogate⟩ :=
      (within_narrowed_iff 0xA0 0x9F (by decide) (by decide)).1 ⟨h₁low, h₁high⟩
    exact ⟨[b, b₁, b₂], _, rest, cs', .three hlow hhigh h₁ hshort hsurrogate ⟨h₂low, h₂high⟩, rfl,
      rfl, hrest⟩
  · rw [opening_of_four hlow hhigh] at h
    obtain ⟨b₁, _, rfl, h₁low, h₁high, h⟩ := decoded_underway_iff.1 h
    obtain ⟨b₂, _, rfl, h₂low, h₂high, h⟩ := decoded_underway_iff.1 h
    obtain ⟨b₃, rest, rfl, h₃low, h₃high, cs', rfl, hrest⟩ := decoded_underway_iff.1 h
    obtain ⟨h₁, hshort, hbeyond⟩ :=
      (within_narrowed_iff 0x90 0x8F (by decide) (by decide)).1 ⟨h₁low, h₁high⟩
    exact ⟨[b, b₁, b₂, b₃], _, rest, cs',
      .four hlow hhigh h₁ hshort hbeyond ⟨h₂low, h₂high⟩ ⟨h₃low, h₃high⟩, rfl, rfl, hrest⟩
  · rw [opening_of_stray hstray] at h
    exact absurd h mapM_none_cons

/-- The bytes of a character are read as the character, whatever text follows. -/
theorem Shape.decode?_append (h : Shape bs n) (hrest : decode? rest = some cs) :
    decode? (bs ++ rest) = some (Char.ofNat n :: cs) := by
  cases h with
  | one h =>
      rw [List.singleton_append, decode?_cons, opening_of_ascii h]
      exact mapM_some_cons.2 ⟨cs, rfl, hrest⟩
  | two hlow hhigh h₁ =>
      rw [List.cons_append, decode?_cons, opening_of_two hlow hhigh]
      exact decoded_underway_iff.2 ⟨_, rest, rfl, h₁.1, h₁.2, cs, rfl, hrest⟩
  | three hlow hhigh h₁ hshort hsurrogate h₂ =>
      obtain ⟨h₁low, h₁high⟩ :=
        (within_narrowed_iff 0xA0 0x9F (by decide) (by decide)).2 ⟨h₁, hshort, hsurrogate⟩
      rw [List.cons_append, decode?_cons, opening_of_three hlow hhigh]
      exact decoded_underway_iff.2 ⟨_, _, rfl, h₁low, h₁high,
        decoded_underway_iff.2 ⟨_, rest, rfl, h₂.1, h₂.2, cs, rfl, hrest⟩⟩
  | four hlow hhigh h₁ hshort hbeyond h₂ h₃ =>
      obtain ⟨h₁low, h₁high⟩ :=
        (within_narrowed_iff 0x90 0x8F (by decide) (by decide)).2 ⟨h₁, hshort, hbeyond⟩
      rw [List.cons_append, decode?_cons, opening_of_four hlow hhigh]
      exact decoded_underway_iff.2 ⟨_, _, rfl, h₁low, h₁high,
        decoded_underway_iff.2 ⟨_, _, rfl, h₂.1, h₂.2,
          decoded_underway_iff.2 ⟨_, rest, rfl, h₃.1, h₃.2, cs, rfl, hrest⟩⟩⟩

-- =============================================================== texts

/-- Bytes are read as the text whose bytes they are, and as none where they are
those of no text. -/
theorem decode?_eq_some_iff : decode? bytes = some cs ↔ bytes = encode cs := by
  induction cs generalizing bytes with
  | nil =>
      cases bytes with
      | nil => exact iff_of_true rfl rfl
      | cons b bytes =>
          refine iff_of_false (fun h => ?_) fun h => nomatch h
          obtain ⟨bs, n, rest, cs', -, -, hcs, -⟩ := exists_shape_of_decode? h
          cases hcs
  | cons c cs ih =>
      have hbytes : encode (c :: cs) = String.utf8EncodeChar c ++ encode cs := List.flatMap_cons
      rw [hbytes]
      constructor
      · intro h
        cases bytes with
        | nil => cases h
        | cons b bytes =>
            obtain ⟨bs, n, rest, cs', hshape, hsplit, hcs, hrest⟩ := exists_shape_of_decode? h
            obtain ⟨rfl, rfl⟩ := List.cons.inj hcs
            rw [hsplit, hshape.utf8EncodeChar, ih.1 hrest]
      · rintro rfl
        have hread := (shape_utf8EncodeChar c).decode?_append (ih.2 rfl)
        rwa [Char.ofNat_toNat] at hread

end TrafficShaping.Text.Utf8
