import Relocation.Text.Utf8

/-!
# Reading back what was written

What `Utf8.encode` writes, `Utf8.decode` reads back. The reader takes a character byte by byte, so
its steps are told first for one byte each, and then for the first byte of a character by the number
of bytes that the character has.

* `decodeFrom_encodeChar` — a step over one character,
* `decode_encode` — **a text is read back** from its bytes.
-/

namespace Relocation.Utf8

variable {pos n : Nat} {done : List Char} {b : UInt8} {rest : List UInt8} {p : Pending}

/-! ## One byte -/

theorem toNat_byte (h : n < 256) : (UInt8.ofNat n).toNat = n := by
  rw [UInt8.toNat_ofNat', Nat.mod_eq_of_lt h]

theorem le_byte_iff (h : n < 256) {low : UInt8} : low ≤ UInt8.ofNat n ↔ low.toNat ≤ n := by
  rw [UInt8.le_iff_toNat_le, toNat_byte h]

theorem byte_le_iff (h : n < 256) {high : UInt8} : UInt8.ofNat n ≤ high ↔ n ≤ high.toNat := by
  rw [UInt8.le_iff_toNat_le, toNat_byte h]

theorem byte_eq_iff (h : n < 256) {b : UInt8} : UInt8.ofNat n = b ↔ n = b.toNat := by
  rw [← UInt8.toNat_inj, toNat_byte h]

/-- A character of one byte. -/
theorem decodeFrom_single (h : b < 0x80) :
    decodeFrom pos done none (b :: rest) =
      decodeFrom (pos + 1) (Char.ofNat b.toNat :: done) none rest := by
  rw [decodeFrom]
  simp only [if_pos h]

/-- The first byte of several. -/
theorem decodeFrom_begin (hb : ¬b < 0x80) (h : begin? pos b = some p) :
    decodeFrom pos done none (b :: rest) = decodeFrom (pos + 1) done (some p) rest := by
  rw [decodeFrom]
  simp only [if_neg hb, h]

/-- The last byte of several. -/
theorem decodeFrom_last (hafter : p.after = 0) (hlow : p.low ≤ b) (hhigh : b ≤ p.high) :
    decodeFrom pos done (some p) (b :: rest) =
      decodeFrom (pos + 1) (Char.ofNat (p.bits * 64 + (b.toNat - 0x80)) :: done) none rest := by
  rw [decodeFrom]
  simp only [hafter, if_pos (And.intro hlow hhigh)]

/-- A byte between the first one and the last one. -/
theorem decodeFrom_next {after : Nat} (hafter : p.after = after + 1) (hlow : p.low ≤ b)
    (hhigh : b ≤ p.high) :
    decodeFrom pos done (some p) (b :: rest) =
      decodeFrom (pos + 1) done
        (some ⟨p.start, b :: p.seen, p.bits * 64 + (b.toNat - 0x80), after, 0x80, 0xbf⟩) rest := by
  rw [decodeFrom]
  simp only [hafter, if_pos (And.intro hlow hhigh)]

/-! ## The first byte of a character -/

theorem begin?_two (hlow : 0xc2 ≤ n) (hhigh : n ≤ 0xdf) :
    begin? pos (UInt8.ofNat n) = some ⟨pos, [UInt8.ofNat n], n - 0xc0, 0, 0x80, 0xbf⟩ := by
  have hn : n < 256 := by omega
  simp only [begin?, le_byte_iff hn, byte_le_iff hn, toNat_byte hn, UInt8.reduceToNat]
  rw [if_pos ⟨hlow, hhigh⟩]

/-- Of three bytes, the second one is bounded from below after the first one of their first bytes,
and from above after the one that leads to the surrogates. -/
theorem exists_begin?_three (hlow : 0xe0 ≤ n) (hhigh : n ≤ 0xef) :
    ∃ p, begin? pos (UInt8.ofNat n) = some p ∧ p.bits = n - 0xe0 ∧ p.after = 1 ∧
      p.low = (if n = 0xe0 then 0xa0 else 0x80) ∧ p.high = if n = 0xed then 0x9f else 0xbf := by
  by_cases hfirst : n = 0xe0
  · subst hfirst
    exact ⟨_, rfl, rfl, rfl, rfl, rfl⟩
  by_cases hlast : n = 0xed
  · subst hlast
    exact ⟨_, rfl, rfl, rfl, rfl, rfl⟩
  have hn : n < 256 := by omega
  refine ⟨⟨pos, [UInt8.ofNat n], n - 0xe0, 1, 0x80, 0xbf⟩, ?_, rfl, rfl, ?_, ?_⟩
  · simp only [begin?, le_byte_iff hn, byte_le_iff hn, byte_eq_iff hn, toNat_byte hn,
      UInt8.reduceToNat]
    rw [if_neg (by omega), if_neg hfirst, if_neg hlast, if_pos (by omega)]
  · rw [if_neg hfirst]
  · rw [if_neg hlast]

/-- Of four bytes, the second one is bounded from below after the first one of their first bytes,
and from above after the last one. -/
theorem exists_begin?_four (hlow : 0xf0 ≤ n) (hhigh : n ≤ 0xf4) :
    ∃ p, begin? pos (UInt8.ofNat n) = some p ∧ p.bits = n - 0xf0 ∧ p.after = 2 ∧
      p.low = (if n = 0xf0 then 0x90 else 0x80) ∧ p.high = if n = 0xf4 then 0x8f else 0xbf := by
  by_cases hfirst : n = 0xf0
  · subst hfirst
    exact ⟨_, rfl, rfl, rfl, rfl, rfl⟩
  by_cases hlast : n = 0xf4
  · subst hlast
    exact ⟨_, rfl, rfl, rfl, rfl, rfl⟩
  have hn : n < 256 := by omega
  refine ⟨⟨pos, [UInt8.ofNat n], n - 0xf0, 2, 0x80, 0xbf⟩, ?_, rfl, rfl, ?_, ?_⟩
  · simp only [begin?, le_byte_iff hn, byte_le_iff hn, byte_eq_iff hn, toNat_byte hn,
      UInt8.reduceToNat]
    rw [if_neg (by omega), if_neg (by omega), if_neg (by omega), if_neg (by omega),
      if_neg hfirst, if_pos (by omega)]
  · rw [if_neg hfirst]
  · rw [if_neg hlast]

/-! ## One character -/

theorem not_byte_lt (hlow : 0x80 ≤ n) (hhigh : n < 256) : ¬UInt8.ofNat n < 0x80 := by
  rw [UInt8.lt_iff_toNat_lt, toNat_byte hhigh]
  simp only [UInt8.reduceToNat]
  omega

/-- The bytes that go on with a character, with six bits each. -/
def tail (v : Nat) : UInt8 :=
  UInt8.ofNat (v % 64 + 128)

theorem toNat_tail_sub (v : Nat) : (tail v).toNat - 0x80 = v % 64 := by
  rw [tail, toNat_byte (by omega), Nat.add_sub_cancel]

theorem le_tail_iff {v : Nat} : b ≤ tail v ↔ b.toNat ≤ v % 64 + 128 :=
  le_byte_iff (by omega)

theorem tail_le_iff {v : Nat} : tail v ≤ b ↔ v % 64 + 128 ≤ b.toNat :=
  byte_le_iff (by omega)

theorem le_tail (v : Nat) : 0x80 ≤ tail v :=
  le_tail_iff.mpr (Nat.le_add_left 128 (v % 64))

theorem tail_le (v : Nat) : tail v ≤ 0xbf := by
  rw [tail_le_iff]
  simp only [UInt8.reduceToNat]
  omega

theorem decodeFrom_two {v : Nat} (hlow : 0x7f < v) (hhigh : v ≤ 0x7ff) :
    decodeFrom pos done none (UInt8.ofNat (v / 64 % 32 + 192) :: tail v :: rest) =
      decodeFrom (pos + 2) (Char.ofNat v :: done) none rest := by
  have hbits : (v / 64 % 32 + 192 - 0xc0) * 64 + v % 64 = v := by omega
  rw [decodeFrom_begin (not_byte_lt (by omega) (by omega)) (begin?_two (by omega) (by omega)),
    decodeFrom_last rfl (le_tail v) (tail_le v)]
  simp only [toNat_tail_sub, hbits]

theorem decodeFrom_three {v : Nat} (hlow : 0x7ff < v) (hhigh : v ≤ 0xffff)
    (hvalid : v < 0xd800 ∨ 0xdfff < v) :
    decodeFrom pos done none
        (UInt8.ofNat (v / 4096 % 16 + 224) :: tail (v / 64) :: tail v :: rest) =
      decodeFrom (pos + 3) (Char.ofNat v :: done) none rest := by
  obtain ⟨p, hp, hbits, hafter, hplow, hphigh⟩ :=
    @exists_begin?_three pos (v / 4096 % 16 + 224) (by omega) (by omega)
  have hfirst : p.low ≤ tail (v / 64) := by
    rw [hplow, le_tail_iff]
    split <;> simp only [UInt8.reduceToNat] <;> omega
  have hlast : tail (v / 64) ≤ p.high := by
    rw [hphigh, tail_le_iff]
    split <;> simp only [UInt8.reduceToNat] <;> omega
  have hv : (p.bits * 64 + v / 64 % 64) * 64 + v % 64 = v := by omega
  rw [decodeFrom_begin (not_byte_lt (by omega) (by omega)) hp, decodeFrom_next hafter hfirst hlast,
    decodeFrom_last rfl (le_tail v) (tail_le v)]
  simp only [toNat_tail_sub, hv]

theorem decodeFrom_four {v : Nat} (hlow : 0xffff < v) (hhigh : v < 0x110000) :
    decodeFrom pos done none (UInt8.ofNat (v / 262144 % 8 + 240) :: tail (v / 4096) ::
        tail (v / 64) :: tail v :: rest) =
      decodeFrom (pos + 4) (Char.ofNat v :: done) none rest := by
  obtain ⟨p, hp, hbits, hafter, hplow, hphigh⟩ :=
    @exists_begin?_four pos (v / 262144 % 8 + 240) (by omega) (by omega)
  have hfirst : p.low ≤ tail (v / 4096) := by
    rw [hplow, le_tail_iff]
    split <;> simp only [UInt8.reduceToNat] <;> omega
  have hlast : tail (v / 4096) ≤ p.high := by
    rw [hphigh, tail_le_iff]
    split <;> simp only [UInt8.reduceToNat] <;> omega
  have hv : ((p.bits * 64 + v / 4096 % 64) * 64 + v / 64 % 64) * 64 + v % 64 = v := by omega
  rw [decodeFrom_begin (not_byte_lt (by omega) (by omega)) hp, decodeFrom_next hafter hfirst hlast,
    decodeFrom_next rfl (le_tail _) (tail_le _), decodeFrom_last rfl (le_tail v) (tail_le v)]
  simp only [toNat_tail_sub, hv]

/-- A step over one character. -/
theorem decodeFrom_encodeChar (pos : Nat) (done : List Char) (c : Char) (rest : List UInt8) :
    decodeFrom pos done none (String.utf8EncodeChar c ++ rest) =
      decodeFrom (pos + (String.utf8EncodeChar c).length) (c :: done) none rest := by
  obtain ⟨v, hv⟩ : ∃ v, v = c.val.toNat := ⟨_, rfl⟩
  have hvalid : v < 0xd800 ∨ 0xdfff < v ∧ v < 0x110000 := hv ▸ c.valid
  have hchar : c = Char.ofNat v := by
    rw [hv]
    exact (Char.ofNat_toNat c).symm
  rw [String.utf8EncodeChar, ← hv, hchar]
  split
  · next hone =>
    have hbyte : (UInt8.ofNat v).toNat = v := toNat_byte (by omega)
    have hlt : UInt8.ofNat v < 0x80 := by
      rw [UInt8.lt_iff_toNat_lt, hbyte]
      exact Nat.lt_succ_of_le hone
    rw [List.singleton_append, decodeFrom_single hlt, hbyte]
    rfl
  split
  · next hone htwo => exact decodeFrom_two (by omega) htwo
  split
  · next hone htwo hthree => exact decodeFrom_three (by omega) hthree (hvalid.imp_right And.left)
  · next hone htwo hthree => exact decodeFrom_four (by omega) (by omega)

/-! ## A text -/

theorem decodeFrom_encode (pos : Nat) (done text : List Char) :
    decodeFrom pos done none (encode text) = .ok (done.reverse ++ text) := by
  induction text generalizing pos done with
  | nil =>
    rw [List.append_nil]
    rfl
  | cons c text ih =>
    have hencode : encode (c :: text) = String.utf8EncodeChar c ++ encode text := rfl
    rw [hencode, decodeFrom_encodeChar, ih, List.reverse_cons, List.append_assoc]
    rfl

/-- **A text is read back** from its bytes. -/
theorem decode_encode (text : List Char) : decode (encode text) = .ok text :=
  decodeFrom_encode 0 [] text

end Relocation.Utf8
