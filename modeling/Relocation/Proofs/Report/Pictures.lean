import Relocation.Proofs.FileMap
import Relocation.Proofs.Report.Grammar
import Relocation.Proofs.Text.Shortcode

/-!
# Pictures between quotes

A picture that takes the place of a code stands between quotes like any other text: it is written in
characters that stand for themselves there, and the code that it replaces has no quotation mark.

* `Picture.isPlain_of_find?` — **names and pictures are plain**,
* `Shortcode.isPlain_shown` — what a code is shown as is plain if it has a picture.
-/

namespace Relocation

open Json (isPlain)

theorem Json.isPlain_iff {c : Char} :
    isPlain c = true ↔ 32 ≤ c.toNat ∧ c.toNat ≠ 34 ∧ c.toNat ≠ 92 := by
  have hquote : c = '"' ↔ c.toNat = 34 := Char.toNat_inj.symm
  have hslash : c = '\\' ↔ c.toNat = 92 := Char.toNat_inj.symm
  have hblank : ' ' ≤ c ↔ 32 ≤ c.toNat := Iff.rfl
  simp [isPlain, hquote, hslash, hblank, and_assoc]

/-- The text consists of characters that stand for themselves between quotes. -/
def IsPlainText (text : List Char) : Prop :=
  ∀ c ∈ text, isPlain c = true

namespace Picture

/-! ## Bytes -/

/-- The bytes of a text. -/
def bytes (s : String) : List UInt8 :=
  s.toByteArray.data.toList

theorem mem_bytes {s : String} {c : Char} {b : UInt8} (hc : c ∈ s.toList)
    (hb : b ∈ String.utf8EncodeChar c) : b ∈ bytes s := by
  rw [bytes, toList_toByteArray]
  exact List.mem_flatMap.mpr ⟨c, hc, hb⟩

/-- An ASCII character is one byte. -/
theorem mem_utf8EncodeChar {c : Char} (hc : c.toNat < 128) :
    UInt8.ofNat c.toNat ∈ String.utf8EncodeChar c := by
  have hle : c.val.toNat ≤ 127 := Nat.le_of_lt_succ hc
  simp only [String.utf8EncodeChar, if_pos hle]
  exact List.mem_singleton_self _

/-- Any other character has a byte that is not one. -/
theorem exists_mem_utf8EncodeChar {c : Char} (hc : 128 ≤ c.toNat) :
    ∃ b ∈ String.utf8EncodeChar c, 128 ≤ b.toNat := by
  have hlarge : ¬c.val.toNat ≤ 127 := Nat.not_le_of_lt hc
  simp only [String.utf8EncodeChar, if_neg hlarge]
  split
  · refine ⟨_, List.mem_cons_self, ?_⟩
    rw [UInt8.toNat_ofNat']
    omega
  split
  · refine ⟨_, List.mem_cons_self, ?_⟩
    rw [UInt8.toNat_ofNat']
    omega
  · refine ⟨_, List.mem_cons_self, ?_⟩
    rw [UInt8.toNat_ofNat']
    omega

/-- No byte of the text is a control, a quotation mark or a backslash. Bytes are what a text is made
of, so tables are checked for these. -/
def hasPlainBytes (s : String) : Bool :=
  (bytes s).all fun b => 32 ≤ b.toNat && b.toNat != 34 && b.toNat != 92

theorem isPlainText_of_bytes {s : String} (h : hasPlainBytes s = true) : IsPlainText s.toList := by
  intro c hc
  rw [Json.isPlain_iff]
  by_cases hsmall : c.toNat < 128
  · have hbyte := List.all_eq_true.mp h _ (mem_bytes hc (mem_utf8EncodeChar hsmall))
    have hvalue : (UInt8.ofNat c.toNat).toNat = c.toNat := by
      rw [UInt8.toNat_ofNat']
      omega
    simpa [hvalue, and_assoc] using hbyte
  · omega

theorem toNat_lt_of_bytes {s : String} (h : (bytes s).all (·.toNat < 128) = true) :
    ∀ c ∈ s.toList, c.toNat < 128 := by
  intro c hc
  by_contra hlarge
  obtain ⟨b, hb, hle⟩ := exists_mem_utf8EncodeChar (Nat.le_of_not_lt hlarge)
  have hlt := List.all_eq_true.mp h b (mem_bytes hc hb)
  exact absurd (of_decide_eq_true hlt) (Nat.not_lt_of_le hle)

/-! ## Tables -/

theorem hasPlainBytes_listed :
    ∀ entry ∈ listed, hasPlainBytes entry.1 = true ∧ hasPlainBytes entry.2 = true := by
  decide +kernel

theorem hasPlainBytes_regions : ∀ entry ∈ regions, hasPlainBytes entry.1 = true := by
  decide +kernel

/-- Regions are written in ASCII. -/
theorem isAscii_regions : ∀ entry ∈ regions, (bytes entry.2).all (·.toNat < 128) = true := by
  decide +kernel

theorem hasPlainBytes_toned : ∀ name ∈ toned, hasPlainBytes name = true := by
  decide +kernel

/-! ## Names and pictures -/

theorem isPlain_moved {first : Nat} (hlow : 0xdfff < first) (hhigh : first < 0x10f000)
    {letter : Char} (hletter : letter.toNat < 128) : isPlain (moved first letter) = true := by
  have hvalid : (first + (letter.toNat - 'a'.toNat)).isValidChar := .inr (by
    have : 'a'.toNat = 97 := rfl
    omega)
  have hcode : (moved first letter).toNat = first + (letter.toNat - 'a'.toNat) := by
    rw [moved, Char.ofNat, dif_pos hvalid]
    rfl
  rw [Json.isPlain_iff, hcode]
  omega

theorem isPlain_flag {name region : String} (h : (name, region) ∈ regions) :
    IsPlainText (flag region).toList := by
  have hascii := toNat_lt_of_bytes (isAscii_regions _ h)
  unfold flag
  split
  · intro c hc
    rw [String.toList_ofList, List.mem_map] at hc
    obtain ⟨letter, hletter, rfl⟩ := hc
    exact isPlain_moved (by decide) (by decide) (hascii letter hletter)
  · intro c hc
    simp only [String.toList_ofList, List.cons_append, List.mem_cons, List.mem_append,
      List.mem_map, List.not_mem_nil, or_false] at hc
    obtain rfl | ⟨letter, hletter, rfl⟩ | rfl := hc
    · decide
    · exact isPlain_moved (by decide) (by decide) (hascii letter hletter)
    · decide

theorem isPlain_withTone {picture : String} (h : IsPlainText picture.toList) {tone : Char}
    (htone : isPlain tone = true) : IsPlainText (withTone tone picture).toList := by
  unfold withTone
  split
  · exact nofun
  · next first rest heq =>
    rw [heq] at h
    intro c hc
    simp only [String.toList_ofList, List.mem_cons] at hc
    obtain rfl | rfl | hc := hc
    · exact h c List.mem_cons_self
    · exact htone
    · exact h c (List.mem_cons_of_mem _ (List.mem_cons_of_mem _ hc))
  · next first rest _ heq =>
    rw [heq] at h
    intro c hc
    simp only [String.toList_ofList, List.mem_cons] at hc
    obtain rfl | rfl | hc := hc
    · exact h c List.mem_cons_self
    · exact htone
    · exact h c (List.mem_cons_of_mem _ hc)

theorem isPlain_of_lookup {name picture : String} (h : listed.lookup name = some picture) :
    IsPlainText name.toList ∧ IsPlainText picture.toList := by
  obtain ⟨hname, hpicture⟩ := hasPlainBytes_listed _ (Entries.mem_of_lookup h)
  exact ⟨isPlainText_of_bytes hname, isPlainText_of_bytes hpicture⟩

theorem isPlain_of_before? {ending name : List Char} {base : String}
    (h : before? ending name = some base) (hbase : IsPlainText base.toList)
    (hending : IsPlainText ending) : IsPlainText name := by
  unfold before? at h
  split at h
  · next hsuffix =>
    cases h
    obtain ⟨start, rfl⟩ := List.isSuffixOf_iff_suffix.mp hsuffix
    have hstart : IsPlainText start := by simpa using hbase
    exact List.forall_mem_append.mpr ⟨hstart, hending⟩
  · cases h

theorem isPlain_of_inTone? {name picture : String} (h : inTone? name = some picture) :
    IsPlainText name.toList ∧ IsPlainText picture.toList := by
  have htones : ∀ tone ∈ skinTones, isPlain tone.2 = true ∧
      s!"_{tone.1}_skin_tone".toList.all isPlain = true := by decide
  obtain ⟨⟨label, tone⟩, htone, h⟩ := List.exists_of_findSome?_eq_some h
  obtain ⟨htone, hending⟩ := htones _ htone
  simp only [Option.bind_eq_bind, Option.bind_eq_some_iff, Option.ite_none_right_eq_some,
    Option.map_eq_some_iff] at h
  obtain ⟨base, hbefore, htoned, plain, hplain, rfl⟩ := h
  have hbase := hasPlainBytes_toned base (List.contains_iff_mem.mp htoned)
  exact ⟨isPlain_of_before? hbefore (isPlainText_of_bytes hbase) (List.all_eq_true.mp hending),
    isPlain_withTone (isPlain_of_lookup hplain).2 htone⟩

/-- **Names and pictures are plain.** -/
theorem isPlain_of_find? {name picture : String} (h : find? name = some picture) :
    IsPlainText name.toList ∧ IsPlainText picture.toList := by
  simp only [find?, Option.orElse_eq_orElse, Option.orElse_eq_or, Option.or_eq_some_iff,
    Option.map_eq_some_iff] at h
  obtain h | ⟨-, ⟨region, hregion, rfl⟩ | ⟨-, h⟩⟩ := h
  · exact isPlain_of_lookup h
  · have hmem := Entries.mem_of_lookup hregion
    exact ⟨isPlainText_of_bytes (hasPlainBytes_regions _ hmem), isPlain_flag hmem⟩
  · exact isPlain_of_inTone? h

end Picture

/-! ## Codes -/

/-- Lower case leaves quotation marks. -/
theorem Text.quote_mem_lowerAfter {before text : List Char} (h : '"' ∈ text) :
    '"' ∈ lowerAfter before text := by
  induction text generalizing before with
  | nil => cases h
  | cons c rest ih =>
    rw [lowerAfter, List.mem_append]
    rcases List.mem_cons.mp h with rfl | h
    · left
      have hlower : lowerChar '"' = '"' := by decide
      simp [lowerBetween, hlower]
    · exact .inr (ih h)

namespace Shortcode

variable {code : Code} {picture : String}

/-- A code asks for one of the looks, or for none. -/
theorem look_mem_of_read? {seen text : List Char} (h : read? seen text = some code) :
    code.look ∈ choices := by
  induction text generalizing seen with
  | nil => cases h
  | cons c rest ih =>
    unfold read? at h
    split at h
    · next look tail hending =>
      cases h
      rw [ending?_eq] at hending
      obtain ⟨look', hlook, heq⟩ := List.exists_of_findSome?_eq_some hending
      obtain ⟨_, -, hpair⟩ := Option.map_eq_some_iff.mp heq
      cases hpair
      exact hlook
    · split at h
      · cases h
      · exact ih h

/-- A code with a picture has no quotation mark in its name. -/
theorem quote_not_mem_name (h : picture? code = some picture) : '"' ∉ code.name := by
  intro hmem
  have hlower : '"' ∈ (Text.lower (.ofList code.name)).toList := by
    rw [Text.lower, String.toList_ofList, String.toList_ofList]
    exact Text.quote_mem_lowerAfter hmem
  exact absurd ((Picture.isPlain_of_find? h).1 _ hlower) (by decide)

/-- A picture is plain, together with the character that selects its look. -/
theorem isPlain_shown (h : picture? code = some picture) (hlook : code.look ∈ choices) :
    IsPlainText (shown code) := by
  have hselectors : ∀ look ∈ choices, (look.map fun look => look.2).toList.all isPlain = true := by
    decide
  simp only [shown, h]
  exact List.forall_mem_append.mpr ⟨(Picture.isPlain_of_find? h).2,
    List.all_eq_true.mp (hselectors _ hlook)⟩

end Shortcode

end Relocation
