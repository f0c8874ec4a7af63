import Mathlib.Data.List.Basic
import Relocation.Text.Shortcode

/-!
# What becomes of a text with shortcodes

A text is read once from left to right and falls into parts: characters on their own and whole
codes. Replacing its codes changes the codes that have a picture and nothing else.

* `Shortcode.parts` — the parts of a text,
* `Shortcode.IsPlain` — no code of the text has a picture,
* `Shortcode.expand_eq_self_iff` — **a text comes out as it went in exactly when it is plain**,
* `Shortcode.parts_append` — no code goes on past a blank, so texts with a blank between them are
  read apart.
-/

namespace Relocation

namespace Picture

/-! ## Pictures are not colons -/

/-- A picture has a first character, and it is not a colon. -/
def StartsApart (picture : String) : Prop :=
  ∃ c rest, picture.toList = c :: rest ∧ c ≠ ':'

/-- The bytes of a text are those of its characters. -/
theorem toList_toByteArray (s : String) :
    s.toByteArray.data.toList = s.toList.flatMap String.utf8EncodeChar := by
  rw [← String.utf8Encode_toList, List.utf8Encode, List.data_toByteArray, List.toList_toArray]

/-- The first byte of a text is there and is not that of a colon. Bytes are what a text is made
of, so tables are checked for these. -/
def startsApart (picture : String) : Bool :=
  picture.toByteArray.data.toList.head?.any (· != 58)

theorem startsApart_of_byte {picture : String} (h : startsApart picture = true) :
    StartsApart picture := by
  unfold startsApart at h
  rw [toList_toByteArray] at h
  cases hlist : picture.toList with
  | nil => simp [hlist] at h
  | cons c rest =>
    refine ⟨c, rest, hlist, ?_⟩
    rintro rfl
    rw [hlist] at h
    simp [String.utf8EncodeChar] at h

theorem startsApart_listed : ∀ entry ∈ listed, startsApart entry.2 = true := by
  decide +kernel

theorem toNat_ofNat_eq (n : Nat) : (Char.ofNat n).toNat = n ∨ (Char.ofNat n).toNat = 0 := by
  rw [Char.ofNat]
  by_cases hvalid : n.isValidChar
  · rw [dif_pos hvalid]
    exact .inl rfl
  · rw [dif_neg hvalid]
    exact .inr rfl

theorem moved_ne_colon {first : Nat} (hfirst : 58 < first) (letter : Char) :
    moved first letter ≠ ':' := by
  intro h
  have hcode : (moved first letter).toNat = 58 := congrArg Char.toNat h
  unfold moved at hcode
  rcases toNat_ofNat_eq (first + (letter.toNat - 'a'.toNat)) with hsame | hzero <;> omega

theorem startsApart_flag (region : String) : StartsApart (flag region) := by
  unfold flag
  split
  · next hlength =>
    rw [← String.length_toList] at hlength
    obtain ⟨a, rest, hregion⟩ := List.exists_cons_of_length_eq_add_one hlength
    exact ⟨_, _, by rw [String.toList_ofList, hregion, List.map_cons], moved_ne_colon (by decide) a⟩
  · exact ⟨_, _, by rw [String.toList_ofList, List.cons_append], by decide⟩

theorem startsApart_withTone {picture : String} (h : StartsApart picture) (tone : Char) :
    StartsApart (withTone tone picture) := by
  obtain ⟨c, rest, hlist, hc⟩ := h
  unfold withTone
  rw [hlist]
  split
  · next heq => exact absurd heq (List.cons_ne_nil _ _)
  · next heq =>
    cases heq
    exact ⟨c, _, String.toList_ofList, hc⟩
  · next heq =>
    cases heq
    exact ⟨c, _, String.toList_ofList, hc⟩

theorem startsApart_of_lookup {name picture : String} (h : listed.lookup name = some picture) :
    StartsApart picture := by
  obtain ⟨before, after, hlisted, -⟩ := List.lookup_eq_some_iff.mp h
  exact startsApart_of_byte (startsApart_listed (name, picture) (by simp [hlisted]))

theorem startsApart_of_inTone? {name picture : String} (h : inTone? name = some picture) :
    StartsApart picture := by
  obtain ⟨⟨label, tone⟩, -, h⟩ := List.exists_of_findSome?_eq_some h
  simp only [Option.bind_eq_bind, Option.bind_eq_some_iff, Option.ite_none_right_eq_some,
    Option.map_eq_some_iff] at h
  obtain ⟨base, -, -, plain, hplain, rfl⟩ := h
  exact startsApart_withTone (startsApart_of_lookup hplain) tone

/-- **No picture starts with a colon**, and none is empty. -/
theorem startsApart_of_find? {name picture : String} (h : find? name = some picture) :
    StartsApart picture := by
  simp only [find?, Option.orElse_eq_orElse, Option.orElse_eq_or, Option.or_eq_some_iff,
    Option.map_eq_some_iff] at h
  obtain h | ⟨-, ⟨region, -, rfl⟩ | ⟨-, h⟩⟩ := h
  · exact startsApart_of_lookup h
  · exact startsApart_flag region
  · exact startsApart_of_inTone? h

end Picture

namespace Shortcode

/-! ## Reading a code -/

/-- The looks that a code can ask for, in the order in which they are tried; the last one is none
in particular. -/
def choices : List (Option (String × Char)) :=
  looks.map some ++ [none]

/-- How a code ends that asks for a given look. -/
def closing (look : Option (String × Char)) : List Char :=
  (look.map fun look => look.1.toList).getD [] ++ [':']

theorem ending?_eq (text : List Char) :
    ending? text = choices.findSome? fun look => (after? (closing look) text).map (look, ·) := by
  simp only [ending?, choices, looks, closing, List.findSome?_cons, List.findSome?_nil, List.map,
    List.cons_append, List.nil_append, Option.map, Option.getD]
  cases after? ("-emoji".toList ++ [':']) text <;> cases after? ("-text".toList ++ [':']) text <;>
    cases after? [':'] text <;> rfl

theorem after?_eq_some_iff {start text rest : List Char} :
    after? start text = some rest ↔ text = start ++ rest := by
  unfold after?
  constructor
  · intro h
    split at h
    · next hstart =>
      obtain ⟨tail, rfl⟩ := List.isPrefixOf_iff_prefix.mp hstart
      simpa using h
    · cases h
  · rintro rfl
    simp [List.isPrefixOf_iff_prefix]

theorem eq_of_ending? {text rest : List Char} {look : Option (String × Char)}
    (h : ending? text = some (look, rest)) : text = closing look ++ rest := by
  rw [ending?_eq] at h
  obtain ⟨look', -, h⟩ := List.exists_of_findSome?_eq_some h
  obtain ⟨tail, htail, hpair⟩ := Option.map_eq_some_iff.mp h
  cases hpair
  exact after?_eq_some_iff.mp htail

/-- A code that is read is the text from its name on. -/
theorem eq_of_read? {seen text : List Char} {code : Code} (h : read? seen text = some code) :
    seen.reverse ++ text = code.name ++ closing code.look ++ code.rest := by
  induction text generalizing seen with
  | nil => cases h
  | cons c rest ih =>
    unfold read? at h
    split at h
    · next look tail hending =>
      cases h
      simp [eq_of_ending? hending]
    · split at h
      · cases h
      · simpa using ih h

theorem length_rest_lt {text : List Char} {code : Code} (h : read? [] text = some code) :
    code.rest.length < text.length := by
  have htext := congrArg List.length (eq_of_read? h)
  simp only [List.reverse_nil, List.nil_append, List.length_append, closing,
    List.length_singleton] at htext
  omega

/-! ## The parts of a text -/

/-- A part of a text: a character on its own or a whole code. -/
inductive Part where
  | plain (c : Char)
  | code (name : List Char) (look : Option (String × Char))
  deriving DecidableEq

namespace Part

/-- A part as it stands in the text. -/
def written : Part → List Char
  | plain c => [c]
  | code name look => ':' :: name ++ closing look

/-- A part as it comes out. -/
def shown : Part → List Char
  | plain c => [c]
  | code name look => Shortcode.shown ⟨name, look, []⟩

/-- The picture of a part. -/
def picture? : Part → Option String
  | plain _ => none
  | code name look => Shortcode.picture? ⟨name, look, []⟩

theorem shown_eq_written {part : Part} (h : part.picture? = none) : part.shown = part.written := by
  cases part with
  | plain c => rfl
  | code name look =>
    have h : Shortcode.picture? ⟨name, look, []⟩ = none := h
    simp [shown, written, Shortcode.shown, h, closing]

/-- A picture shows: the text no longer starts with a colon. -/
theorem shown_append_ne {part : Part} {picture : String} (h : part.picture? = some picture)
    (x y : List Char) : part.shown ++ x ≠ part.written ++ y := by
  cases part with
  | plain c => cases h
  | code name look =>
    have h : Shortcode.picture? ⟨name, look, []⟩ = some picture := h
    obtain ⟨c, rest, hlist, hc⟩ := Picture.startsApart_of_find? h
    simp [shown, written, Shortcode.shown, h, hlist, hc]

end Part

/-- The parts of a text, from left to right. -/
def parts : List Char → List Part
  | [] => []
  | c :: rest =>
    if c = ':' then
      match _hcode : read? [] rest with
      | some code => .code code.name code.look :: parts code.rest
      | none => .plain c :: parts rest
    else .plain c :: parts rest
termination_by text => text.length
decreasing_by
  · have := length_rest_lt _hcode
    simp only [List.length_cons]
    omega
  all_goals simp

theorem parts_nil : parts [] = [] := by
  rw [parts]

theorem parts_cons {c : Char} (hc : c ≠ ':') (rest : List Char) :
    parts (c :: rest) = .plain c :: parts rest := by
  rw [parts, if_neg hc]

theorem parts_code {rest : List Char} {code : Code} (h : read? [] rest = some code) :
    parts (':' :: rest) = .code code.name code.look :: parts code.rest := by
  rw [parts, if_pos rfl]
  split
  · next code' hcode =>
    rw [h] at hcode
    cases hcode
    rfl
  · next hcode =>
    rw [h] at hcode
    cases hcode

theorem parts_colon {rest : List Char} (h : read? [] rest = none) :
    parts (':' :: rest) = .plain ':' :: parts rest := by
  rw [parts, if_pos rfl]
  split
  · next code' hcode =>
    rw [h] at hcode
    cases hcode
  · rfl

theorem flatMap_written (text : List Char) : (parts text).flatMap Part.written = text := by
  fun_induction parts text with
  | case1 => rfl
  | case2 rest code hcode ih =>
    have htext := eq_of_read? hcode
    simp_all [Part.written]
  | case3 rest hcode ih => simp [Part.written, ih]
  | case4 c rest hc ih => simp [Part.written, ih]

/-- Enough rounds replace all codes. -/
theorem expandFor_eq {rounds text : List Char} (h : text.length ≤ rounds.length) :
    expandFor rounds text = (parts text).flatMap Part.shown := by
  induction rounds generalizing text with
  | nil =>
    obtain rfl := List.length_eq_zero_iff.mp (Nat.le_zero.mp h)
    rw [parts_nil]
    rfl
  | cons round rounds ih =>
    cases text with
    | nil =>
      rw [parts_nil]
      rfl
    | cons c rest =>
      have hrest : rest.length ≤ rounds.length := by simpa using h
      by_cases hc : c = ':'
      · subst hc
        cases hcode : read? [] rest with
        | some code =>
          have hlt := length_rest_lt hcode
          simp only [expandFor, hcode, parts_code hcode, List.flatMap_cons]
          rw [ih (by omega)]
          rfl
        | none => simp [expandFor, hcode, parts_colon hcode, Part.shown, ih hrest]
      · simp [expandFor, parts_cons hc, Part.shown, ih hrest]

theorem expand_eq (text : List Char) : expand text = (parts text).flatMap Part.shown :=
  expandFor_eq (Nat.le_refl _)

theorem expand_nil : expand [] = [] :=
  rfl

theorem expand_cons {c : Char} (hc : c ≠ ':') (rest : List Char) :
    expand (c :: rest) = c :: expand rest := by
  rw [expand_eq, parts_cons hc, List.flatMap_cons, ← expand_eq]
  rfl

theorem expand_code {rest : List Char} {code : Code} (h : read? [] rest = some code) :
    expand (':' :: rest) = shown code ++ expand code.rest := by
  rw [expand_eq, parts_code h, List.flatMap_cons, ← expand_eq]
  rfl

theorem expand_colon {rest : List Char} (h : read? [] rest = none) :
    expand (':' :: rest) = ':' :: expand rest := by
  rw [expand_eq, parts_colon h, List.flatMap_cons, ← expand_eq]
  rfl

theorem expand_append_of_not_mem {x : List Char} (h : ':' ∉ x) (t : List Char) :
    expand (x ++ t) = x ++ expand t := by
  induction x with
  | nil => rfl
  | cons c x ih =>
    obtain ⟨hc, hx⟩ := not_or.mp (mt List.mem_cons.mpr h)
    rw [List.cons_append, expand_cons (Ne.symm hc), ih hx, List.cons_append]

/-! ## Plain texts -/

/-- No code of a text has a picture. -/
def IsPlain (text : List Char) : Prop :=
  ∀ part ∈ parts text, part.picture? = none

theorem isPlain_nil : IsPlain [] := by
  simp [IsPlain, parts_nil]

theorem isPlain_colon : IsPlain [':'] := by
  rw [IsPlain, parts_colon rfl, parts_nil, List.forall_mem_singleton]
  rfl

theorem flatMap_shown_eq_iff {ps : List Part} :
    ps.flatMap Part.shown = ps.flatMap Part.written ↔ ∀ part ∈ ps, part.picture? = none := by
  induction ps with
  | nil => simp
  | cons part ps ih =>
    rw [List.flatMap_cons, List.flatMap_cons, List.forall_mem_cons]
    cases hpicture : part.picture? with
    | none => rw [Part.shown_eq_written hpicture, List.append_cancel_left_eq, ih, eq_self, true_and]
    -- whatever comes after the first picture cannot make up for it
    | some picture => simp [Part.shown_append_ne hpicture]

/-- **A text comes out as it went in exactly when it is plain.** -/
theorem expand_eq_self_iff {text : List Char} : expand text = text ↔ IsPlain text := by
  rw [expand_eq]
  nth_rewrite 2 [← flatMap_written text]
  exact flatMap_shown_eq_iff

/-! ## Texts that are read apart -/

/-- A text that no code from before it goes on into: it starts with white space, if need be after
commas. -/
inductive Apart : List Char → Prop
  | nil : Apart []
  | blank {c : Char} (hc : CharSet.blank.contains c = true) (text : List Char) : Apart (c :: text)
  | comma {text : List Char} (h : Apart text) : Apart (',' :: text)

variable {x t : List Char}

theorem Apart.head_not_mem (h : Apart t) (look : Option (String × Char)) (hlook : look ∈ choices) :
    ∀ c ∈ t.head?, c ∉ closing look := by
  have hall : ∀ look ∈ choices, (closing look).all
      (fun a => CharSet.blank.contains a = false && a != ',') = true := by decide
  have hclosing : ∀ a ∈ closing look, CharSet.blank.contains a = false ∧ a ≠ ',' := by
    simpa using hall look hlook
  cases h with
  | nil => simp
  | blank hc text =>
    rintro c ⟨⟩ hmem
    rw [(hclosing _ hmem).1] at hc
    cases hc
  | comma h =>
    rintro c ⟨⟩ hmem
    exact (hclosing _ hmem).2 rfl

theorem after?_append {start : List Char} (h : ∀ c ∈ t.head?, c ∉ start) :
    after? start (x ++ t) = (after? start x).map (· ++ t) := by
  refine Option.ext fun rest => ?_
  rw [after?_eq_some_iff, Option.map_eq_some_iff, List.append_eq_append_iff]
  simp only [after?_eq_some_iff]
  constructor
  · rintro (⟨tail, rfl, rfl⟩ | ⟨tail, rfl, rfl⟩)
    · -- an ending that goes on into `t` would hold its first character
      cases tail with
      | nil => exact ⟨[], by simp, rfl⟩
      | cons c tail => exact absurd (by simp) (h c rfl)
    · exact ⟨tail, rfl, rfl⟩
  · rintro ⟨tail, rfl, rfl⟩
    exact .inr ⟨tail, rfl, rfl⟩

theorem ending?_append (h : Apart t) :
    ending? (x ++ t) = (ending? x).map fun e => (e.1, e.2 ++ t) := by
  have heach : choices.map (fun look => (after? (closing look) (x ++ t)).map (look, ·)) =
      choices.map fun look =>
        ((after? (closing look) x).map (look, ·)).map fun e => (e.1, e.2 ++ t) := by
    refine List.map_congr_left fun look hlook => ?_
    rw [after?_append (h.head_not_mem look hlook), Option.map_map, Option.map_map]
    rfl
  rw [ending?_eq, ending?_eq, List.map_findSome?]
  simpa [List.findSome?_map, Function.comp_def] using congrArg (List.findSome? id) heach

theorem read?_eq_none_of_apart (h : Apart t) (seen : List Char) : read? seen t = none := by
  have hending : ∀ {t}, Apart t → ending? t = none := fun {t} h => ending?_append (x := []) h
  induction h generalizing seen with
  | nil => rfl
  | blank hc text => simp [read?, hending (.blank hc text), hc]
  | comma h ih => simp [read?, hending (.comma h), ih]

/-- A code before a text that is apart is read as if nothing came after it. -/
theorem read?_append (h : Apart t) (seen : List Char) :
    read? seen (x ++ t) = (read? seen x).map fun code => { code with rest := code.rest ++ t } := by
  induction x generalizing seen with
  | nil => exact read?_eq_none_of_apart h seen
  | cons c x ih =>
    have hending := ending?_append (x := c :: x) h
    rw [List.cons_append] at hending ⊢
    unfold read?
    rw [hending]
    cases ending? (c :: x) with
    | some e => rfl
    | none =>
      simp only [Option.map_none]
      split
      · rfl
      · exact ih (c :: seen)

/-- **Texts that are apart are read one after the other.** -/
theorem parts_append (h : Apart t) (x : List Char) : parts (x ++ t) = parts x ++ parts t := by
  fun_induction parts x with
  | case1 => rfl
  | case2 rest code hcode ih =>
    have hread : read? [] (rest ++ t) = some { code with rest := code.rest ++ t } := by
      rw [read?_append h, hcode]
      rfl
    rw [List.cons_append, parts_code hread, ih, List.cons_append]
  | case3 rest hcode ih =>
    have hread : read? [] (rest ++ t) = none := by
      rw [read?_append h, hcode]
      rfl
    rw [List.cons_append, parts_colon hread, ih, List.cons_append]
  | case4 c rest hc ih => rw [List.cons_append, parts_cons hc, ih, List.cons_append]

theorem expand_append (h : Apart t) (x : List Char) : expand (x ++ t) = expand x ++ expand t := by
  simp only [expand_eq, parts_append h, List.flatMap_append]

theorem isPlain_append_iff (h : Apart t) : IsPlain (x ++ t) ↔ IsPlain x ∧ IsPlain t := by
  unfold IsPlain
  rw [parts_append h, List.forall_mem_append]

/-- Characters other than colons take no part in codes after them. -/
theorem isPlain_append_of_not_mem (h : ':' ∉ x) : IsPlain (x ++ t) ↔ IsPlain t := by
  induction x with
  | nil => rfl
  | cons c x ih =>
    obtain ⟨hc, hx⟩ := not_or.mp (mt List.mem_cons.mpr h)
    rw [List.cons_append, IsPlain, parts_cons (Ne.symm hc), List.forall_mem_cons]
    exact (and_iff_right rfl).trans (ih hx)

theorem isPlain_of_not_mem (h : ':' ∉ x) : IsPlain x := by
  simpa using (isPlain_append_of_not_mem (t := []) h).mpr isPlain_nil

end Shortcode

end Relocation
