import Relocation.Proofs.Report.Document
import Relocation.Proofs.Report.Pictures
import Relocation.Proofs.Report.Stream

/-!
# Reading the JSON report from a stream

A stream shows pictures in place of codes, which may change the texts of a document. All the same it
is a document of the same form: what stands between quotes stays there, and so do numbers, lists and
objects.

* `Json.exists_content_expand` — a text between quotes stays one,
* `Json.mapTexts` — a value with other texts and keys,
* `Comparison.read?_streamDocument` — **the stream carries the content of the report**, but for
  texts that have codes.
-/

namespace Relocation

namespace Shortcode

variable {code : Code}

/-- What stands in a code before its closing colon. -/
def Code.inner (code : Code) : List Char :=
  code.name ++ (code.look.map fun look => look.1.toList).getD []

theorem eq_inner_of_read? {text : List Char} (h : read? [] text = some code) :
    text = code.inner ++ ':' :: code.rest := by
  have htext := eq_of_read? h
  rwa [List.reverse_nil, List.nil_append, closing, ← List.append_assoc, List.append_assoc,
    List.singleton_append] at htext

theorem shown_eq_of_picture? (h : picture? code = none) :
    shown code = ':' :: (code.inner ++ [':']) := by
  simp [shown, h, Code.inner]

/-- A code with a quotation mark has no picture. -/
theorem picture?_eq_none_of_quote (hlook : code.look ∈ choices) (h : '"' ∈ code.inner) :
    picture? code = none := by
  have hlooks : ∀ look ∈ choices, '"' ∉ (look.map fun look => look.1.toList).getD [] := by decide
  rcases List.mem_append.mp h with hname | hmem
  · exact Option.eq_none_iff_forall_ne_some.mpr fun picture hpicture =>
      quote_not_mem_name hpicture hname
  · exact absurd hmem (hlooks _ hlook)

end Shortcode

namespace Json

open Shortcode (IsPlain Apart expand expand_append expand_append_of_not_mem)

/-! ## Texts with pictures -/

theorem colon_not_mem_hexDigits (width n : Nat) : ':' ∉ Text.hexDigits width n := by
  have hdigit : ∀ m < 16, ':' ≠ Text.hexDigit m := by decide
  intro hmem
  obtain ⟨m, hm, hcolon⟩ := exists_of_mem_hexDigits hmem
  exact hdigit m hm hcolon

theorem colon_not_mem_escape {c : Char} (hc : c ≠ ':') : ':' ∉ escape c := by
  have hunit (n : Nat) : ':' ∉ escapeUnit n := by
    simp [escapeUnit, colon_not_mem_hexDigits]
  unfold escape
  split
  iterate 7 decide
  split
  · simpa using Ne.symm hc
  · unfold escapeCode
    split <;> simp [hunit]

theorem escape_colon : escape ':' = [':'] :=
  rfl

/-- A colon after the start of a text between quotes is one of the text, or it comes after the
closing quote. -/
theorem flatMap_escape_split {text x z tail : List Char}
    (h : text.flatMap escape ++ '"' :: tail = x ++ ':' :: z) :
    (∃ a b, text = a ++ ':' :: b ∧ x = a.flatMap escape ∧ z = b.flatMap escape ++ '"' :: tail) ∨
      ∃ m, x = text.flatMap escape ++ '"' :: m ∧ tail = m ++ ':' :: z := by
  induction text generalizing x with
  | nil =>
    cases x with
    | nil => cases h
    | cons c m =>
      obtain ⟨rfl, htail⟩ := List.cons.inj h
      exact .inr ⟨m, rfl, htail⟩
  | cons c text ih =>
    have hlater {y : List Char} (hy : text.flatMap escape ++ '"' :: tail = y ++ ':' :: z)
        (hx : x = escape c ++ y) : (∃ a b, c :: text = a ++ ':' :: b ∧ x = a.flatMap escape ∧
          z = b.flatMap escape ++ '"' :: tail) ∨
        ∃ m, x = (c :: text).flatMap escape ++ '"' :: m ∧ tail = m ++ ':' :: z := by
      rcases ih hy with ⟨a, b, rfl, rfl, hz⟩ | ⟨m, rfl, htail⟩
      · exact .inl ⟨c :: a, b, rfl, hx, hz⟩
      · exact .inr ⟨m, by rw [hx, List.flatMap_cons, List.append_assoc], htail⟩
    rw [List.flatMap_cons, List.append_assoc] at h
    by_cases hc : c = ':'
    · subst hc
      cases x with
      | nil => exact .inl ⟨[], text, rfl, rfl, (List.cons.inj h).2.symm⟩
      | cons d y =>
        obtain ⟨rfl, hy⟩ := List.cons.inj h
        exact hlater hy rfl
    · rcases List.append_eq_append_iff.mp h with ⟨y, hx, hy⟩ | ⟨y, hescape, hy⟩
      · exact hlater hy hx
      · -- the colon would be in the escape of another character
        cases y with
        | nil => exact hlater (y := []) hy.symm (by rw [hescape, List.append_nil, List.append_nil])
        | cons d y =>
          obtain ⟨rfl, -⟩ := List.cons.inj hy
          exact absurd (hescape ▸ by simp) (colon_not_mem_escape hc)

theorem content_of_isPlainText {t : List Char} (h : IsPlainText t) :
    Content t (t.flatMap units) := by
  induction t with
  | nil => exact .nil
  | cons c t ih =>
    obtain ⟨hc, ht⟩ := List.forall_mem_cons.mp h
    exact .plain hc (ih ht)

/-- What a code within a text is shown as stands for some text. -/
theorem exists_content_shown {code : Shortcode.Code} {a : List Char}
    (hlook : code.look ∈ Shortcode.choices) (ha : code.inner = a.flatMap escape) :
    ∃ text : List Char, Content (Shortcode.shown code) (text.flatMap units) := by
  cases hpicture : Shortcode.picture? code with
  | some picture =>
    exact ⟨_, content_of_isPlainText (Shortcode.isPlain_shown hpicture hlook)⟩
  | none =>
    refine ⟨':' :: a ++ [':'], ?_⟩
    have hshown : Shortcode.shown code = (':' :: a ++ [':']).flatMap escape := by
      rw [Shortcode.shown_eq_of_picture? hpicture, ha]
      simp [escape_colon]
    rw [hshown]
    exact content_flatMap_escape _

/-- A code that goes over the closing quote has no picture, so it comes out as it went in. -/
theorem expand_over_quote {code : Shortcode.Code} {rest m tail : List Char}
    (hlook : code.look ∈ Shortcode.choices)
    (hinner : code.inner = rest.flatMap escape ++ '"' :: m) (htail : tail = [] ∨ tail = [':'])
    (hcolon : tail = m ++ ':' :: code.rest) :
    Shortcode.shown code ++ expand code.rest = (':' :: rest).flatMap escape ++ '"' :: tail := by
  obtain ⟨rfl, hend, rfl⟩ : m = [] ∧ code.rest = [] ∧ tail = [':'] := by
    rcases htail with rfl | rfl
    · simp at hcolon
    · simpa [List.singleton_eq_append_iff] using hcolon
  have hpicture := Shortcode.picture?_eq_none_of_quote hlook (hinner ▸ by simp)
  rw [Shortcode.shown_eq_of_picture? hpicture, hinner, hend]
  simp [escape_colon, Shortcode.expand_nil]

/-- **A text between quotes stays one.** Replacing its codes leaves the closing quote, be there a
colon after it or not. -/
theorem exists_content_expand {tail : List Char} (htail : tail = [] ∨ tail = [':'])
    (text : List Char) : ∃ t text' : List Char,
      expand (text.flatMap escape ++ '"' :: tail) = t ++ '"' :: tail ∧
        Content t (text'.flatMap units) := by
  induction hlength : text.length using Nat.strongRecOn generalizing text with
  | ind n ih =>
    subst hlength
    cases text with
    | nil =>
      refine ⟨[], [], ?_, .nil⟩
      rcases htail with rfl | rfl
      · rfl
      · rfl
    | cons c rest =>
      have hrest := ih rest.length (Nat.lt_succ_self _) rest rfl
      rw [List.flatMap_cons, List.append_assoc]
      by_cases hc : c = ':'
      · subst hc
        rw [escape_colon, List.singleton_append]
        cases hcode : Shortcode.read? [] (rest.flatMap escape ++ '"' :: tail) with
        | none =>
          obtain ⟨t, text', hexpand, hcontent⟩ := hrest
          rw [Shortcode.expand_colon hcode, hexpand]
          exact ⟨':' :: t, ':' :: text', rfl, .plain rfl hcontent⟩
        | some code =>
          have hlook := Shortcode.look_mem_of_read? hcode
          rw [Shortcode.expand_code hcode]
          have hsplit := flatMap_escape_split (Shortcode.eq_inner_of_read? hcode)
          rcases hsplit with ⟨a, b, rfl, ha, hb⟩ | ⟨m, hinner, hcolon⟩
          · -- the code is part of the text
            obtain ⟨t, text', hexpand, hcontent⟩ := ih b.length (by simp; omega) b rfl
            obtain ⟨shown, hshown⟩ := exists_content_shown hlook ha
            refine ⟨Shortcode.shown code ++ t, shown ++ text', ?_, ?_⟩
            · rw [hb, hexpand, List.append_assoc]
            · rw [List.flatMap_append]
              exact hshown.append hcontent
          · exact ⟨_, ':' :: rest, expand_over_quote hlook hinner htail hcolon,
              content_flatMap_escape _⟩
      · obtain ⟨t, text', hexpand, hcontent⟩ := hrest
        refine ⟨escape c ++ t, c :: text', ?_, (content_escape c).append hcontent⟩
        rw [expand_append_of_not_mem (colon_not_mem_escape hc), hexpand, List.append_assoc]

/-! ## Values with pictures -/

/-- What texts and keys become on a stream: those without codes stay as they are. -/
structure Recodes (f g : String → String) : Prop where
  text : ∀ s, Spells (expand (quote s)) (.text (f s))
  text_eq : ∀ s, IsPlain (quote s) → f s = s
  key : ∀ key, ∃ t, expand (quote key ++ [':']) = '"' :: (t ++ ['"', ':']) ∧
    Content t ((g key).toList.flatMap units)
  key_eq : ∀ key, IsPlain (quote key ++ [':']) → g key = key

theorem exists_reading {tail : List Char} (htail : tail = [] ∨ tail = [':']) (s : String) :
    ∃ s' : String, (∃ t, expand (quote s ++ tail) = '"' :: (t ++ '"' :: tail) ∧
      Content t (s'.toList.flatMap units)) ∧ (IsPlain (quote s ++ tail) → s' = s) := by
  have hquote : quote s ++ tail = '"' :: (s.toList.flatMap escape ++ '"' :: tail) := by
    simp [quote]
  by_cases hplain : IsPlain (quote s ++ tail)
  · refine ⟨s, ⟨s.toList.flatMap escape, ?_, content_flatMap_escape _⟩, fun _ => rfl⟩
    rw [Shortcode.expand_eq_self_iff.mpr hplain, hquote]
  · obtain ⟨t, text, hexpand, hcontent⟩ := exists_content_expand htail s.toList
    refine ⟨.ofList text, ⟨t, ?_, ?_⟩, fun h => absurd h hplain⟩
    · rw [hquote, Shortcode.expand_cons (by decide), hexpand]
    · rwa [String.toList_ofList]

theorem exists_recodes : ∃ f g, Recodes f g := by
  choose f hf hf_eq using exists_reading (.inl rfl)
  choose g hg hg_eq using exists_reading (.inr rfl)
  refine ⟨f, g, fun s => ?_, fun s h => hf_eq s (by rwa [List.append_nil]), hg, hg_eq⟩
  obtain ⟨t, hexpand, hcontent⟩ := hf s
  rw [List.append_nil] at hexpand
  rw [hexpand]
  exact .text hcontent

mutual

/-- A value with other texts and keys. -/
def mapTexts (f g : String → String) : Json → Json
  | text s => text (f s)
  | number n => number n
  | list items => list (mapItems f g items)
  | object members => object (mapMembers f g members)

/-- The items of a list with other texts and keys. -/
def mapItems (f g : String → String) : List Json → List Json
  | [] => []
  | item :: rest => item.mapTexts f g :: mapItems f g rest

/-- The members of an object with other keys, and their values with other texts and keys. -/
def mapMembers (f g : String → String) : List (String × Json) → List (String × Json)
  | [] => []
  | (key, value) :: rest => (g key, value.mapTexts f g) :: mapMembers f g rest

end

variable {f g : String → String}

theorem expand_newline (level : Nat) (t : List Char) :
    expand (newline level ++ t) = newline level ++ expand t :=
  expand_append_of_not_mem (colon_not_mem_newline level) t

/-- A key with its colon is read apart from the value, for there is a blank between them. -/
theorem expand_key (key : String) (t : List Char) :
    expand (quote key ++ ':' :: ' ' :: t) = expand (quote key ++ [':']) ++ ' ' :: expand t := by
  have hsplit : quote key ++ ':' :: ' ' :: t = (quote key ++ [':']) ++ ' ' :: t := by simp
  rw [hsplit, expand_append (.blank (by decide) t), Shortcode.expand_cons (by decide)]

mutual

/-- **A value with pictures is written as the grammar allows**, before a text that is apart. -/
theorem exists_spells_expand (h : Recodes f g) (level : Nat) {t : List Char} (ht : Apart t) :
    (j : Json) → ∃ w, expand (j.write level ++ t) = w ++ expand t ∧ Spells w (j.mapTexts f g)
  | text s => ⟨_, expand_append ht _, h.text s⟩
  | number n => ⟨_, expand_append_of_not_mem (colon_not_mem_number n) t, spells_number n⟩
  | list [] => ⟨_, expand_append_of_not_mem (x := ['[', ']']) (by decide) t, .noItems blank_nil⟩
  | list (item :: rest) => by
    have hrest := apart_newline level (']' :: t)
    obtain ⟨w, hexpand, hw⟩ :=
      exists_spells_expand h (level + 1) (apart_writeItems _ hrest rest) item
    obtain ⟨w', hexpand', hw'⟩ :=
      exists_spellsItems_expand h (level + 1) hrest (blank_newline level) rest hw
    refine ⟨_, ?_, .items hw'⟩
    simp only [write, List.cons_append, List.append_assoc, List.nil_append]
    rw [Shortcode.expand_cons (by decide), expand_newline, hexpand, hexpand', expand_newline,
      Shortcode.expand_cons (by decide)]
  | object [] =>
    ⟨_, expand_append_of_not_mem (x := ['\x7b', '\x7d']) (by decide) t, .noMembers blank_nil⟩
  | object ((key, value) :: rest) => by
    have hrest := apart_newline level ('\x7d' :: t)
    obtain ⟨w, hexpand, hw⟩ :=
      exists_spells_expand h (level + 1) (apart_writeMembers _ hrest rest) value
    obtain ⟨k, hkey, hk⟩ := h.key key
    obtain ⟨w', hexpand', hw'⟩ :=
      exists_spellsMembers_expand h (level + 1) hrest (blank_newline level) rest hk hw
    refine ⟨_, ?_, .members hw'⟩
    simp only [write, List.cons_append, List.append_assoc, List.nil_append]
    rw [Shortcode.expand_cons (by decide), expand_newline, expand_key, hkey, hexpand, hexpand',
      expand_newline, Shortcode.expand_cons (by decide)]
    simp

/-- The same for the items of a list, the first of which has been written. -/
theorem exists_spellsItems_expand (h : Recodes f g) (level : Nat) {t w : List Char} (ht : Apart t)
    (hw : Blank w) : (rest : List Json) → {first : List Char} → {item : Json} →
      Spells first item → ∃ w', expand (writeItems level rest ++ t) = w' ++ expand t ∧
        SpellsItems (newline level ++ (first ++ (w' ++ w))) (item :: mapItems f g rest)
  | [], _, _, hfirst => ⟨[], rfl, .last (blank_newline level) hfirst hw⟩
  | next :: rest, _, _, hfirst => by
    obtain ⟨w₁, hexpand, hw₁⟩ :=
      exists_spells_expand h level (apart_writeItems _ ht rest) next
    obtain ⟨w₂, hexpand', hw₂⟩ := exists_spellsItems_expand h level ht hw rest hw₁
    refine ⟨',' :: (newline level ++ (w₁ ++ w₂)), ?_, ?_⟩
    · simp only [writeItems, List.cons_append, List.append_assoc]
      rw [Shortcode.expand_cons (by decide), expand_newline, hexpand, hexpand']
    · simpa [mapItems] using SpellsItems.more (blank_newline level) hfirst blank_nil hw₂

/-- The same for the members of an object, the first of which has been written. -/
theorem exists_spellsMembers_expand (h : Recodes f g) (level : Nat) {t w : List Char}
    (ht : Apart t) (hw : Blank w) : (rest : List (String × Json)) → {k first : List Char} →
      {key : String} → {value : Json} → Content k (key.toList.flatMap units) →
      Spells first value → ∃ w', expand (writeMembers level rest ++ t) = w' ++ expand t ∧
        SpellsMembers (newline level ++ '"' :: (k ++ '"' :: ':' :: ' ' :: (first ++ (w' ++ w))))
          ((key, value) :: mapMembers f g rest)
  | [], _, _, _, _, hk, hfirst => by
    have hblank : Blank [' '] := by simp [Blank, isSpace]
    refine ⟨[], rfl, ?_⟩
    simpa [mapMembers] using SpellsMembers.last (blank_newline level) hk blank_nil hblank hfirst hw
  | (key', value') :: rest, _, _, _, _, hk, hfirst => by
    have hblank : Blank [' '] := by simp [Blank, isSpace]
    obtain ⟨w₁, hexpand, hw₁⟩ :=
      exists_spells_expand h level (apart_writeMembers _ ht rest) value'
    obtain ⟨k', hkey, hk'⟩ := h.key key'
    obtain ⟨w₂, hexpand', hw₂⟩ := exists_spellsMembers_expand h level ht hw rest hk' hw₁
    refine ⟨',' :: (newline level ++ '"' :: (k' ++ '"' :: ':' :: ' ' :: (w₁ ++ w₂))), ?_, ?_⟩
    · simp only [writeMembers, List.cons_append, List.append_assoc, List.nil_append]
      rw [Shortcode.expand_cons (by decide), expand_newline, expand_key, hkey, hexpand, hexpand']
      simp
    · simpa [mapMembers] using
        SpellsMembers.more (blank_newline level) hk blank_nil hblank hfirst blank_nil hw₂

end

theorem denotes_expand_document (h : Recodes f g) (j : Json) :
    Denotes (expand j.document.toList ++ ['\n']) (j.sorted.mapTexts f g) := by
  obtain ⟨w, hexpand, hw⟩ := exists_spells_expand h 0 .nil j.sorted
  rw [List.append_nil, Shortcode.expand_nil, List.append_nil] at hexpand
  refine ⟨[], w, ['\n'], blank_nil, hw, by simp [Blank, isSpace], ?_⟩
  rw [document, String.toList_ofList, hexpand, List.nil_append]

end Json

/-- **The stream carries the content of the report**, but for texts and keys that have codes. -/
theorem Comparison.read?_streamDocument (c : Comparison) :
    ∃ f g, Json.Recodes f g ∧ Json.read? c.streamDocument.toList =
      some ((Payload.ofComparison c).toJson.sorted.mapTexts f g) := by
  obtain ⟨f, g, h⟩ := Json.exists_recodes
  refine ⟨f, g, h, ?_⟩
  rw [streamDocument, String.toList_ofList]
  exact Json.read?_eq_some_of_denotes (Json.denotes_expand_document h _)

end Relocation
