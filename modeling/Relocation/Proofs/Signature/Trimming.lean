import Mathlib.Data.List.DropRight
import Relocation.Proofs.Signature.Naming
import Relocation.Signature

/-!
# Declarations and the white space around them

Patterns look at a line as it stands, while blank lines and comments are told by the trimmed line.
The two views fit together: the name that a line declares does not depend on the white space, nor
on the byte order mark, at its two ends.

* `Text.exists_trim` — a line is its trimmed form with characters of the set around it,
* `declaredName_trim` — **trimming a line keeps the name it declares**.

Only a C function can be matched from inside the white space in front of it, since its pattern
starts with an optional qualifier and a gap. Then the qualifier is read as a type, and it takes the
uniqueness of the name to see that nothing else changes.
-/

namespace Relocation

/-! ## Trimming -/

namespace Text

theorem exists_trimStart (s : CharSet) (text : List Char) :
    ∃ lead, text = lead ++ trimStart s text ∧ ∀ a ∈ lead, s.contains a = true := by
  refine ⟨text.takeWhile s.contains, List.takeWhile_append_dropWhile.symm, ?_⟩
  exact List.all_eq_true.mp List.all_takeWhile

theorem exists_trimEnd (s : CharSet) (text : List Char) :
    ∃ trail, text = trimEnd s text ++ trail ∧ ∀ a ∈ trail, s.contains a = true := by
  obtain ⟨lead, hlead, hall⟩ := exists_trimStart s text.reverse
  refine ⟨lead.reverse, ?_, fun a ha => hall a (List.mem_reverse.mp ha)⟩
  rw [← text.reverse_reverse, hlead, List.reverse_append, trimEnd, List.reverse_append,
    List.reverse_reverse, List.reverse_reverse, ← hlead]
  rfl

/-- Trimming stops at the last character outside the set. -/
theorem trimEnd_append_cons {s : CharSet} {c : Char} (hc : s.contains c = false)
    (before after : List Char) :
    trimEnd s (before ++ c :: after) = before ++ c :: trimEnd s after := by
  have hdrop : (before ++ c :: after).reverse.dropWhile s.contains =
      after.reverse.dropWhile s.contains ++ c :: before.reverse := by
    rw [List.reverse_append, List.reverse_cons, List.append_assoc, List.dropWhile_append]
    split
    · next hempty => simp [List.isEmpty_iff.mp hempty, hc]
    · rfl
  rw [trimEnd, hdrop]
  simp [trimEnd]

/-- A text is its trimmed form with characters of the set around it. -/
theorem exists_trim (s : CharSet) (text : List Char) :
    ∃ lead trail, text = lead ++ trim s text ++ trail ∧ (∀ a ∈ lead, s.contains a = true) ∧
      ∀ a ∈ trail, s.contains a = true := by
  obtain ⟨lead, htext, hlead⟩ := exists_trimStart s text
  obtain ⟨trail, hstart, htrail⟩ := exists_trimEnd s (trimStart s text)
  refine ⟨lead, trail, ?_, hlead, htrail⟩
  rw [trim, List.append_assoc, ← hstart]
  exact htext

/-- A trimmed text starts with a character outside the set. -/
theorem contains_head_trim {s : CharSet} {text w : List Char} {a : Char}
    (h : trim s text = a :: w) : s.contains a = false := by
  obtain ⟨trail, hstart, -⟩ := exists_trimEnd s (trimStart s text)
  have hhead : (text.dropWhile s.contains).head? = some a := by
    rw [trim] at h
    rw [h] at hstart
    exact congrArg List.head? hstart
  have := List.head?_dropWhile_not s.contains text
  rw [hhead] at this
  exact this

theorem trim_append {s : CharSet} {lead : List Char} (hlead : ∀ a ∈ lead, s.contains a = true)
    (text : List Char) : trim s (lead ++ text) = trim s text := by
  rw [trim, trimStart, List.dropWhile_append_of_pos hlead]
  rfl

theorem trim_trim (s : CharSet) (text : List Char) : trim s (trim s text) = trim s text := by
  have hstart : trimStart s (trim s text) = trim s text := by
    cases h : trim s text with
    | nil => rfl
    | cons a w => exact List.dropWhile_cons_of_neg (by simp [contains_head_trim h])
  rw [trim, hstart, trim, trimEnd, trimEnd, List.reverse_reverse, List.dropWhile_idempotent]

end Text

theorem CharSet.contains_edge_of_blank {a : Char} (ha : CharSet.blank.contains a = true) :
    CharSet.edge.contains a = true := by
  simp only [edge, blank, contains_ofRanges, List.any_append, Bool.or_eq_true] at ha ⊢
  exact .inl ha

/-! ## White space in front of a C function -/

namespace Style

open Pattern

theorem mem_ends_opt_keyword {words : List String} {pos : Nat} {text : List Char}
    {captured : Option Span} {d : Cursor}
    (hwords : (words.all fun k => k.toList.all CharSet.word.contains) = true)
    (h : d ∈ (opt (keyword words)).ends ⟨pos, text, captured⟩) :
    ∃ w rest, text = w ++ rest ∧ (∀ a ∈ w, CharSet.word.contains a = true) ∧
      d = ⟨pos + w.length, rest, captured⟩ := by
  rcases mem_ends_opt.mp h with h | rfl
  · obtain ⟨p, hp, h⟩ := mem_ends_oneOf.mp h
    obtain ⟨k, hk, rfl⟩ := List.mem_map.mp hp
    obtain ⟨rest, rfl, rfl⟩ := mem_ends_text.mp h
    exact ⟨k.toList, rest, rfl, List.all_eq_true.mp (List.all_eq_true.mp hwords k hk), rfl⟩
  · exact ⟨[], text, rfl, by simp, rfl⟩

/-- A C function matched from inside white space in front of it is matched without that space,
too: no qualifier has been read and the gap is the white space. -/
theorem mem_ends_cFunction_of_lead {pos : Nat} {lead body : List Char} {d : Cursor}
    (hne : lead ≠ []) (hlead : ∀ a ∈ lead, CharSet.edge.contains a = true)
    (hbody : ∀ a w, body = a :: w → CharSet.edge.contains a = false)
    (h : d ∈ cFunction.pattern.ends ⟨pos, lead ++ body, none⟩) :
    d ∈ cFunction.pattern.ends ⟨pos + lead.length, body, none⟩ := by
  simp only [pattern, mem_ends_append] at h ⊢
  obtain ⟨e₁₀, ⟨e₉, ⟨e₈, ⟨e₇, ⟨e₆, ⟨e₅, ⟨e₄, ⟨e₃, ⟨e₂, ⟨e₁, hqualifier, hgap⟩, htype⟩, hdivider⟩,
    hname⟩, hgap'⟩, hparameters⟩, hgap₂⟩, hconst⟩, hgap₃⟩, hbrace⟩ := h
  have hwordEdge : ∀ a, CharSet.word.contains a = true → CharSet.edge.contains a = false :=
    fun a => CharSet.contains_of_apart (by decide)
  obtain ⟨q, t, htext, hq, rfl⟩ := mem_ends_opt_keyword (by decide) hqualifier
  obtain rfl : q = [] := by
    cases q with
    | nil => rfl
    | cons a q =>
      obtain ⟨b, lead, rfl⟩ := List.exists_cons_of_ne_nil hne
      obtain ⟨rfl, -⟩ := List.cons.inj htext
      have hb := hwordEdge b (hq b List.mem_cons_self)
      rw [hlead b List.mem_cons_self] at hb
      cases hb
  obtain rfl : lead ++ body = t := htext
  obtain ⟨g, t, htext, hg, rfl⟩ := mem_ends_run.mp hgap
  obtain ⟨w, t, hw, rfl, hword, rfl⟩ := mem_ends_someOf.mp htype
  -- the gap ends where the first character outside the edges stands, and so does the lead
  obtain ⟨rfl, rfl⟩ : lead = g ∧ body = w ++ t := by
    obtain ⟨a, w, rfl⟩ := List.exists_cons_of_ne_nil hw
    have ha := hwordEdge a (hword a List.mem_cons_self)
    cases body with
    | nil =>
      have hmem : a ∈ lead := by
        rw [List.append_nil] at htext
        rw [htext]
        simp
      rw [hlead a hmem] at ha
      cases ha
    | cons b body =>
      exact append_inj_of_head hlead (fun c hc => CharSet.contains_edge_of_blank (hg c hc))
        (by simpa using hbody b body rfl) (by simpa using ha) htext
  have hqualifier' : (⟨pos + lead.length, w ++ t, none⟩ : Cursor) ∈
      (opt (keyword ["static", "inline", "virtual", "explicit"])).ends
        ⟨pos + lead.length, w ++ t, none⟩ :=
    mem_ends_opt.mpr (.inr rfl)
  have hgap₀ : (⟨pos + lead.length, w ++ t, none⟩ : Cursor) ∈
      gap.ends ⟨pos + lead.length, w ++ t, none⟩ :=
    mem_ends_run.mpr ⟨[], w ++ t, rfl, by simp, rfl⟩
  exact ⟨e₁₀, ⟨e₉, ⟨e₈, ⟨e₇, ⟨e₆, ⟨e₅, ⟨e₄, ⟨_, ⟨_, ⟨_, hqualifier', hgap₀⟩, htype⟩, hdivider⟩,
    hname⟩, hgap'⟩, hparameters⟩, hgap₂⟩, hconst⟩, hgap₃⟩, hbrace⟩

/-! ## All styles -/

theorem closes_pattern (style : Style) : style.pattern.closes .edge = true := by
  cases style <;> decide

theorem opens_pattern {style : Style} (h : style ≠ cFunction) :
    style.pattern.opens .edge false = true := by
  cases style with
  | cFunction => exact absurd rfl h
  | _ => decide

/-- Characters of the edges in front of a line change nothing about what a style captures. -/
theorem captured_searchFrom_lead (style : Style) {pos : Nat} {lead body : List Char}
    (hlead : ∀ a ∈ lead, CharSet.edge.contains a = true)
    (hbody : ∀ a w, body = a :: w → CharSet.edge.contains a = false) :
    (style.pattern.searchFrom pos (lead ++ body)).map Hit.captured =
      (style.pattern.searchFrom (pos + lead.length) body).map Hit.captured := by
  apply captured_searchFrom_append
  intro pos lead' hne hsuffix d hd
  have hlead' : ∀ a ∈ lead', CharSet.edge.contains a = true :=
    fun a ha => hlead a (hsuffix.subset ha)
  by_cases hstyle : style = cFunction
  · subst hstyle
    have hmem := mem_ends_cFunction_of_lead hne hlead' hbody hd
    exact ⟨List.ne_nil_of_mem hmem, fun e he => captured_eq_of_mem_ends he hmem⟩
  · -- no other style starts with a character of the edges
    exfalso
    rcases start_of_opens (opens_pattern hstyle) hd with ⟨hfalse, -⟩ | ⟨a, w, htext, ha⟩
    · cases hfalse
    · obtain ⟨b, lead', rfl⟩ := List.exists_cons_of_ne_nil hne
      obtain ⟨rfl, -⟩ := List.cons.inj htext
      rw [hlead' b List.mem_cons_self] at ha
      cases ha

end Style

/-! ## The declared name -/

theorem Span.slice_append {s : Span} {line : List Char} (after : List Char)
    (h : s.stop ≤ line.length) : s.slice (line ++ after) = s.slice line := by
  rw [slice, slice]
  by_cases hstart : s.start ≤ line.length
  · rw [List.drop_append_of_le_length hstart, List.take_append_of_le_length]
    rw [List.length_drop]
    omega
  · have hzero : s.stop - s.start = 0 := by omega
    rw [hzero, List.take_zero, List.take_zero]

theorem Span.slice_shift {s : Span} (before line : List Char) :
    (s.shift before.length).slice (before ++ line) = s.slice line := by
  simp only [slice, shift, Nat.add_sub_add_right]
  rw [List.drop_append, List.drop_of_length_le (by omega), List.nil_append, Nat.add_sub_cancel]

/-- What a pattern captures in a line. -/
def Pattern.capturedIn (p : Pattern) (line : List Char) : Option (List Char) :=
  (p.search line).bind fun hit => hit.captured.map fun span => span.slice line

theorem Pattern.capturedIn_eq (p : Pattern) (line : List Char) :
    p.capturedIn line =
      ((p.search line).map Hit.captured).bind fun captured =>
        captured.map fun span => span.slice line := by
  rw [capturedIn]
  cases p.search line <;> rfl

/-- What a style captures in a line with characters of the edges around it is what it captures in
the line itself, as far to the right as there are characters in front. -/
theorem Style.map_captured_search_frame (style : Style) {lead body trail : List Char}
    (hlead : ∀ a ∈ lead, CharSet.edge.contains a = true)
    (htrail : ∀ a ∈ trail, CharSet.edge.contains a = true)
    (hbody : ∀ a w, body = a :: w → CharSet.edge.contains a = false) :
    (style.pattern.search (lead ++ body ++ trail)).map Hit.captured =
      (style.pattern.search body).map fun hit => hit.captured.map (Span.shift lead.length) := by
  have htrailing : style.pattern.search (lead ++ body ++ trail) =
      style.pattern.search (lead ++ body) :=
    Pattern.searchFrom_append style.isFree_pattern style.closes_pattern htrail
  have hleading : (style.pattern.searchFrom 0 (lead ++ body)).map Hit.captured =
      (style.pattern.searchFrom (0 + lead.length) body).map Hit.captured :=
    captured_searchFrom_lead style hlead hbody
  rw [Pattern.searchFrom_add style.isFree_pattern, Option.map_map] at hleading
  rw [htrailing]
  exact hleading

/-- A style captures the same in a line and in its trimmed form. -/
theorem Style.capturedIn_trim (style : Style) (line : List Char) :
    style.pattern.capturedIn (Text.trim .edge line) = style.pattern.capturedIn line := by
  obtain ⟨lead, trail, hline, hlead, htrail⟩ := Text.exists_trim .edge line
  have hbody : ∀ a w, Text.trim .edge line = a :: w → CharSet.edge.contains a = false :=
    fun a w h => Text.contains_head_trim h
  generalize Text.trim .edge line = body at hline hbody
  subst hline
  rw [Pattern.capturedIn_eq, Pattern.capturedIn_eq,
    map_captured_search_frame style hlead htrail hbody]
  rcases hfound : style.pattern.search body with _ | ⟨span, _ | s⟩
  · rfl
  · rfl
  · have hslice : (s.shift lead.length).slice (lead ++ body ++ trail) = s.slice body := by
      rw [List.append_assoc, Span.slice_shift,
        Span.slice_append trail (Pattern.stop_le_of_search hfound rfl)]
    exact congrArg some hslice.symm

/-- **Trimming a line keeps the name it declares.** -/
theorem declaredName_trim (line : List Char) :
    declaredName (Text.trim .edge line) = declaredName line := by
  have htable : ∀ line, declaredName line = Style.all.findSome? fun style =>
      style.pattern.capturedIn line := by
    intro line
    rw [declaredName, firstName, List.findSome?_map]
    rfl
  simp only [htable, Style.capturedIn_trim]

/-! ## The names of a text -/

namespace Signature

/-- The names that the lines of a text declare. -/
def declaredNames (text : String) : List String :=
  (extract text).map Signature.name

/-- Lines that look alike when trimmed declare the same. -/
theorem ofLine?_congr {line line' : List Char} (number : Nat)
    (h : Text.trim .edge line = Text.trim .edge line') :
    ofLine? number line = ofLine? number line' := by
  have hname : declaredName line = declaredName line' := by
    rw [← declaredName_trim, h, declaredName_trim]
  simp only [ofLine?, h, hname]

/-- The name that a line declares, if it is neither blank nor a comment. -/
def nameOn (line : List Char) : Option String :=
  (ofLine? 0 line).map Signature.name

theorem map_name_ofLine? (number : Nat) (line : List Char) :
    (ofLine? number line).map Signature.name = nameOn line := by
  simp only [nameOn, ofLine?]
  split
  · rfl
  · rw [Option.map_map, Option.map_map]
    rfl

theorem ofLines_cons (first : Nat) (line : List Char) (lines : List (List Char)) :
    ofLines first (line :: lines) = (ofLine? first line).toList ++ ofLines (first + 1) lines := by
  simp only [ofLines, List.zipIdx_cons, List.filterMap_cons]
  cases ofLine? first line <;> rfl

theorem map_name_ofLines (first : Nat) (lines : List (List Char)) :
    (ofLines first lines).map Signature.name = lines.filterMap nameOn := by
  induction lines generalizing first with
  | nil => rfl
  | cons line lines ih =>
    rw [ofLines_cons, List.map_append, ih, List.filterMap_cons, ← map_name_ofLine? first line]
    cases ofLine? first line <;> rfl

/-- The names of a text come from its lines, one line after another. -/
theorem declaredNames_eq (text : String) :
    declaredNames text = (Text.lines text).filterMap nameOn :=
  map_name_ofLines 1 (Text.lines text)

theorem nameOn_congr {line line' : List Char} (h : Text.trim .edge line = Text.trim .edge line') :
    nameOn line = nameOn line' :=
  congrArg (Option.map Signature.name) (ofLine?_congr 0 h)

end Signature

end Relocation
