import Mathlib.Data.List.DropRight
import Relocation.Proofs.Signature.Scan
import Relocation.SourceFile

/-!
# Base names

New files are told apart by their base names, so which files collide hangs on what a base name is.
Paths may come with slashes and with backslashes, several in a row and at either end. What stands
between them are the *segments* of the path, and the base name is the last of these.

* `IsSegment` — a maximal run of characters that are no separators,
* `exists_segment` — a path consists of separators, or it has a segment with separators behind it,
* `IsSegment.isLast_iff` — those are the only ways in which a segment can be the last one,
* `getLast?_splitOnP` — the last piece of a text that is cut at some characters,
* `basename_isLastSegment` — **the base name is the last segment**.
-/

namespace Relocation

/-! ## Segments -/

/-- A run of characters in a path that are no separators, and that cannot be made longer. -/
structure IsSegment (path before segment after : List Char) : Prop where
  path_eq : path = before ++ segment ++ after
  ne_nil : segment ≠ []
  clear : ∀ c ∈ segment, isSeparator c = false
  before_last : ∀ c ∈ before.getLast?, isSeparator c = true
  after_head : ∀ c ∈ after.head?, isSeparator c = true

/-- A segment of a path with none further to the right. -/
def IsLastSegment (path segment : List Char) : Prop :=
  ∃ before after, IsSegment path before segment after ∧
    ∀ before' segment' after', IsSegment path before' segment' after' →
      before'.length ≤ before.length

/-- A path consists of separators, or it has a segment with nothing but separators behind it. -/
theorem exists_segment (path : List Char) :
    (∀ c ∈ path, isSeparator c = true) ∨
      ∃ before segment after, IsSegment path before segment after ∧
        ∀ c ∈ after, isSeparator c = true := by
  let kept := path.rdropWhile isSeparator
  have hpath : kept ++ path.rtakeWhile isSeparator = path := List.rdropWhile_append_rtakeWhile
  have hafter : ∀ c ∈ path.rtakeWhile isSeparator, isSeparator c = true :=
    fun _ => List.mem_rtakeWhile_imp
  by_cases hkept : kept = []
  · refine .inl ?_
    rw [← hpath, hkept, List.nil_append]
    exact hafter
  · have hsplit : kept.rdropWhile (!isSeparator ·) ++ kept.rtakeWhile (!isSeparator ·) = kept :=
      List.rdropWhile_append_rtakeWhile
    refine .inr ⟨_, _, _, ⟨by rw [hsplit, hpath], ?_, ?_, ?_, ?_⟩, hafter⟩
    · -- what is kept ends in a character that is no separator
      rw [ne_eq, List.rtakeWhile_eq_nil_iff, not_forall]
      exact ⟨hkept, by simpa using List.rdropWhile_last_not isSeparator path hkept⟩
    · intro c hc
      simpa using List.mem_rtakeWhile_imp hc
    · intro c hc
      obtain ⟨hne, rfl⟩ := List.mem_getLast?_eq_getLast hc
      simpa using List.rdropWhile_last_not (!isSeparator ·) kept hne
    · intro c hc
      exact hafter c (List.mem_of_mem_head? hc)

namespace IsSegment

variable {path before segment after : List Char}

/-- A segment of what comes behind a segment is one of the path, too. -/
theorem of_after (h : IsSegment path before segment after) {before' segment' after' : List Char}
    (h' : IsSegment after before' segment' after') :
    IsSegment path (before ++ segment ++ before') segment' after' := by
  refine ⟨by simp [h.path_eq, h'.path_eq], h'.ne_nil, h'.clear, fun c hc => ?_, h'.after_head⟩
  have hne : before' ≠ [] := by
    -- else the two segments would be one
    rintro rfl
    obtain ⟨a, rest, rfl⟩ := List.exists_cons_of_ne_nil h'.ne_nil
    have hhead := h.after_head a (by rw [h'.path_eq]; rfl)
    rw [h'.clear a List.mem_cons_self] at hhead
    cases hhead
  rw [List.getLast?_append_of_ne_nil _ hne] at hc
  exact h'.before_last c hc

/-- A segment is the last one if nothing but separators comes behind it, and only then. -/
theorem isLast_iff (h : IsSegment path before segment after) :
    (∀ before' segment' after', IsSegment path before' segment' after' →
      before'.length ≤ before.length) ↔ ∀ c ∈ after, isSeparator c = true := by
  refine ⟨fun hlast => (exists_segment after).resolve_right ?_, fun hafter => ?_⟩
  · rintro ⟨before', segment', after', h', -⟩
    have hle := hlast _ _ _ (h.of_after h')
    have hpos := List.length_pos_iff.mpr h.ne_nil
    simp only [List.length_append] at hle
    omega
  · intro before' segment' after' h'
    by_contra hlt
    have hpath : before ++ (segment ++ after) = before' ++ (segment' ++ after') := by
      rw [← List.append_assoc, ← h.path_eq, h'.path_eq, List.append_assoc]
    obtain ⟨d, rfl, hrest⟩ := exists_append_of_length_le hpath (by omega)
    rcases List.append_eq_append_iff.mp hrest with ⟨e, rfl, rfl⟩ | ⟨e, rfl, -⟩
    · -- the other segment would consist of separators
      obtain ⟨c, hc⟩ := List.exists_mem_of_ne_nil _ h'.ne_nil
      have hseparator := hafter c (by simp [hc])
      rw [h'.clear c hc] at hseparator
      cases hseparator
    · -- the other segment would start in the middle of this one
      have hclear : ∀ c ∈ d, ¬isSeparator c = true :=
        fun c hc => ne_true_of_eq_false (h.clear c (List.mem_append_left e hc))
      obtain rfl := eq_nil_of_getLast_append hclear h'.before_last
      simp at hlt

end IsSegment

/-! ## Base names -/

theorem basename_eq (path : String) : basename path =
    .ofList ((path.toList.rdropWhile isSeparator).rtakeWhile (!isSeparator ·)) := by
  rw [basename, List.rtakeWhile, List.rdropWhile, List.reverse_reverse]

/-- Separators at the end make no difference. -/
theorem basename_append (path : String) {tail : String}
    (htail : ∀ c ∈ tail.toList, isSeparator c = true) :
    basename (path ++ tail) = basename path := by
  have hreverse : ∀ c ∈ tail.toList.reverse, isSeparator c = true :=
    fun c hc => htail c (List.mem_reverse.mp hc)
  rw [basename, basename, String.toList_append, List.reverse_append,
    List.dropWhile_append_of_pos hreverse]

theorem basename_of_separators {path : String} (h : ∀ c ∈ path.toList, isSeparator c = true) :
    basename path = "" := by
  rw [basename_eq, List.rdropWhile_eq_nil_iff.mpr h]
  rfl

/-- A segment with nothing but separators behind it is the base name. -/
theorem IsSegment.toList_basename {path : String} {before segment after : List Char}
    (h : IsSegment path.toList before segment after) (hafter : ∀ c ∈ after, isSeparator c = true) :
    (basename path).toList = segment := by
  have hpath : path = .ofList (before ++ segment) ++ .ofList after := by
    rw [← String.toList_inj, h.path_eq, String.toList_append, String.toList_ofList,
      String.toList_ofList]
  have hkept : (before ++ segment).rdropWhile isSeparator = before ++ segment := by
    refine List.rdropWhile_eq_self_iff.mpr fun _ => ?_
    rw [List.getLast_append_of_ne_nil _ h.ne_nil, h.clear _ (List.getLast_mem h.ne_nil)]
    exact Bool.false_ne_true
  have hname : (before ++ segment).rtakeWhile (!isSeparator ·) = segment := by
    have hclear : ∀ c ∈ segment.reverse, (!isSeparator c) = true := by
      simpa using h.clear
    have hstop : before.reverse.takeWhile (!isSeparator ·) = [] := by
      cases hreverse : before.reverse with
      | nil => rfl
      | cons a rest =>
        have ha := h.before_last a (by rw [← List.head?_reverse, hreverse]; rfl)
        rw [List.takeWhile_cons_of_neg (by simp [ha])]
    rw [List.rtakeWhile, List.reverse_append, List.takeWhile_append_of_pos hclear, hstop,
      List.append_nil, List.reverse_reverse]
  have htail : ∀ c ∈ (String.ofList after).toList, isSeparator c = true := by
    rwa [String.toList_ofList]
  rw [hpath, basename_append _ htail, basename_eq, String.toList_ofList, String.toList_ofList,
    hkept, hname]

theorem isLastSegment_iff {path : String} {segment : List Char} :
    IsLastSegment path.toList segment ↔ segment ≠ [] ∧ (basename path).toList = segment := by
  refine ⟨?_, ?_⟩
  · rintro ⟨before, after, h, hlast⟩
    exact ⟨h.ne_nil, h.toList_basename (h.isLast_iff.mp hlast)⟩
  · rintro ⟨hne, rfl⟩
    rcases exists_segment path.toList with hall | ⟨before, segment, after, h, hafter⟩
    · rw [basename_of_separators hall] at hne
      exact absurd rfl hne
    · rw [h.toList_basename hafter]
      exact ⟨before, after, h, h.isLast_iff.mpr hafter⟩

theorem isSeparator_of_mem_basename {path : String} :
    ∀ c ∈ (basename path).toList, isSeparator c = false := by
  intro c hc
  rw [basename_eq, String.toList_ofList] at hc
  simpa using List.mem_rtakeWhile_imp hc

theorem basename_eq_empty_iff {path : String} :
    basename path = "" ↔ ∀ c ∈ path.toList, isSeparator c = true := by
  refine ⟨fun h => (exists_segment path.toList).resolve_right ?_, basename_of_separators⟩
  rintro ⟨before, segment, after, hsegment, hafter⟩
  have hname := hsegment.toList_basename hafter
  rw [h] at hname
  exact hsegment.ne_nil hname.symm

theorem basename_eq_empty_iff_not_exists {path : String} :
    basename path = "" ↔ ¬∃ before segment after, IsSegment path.toList before segment after := by
  rw [basename_eq_empty_iff]
  refine ⟨?_, fun h => (exists_segment path.toList).resolve_right ?_⟩
  · rintro hall ⟨before, segment, after, hsegment⟩
    obtain ⟨c, hc⟩ := List.exists_mem_of_ne_nil _ hsegment.ne_nil
    have hseparator := hall c (by rw [hsegment.path_eq]; simp [hc])
    rw [hsegment.clear c hc] at hseparator
    cases hseparator
  · rintro ⟨before, segment, after, hsegment, -⟩
    exact h ⟨before, segment, after, hsegment⟩

/-- A name that is put below a directory is its own base name. -/
theorem basename_append_name (folder : String) {c : Char} {name : String}
    (hc : isSeparator c = true) (hne : name ≠ "")
    (hname : ∀ a ∈ name.toList, isSeparator a = false) :
    basename (folder ++ .singleton c ++ name) = name := by
  have h : IsSegment (folder ++ .singleton c ++ name).toList (folder.toList ++ [c])
      name.toList [] :=
    ⟨by simp, by simpa using hne, hname, by simpa using hc, by simp⟩
  exact String.toList_inj.mp (h.toList_basename (by simp))

/-- A name by itself is its own base name. -/
theorem basename_of_name {name : String} (hname : ∀ a ∈ name.toList, isSeparator a = false) :
    basename name = name := by
  by_cases hne : name = ""
  · subst hne
    rfl
  · have h : IsSegment name.toList [] name.toList [] :=
      ⟨by simp, by simpa using hne, hname, by simp, by simp⟩
    exact String.toList_inj.mp (h.toList_basename (by simp))

/-! ## Cutting at separators -/

/-- The last piece of a text that is cut at some characters is what stands behind the last of
these. -/
theorem getLast?_splitOnP (p : Char → Bool) (text : List Char) :
    (text.splitOnP p).getLast? = some (text.rtakeWhile (!p ·)) := by
  have hsplit : text.rdropWhile (!p ·) ++ text.rtakeWhile (!p ·) = text :=
    List.rdropWhile_append_rtakeWhile
  have hlast : (text.rtakeWhile (!p ·)).splitOnP p = [text.rtakeWhile (!p ·)] :=
    List.splitOnP_eq_singleton fun c hc => by simpa using List.mem_rtakeWhile_imp hc
  rcases List.eq_nil_or_concat (text.rdropWhile (!p ·)) with hnil | ⟨before, c, hcut⟩
  · rw [hnil, List.nil_append] at hsplit
    rw [hsplit] at hlast
    rw [hlast, hsplit]
    rfl
  · have hc : p c = true := by
      have hne : text.rdropWhile (!p ·) ≠ [] := by simp [hcut]
      simpa [hcut] using List.rdropWhile_last_not (!p ·) text hne
    calc (text.splitOnP p).getLast?
        = ((before ++ c :: text.rtakeWhile (!p ·)).splitOnP p).getLast? := by
          conv_lhs => rw [← hsplit, hcut]
          simp
      _ = some (text.rtakeWhile (!p ·)) := by
          rw [List.splitOnP_append_cons _ _ hc, hlast, List.getLast?_concat]

/-- **The base name is the last segment** of a path, or empty if the path has none: it is the last
piece of the path cut at its separators, once those at the end are dropped. So it has no separator,
it is empty for separators alone, taking it once more and separators at the end make no difference,
and a name that is put below a directory is found again. -/
theorem basename_isLastSegment (path : String) :
    ((path.toList.rdropWhile isSeparator).splitOnP isSeparator).getLast? =
      some (basename path).toList ∧
    (∀ segment, IsLastSegment path.toList segment ↔
      segment ≠ [] ∧ (basename path).toList = segment) ∧
    (basename path = "" ↔
      ¬∃ before segment after, IsSegment path.toList before segment after) ∧
    (∀ c ∈ (basename path).toList, isSeparator c = false) ∧
    (basename path = "" ↔ ∀ c ∈ path.toList, isSeparator c = true) ∧
    basename (basename path) = basename path ∧
    (∀ tail : String, (∀ c ∈ tail.toList, isSeparator c = true) →
      basename (path ++ tail) = basename path) ∧
    ∀ (c : Char) (name : String), isSeparator c = true → name ≠ "" →
      (∀ a ∈ name.toList, isSeparator a = false) →
      basename (path ++ .singleton c ++ name) = name := by
  have hclear : ∀ c ∈ (basename path).toList, isSeparator c = false := isSeparator_of_mem_basename
  refine ⟨?_, fun _ => isLastSegment_iff, basename_eq_empty_iff_not_exists, hclear,
    basename_eq_empty_iff, basename_of_name hclear, fun _ => basename_append path,
    fun _ _ => basename_append_name path⟩
  rw [getLast?_splitOnP, basename_eq, String.toList_ofList]

/-- Doubled separators of both kinds between segments and at the end. -/
theorem basename_isLastSegment_of_mixed_separators :
    IsLastSegment "src\\//lib\\a.js/\\".toList "a.js".toList ∧
      basename ("src\\//lib\\a.js/\\" ++ "//\\") = "a.js" ∧
      basename ("src\\//lib\\a.js/\\" ++ .singleton '\\' ++ "b.js") = "b.js" := by
  obtain ⟨-, hlast, -, -, -, -, htail, hname⟩ := basename_isLastSegment "src\\//lib\\a.js/\\"
  have hbasename : basename "src\\//lib\\a.js/\\" = "a.js" := by decide
  have hclear : ∀ a ∈ "b.js".toList, isSeparator a = false := by simp [isSeparator]
  refine ⟨(hlast _).mpr ⟨by decide, by rw [hbasename]⟩, ?_, ?_⟩
  · rw [htail _ (List.all_eq_true.mp (by decide)), hbasename]
  · exact hname '\\' "b.js" (by decide) (by decide) hclear

end Relocation
