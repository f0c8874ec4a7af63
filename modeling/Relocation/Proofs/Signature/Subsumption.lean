import Mathlib.Order.CompletePartialOrder
import Relocation.Proofs.Signature.Naming
import Relocation.Signature

/-!
# Styles that others cover

A brace or an arrow after parameters is looked for first, whatever stands before the name. So a
later style gets to see only lines without any such call, and much of what later styles allow for
never takes part in a match.

* `Style.calls` — a name with parameters and then a brace or an arrow,
* `Style.needed` — the patterns that are left when all that is covered is taken out,
* `Signature.firstName_needed_eq_and_extractBy_needed_eq` — **the patterns that are left give every
  line the same name**, and every text the same signatures.
-/

namespace Relocation

open scoped Computability

namespace Pattern

/-! ## Sequences with an optional part -/

variable {a t r : Pattern} {c : Cursor}

theorem ends_append_assoc : ((a ++ t) ++ r).ends c = (a ++ (t ++ r)).ends c :=
  List.flatMap_assoc

/-- Where a sequence does not match without its optional part, the part may as well be required. -/
theorem ends_opt_of_without (h : (a ++ r).ends c = []) :
    (a ++ (opt t ++ r)).ends c = (a ++ (t ++ r)).ends c := by
  refine List.flatMap_congr fun d hd => ?_
  have hd : r.ends d = [] := List.flatMap_eq_nil_iff.mp h d hd
  change (t.ends d ++ [d]).flatMap r.ends = (t.ends d).flatMap r.ends
  rw [List.flatMap_append, List.flatMap_singleton, hd, List.append_nil]

/-- Where a sequence does not match with its optional part, the part may as well be left out. -/
theorem ends_opt_of_with (h : (a ++ (t ++ r)).ends c = []) :
    (a ++ (opt t ++ r)).ends c = (a ++ r).ends c := by
  refine List.flatMap_congr fun d hd => ?_
  have hd : (t ++ r).ends d = [] := List.flatMap_eq_nil_iff.mp h d hd
  change (t.ends d ++ [d]).flatMap r.ends = r.ends d
  rw [List.flatMap_append, List.flatMap_singleton]
  exact congrArg (· ++ r.ends d) hd

/-- Patterns with the same ends at every place of a line find the same in it. -/
theorem search_congr {p q : Pattern} {line : List Char}
    (h : ∀ u v, line = u ++ v → p.ends ⟨u.length, v, none⟩ = q.ends ⟨u.length, v, none⟩) :
    p.search line = q.search line := by
  refine searchFrom_congr fun u v huv => ?_
  rw [Nat.zero_add, hitAt_eq, hitAt_eq, h u v huv]

end Pattern

namespace Style

open Pattern

/-! ## Calls -/

/-- A name with parameters, and then a brace or an arrow. -/
def calls : Language Char :=
  word.language * (gap.language * (parameters.language *
    (gap.language * (openBrace.language + (text "=>").language))))

/-- A match of the first style is a call after modifiers. -/
theorem language_braceOrArrow :
    ∃ l : Language Char, braceOrArrow.pattern.language = l∗ * calls := by
  refine ⟨(Pattern.alt (text "function" ++ space)
    (keyword ["public", "private", "protected", "static", "async"] ++ space)).language, ?_⟩
  simp only [pattern, language_append, mul_assoc]
  rfl

theorem calls_le : calls ≤ braceOrArrow.pattern.language := by
  obtain ⟨l, hl⟩ := language_braceOrArrow
  calc calls = 1 * calls := (one_mul calls).symm
    _ ≤ l∗ * calls := mul_le_mul_left one_le_kstar calls
    _ = braceOrArrow.pattern.language := hl.symm

/-- A language each of whose texts ends with a call. -/
def EndsWithCall (l : Language Char) : Prop :=
  l ≤ ⊤ * calls

theorem EndsWithCall.mul {l : Language Char} (h : EndsWithCall l) (m : Language Char) :
    EndsWithCall (m * l) :=
  calc m * l ≤ m * (⊤ * calls) := mul_le_mul_right h m
    _ = (m * ⊤) * calls := (mul_assoc m ⊤ calls).symm
    _ ≤ ⊤ * calls := mul_le_mul_left le_top calls

theorem endsWithCall_of_le {l : Language Char} (h : l ≤ calls) : EndsWithCall l :=
  calc l = 1 * l := (one_mul l).symm
    _ ≤ ⊤ * l := mul_le_mul_left le_top l
    _ ≤ ⊤ * calls := mul_le_mul_right h ⊤

theorem gap_mul_gap_le : gap.language * gap.language ≤ gap.language := by
  rintro _ ⟨u, hu, v, hv, rfl⟩
  exact List.forall_mem_append.mpr ⟨hu, hv⟩

theorem async_le_word : (text "async").language ≤ word.language := by
  intro w hw
  obtain rfl := mem_language_text.mp hw
  exact mem_language_someOf.mpr ⟨by decide, List.all_eq_true.mp (by decide)⟩

theorem call_le_calls {l : Language Char} (h : l ≤ openBrace.language + (text "=>").language) :
    word.language * (gap.language * (parameters.language * (gap.language * l))) ≤ calls := by
  unfold calls
  gcongr

/-- A second gap before the brace makes no difference. -/
theorem spaced_call_le_calls :
    word.language * (gap.language * (parameters.language *
      (gap.language * (gap.language * openBrace.language)))) ≤ calls := by
  have hgap : gap.language * (gap.language * openBrace.language) ≤
      gap.language * openBrace.language := by
    rw [← mul_assoc]
    exact mul_le_mul_left gap_mul_gap_le _
  calc word.language * (gap.language * (parameters.language *
        (gap.language * (gap.language * openBrace.language))))
      ≤ word.language * (gap.language * (parameters.language *
        (gap.language * openBrace.language))) :=
        mul_le_mul_right (mul_le_mul_right (mul_le_mul_right hgap _) _) _
    _ ≤ calls := call_le_calls le_sup_left

/-! ## What a line without calls leaves -/

variable {line : List Char}

/-- In a line without calls, nothing that ends with a call matches. -/
theorem ends_eq_nil_of_endsWithCall {p : Pattern} (hfree : p.isFree = true)
    (hsteady : p.isSteady = true) (hp : EndsWithCall p.language)
    (hnone : braceOrArrow.pattern.search line = none) {u v : List Char} (hline : line = u ++ v) :
    p.ends ⟨u.length, v, none⟩ = [] := by
  rw [ends_eq_nil_iff hfree hsteady]
  rintro w rest rfl hw
  obtain ⟨x, -, call, hcall, rfl⟩ := hp hw
  rw [search_eq_none_iff (isFree_pattern _) (isSteady_pattern _)] at hnone
  exact hnone (u ++ x) call rest (by simpa using hline) (calls_le hcall)

/-- A C# method ends with a call. -/
theorem search_csharpMethod (hnone : braceOrArrow.pattern.search line = none) :
    csharpMethod.pattern.search line = none := by
  have hcall : EndsWithCall csharpMethod.pattern.language := by
    simp only [pattern, language_append, mul_assoc]
    exact (((endsWithCall_of_le (call_le_calls le_sup_left)).mul _).mul _).mul _
  refine searchFrom_eq_none_iff.mpr fun u v huv => ?_
  rw [Nat.zero_add, hitAt_eq_none_iff]
  exact ends_eq_nil_of_endsWithCall (isFree_pattern _) (isSteady_pattern _) hcall hnone huv

/-! ### A variable that is given an arrow function -/

/-- What comes before the arrow function. -/
def arrowHead : Pattern :=
  keyword ["const", "let", "var"] ++ space ++ name ++ gap ++ char '=' ++ gap

/-- The mark of an asynchronous arrow function. -/
def asyncMark : Pattern :=
  text "async" ++ gap

theorem pattern_assignedArrow :
    assignedArrow.pattern = arrowHead ++ opt asyncMark ++ parameters ++ gap ++ text "=>" :=
  rfl

/-- The word `async` passes for the name of a call. -/
theorem search_assignedArrow (hnone : braceOrArrow.pattern.search line = none) :
    assignedArrow.pattern.search line =
      (arrowHead ++ parameters ++ gap ++ text "=>").search line := by
  have hcall : EndsWithCall
      (arrowHead ++ (asyncMark ++ (parameters ++ (gap ++ text "=>")))).language := by
    simp only [asyncMark, language_append, mul_assoc]
    refine (endsWithCall_of_le ?_).mul _
    calc (text "async").language * (gap.language * (parameters.language *
          (gap.language * (text "=>").language)))
        ≤ word.language * (gap.language * (parameters.language *
          (gap.language * (text "=>").language))) := mul_le_mul_left async_le_word _
      _ ≤ calls := call_le_calls le_sup_right
  refine search_congr fun u v huv => ?_
  rw [pattern_assignedArrow]
  simp only [ends_append_assoc]
  exact ends_opt_of_with
    (ends_eq_nil_of_endsWithCall (by decide) (by decide) hcall hnone huv)

/-! ### A Java method -/

/-- A Java method up to its clause of exceptions. -/
def javaHead : Pattern :=
  modifiers javaModifiers ++ opt (typeArguments ++ space) ++
    (word ++ opt typeArguments ++ many (text "[]")) ++ space ++ name ++ gap ++ parameters ++ gap

/-- A clause of exceptions. -/
def throwsClause : Pattern :=
  text "throws" ++ space ++ .someOf pattern.exceptionList

theorem pattern_javaMethod :
    javaMethod.pattern = javaHead ++ opt throwsClause ++ gap ++ openBrace :=
  rfl

/-- Without its clause of exceptions, a Java method ends with a call. -/
theorem search_javaMethod (hnone : braceOrArrow.pattern.search line = none) :
    javaMethod.pattern.search line =
      (javaHead ++ throwsClause ++ gap ++ openBrace).search line := by
  have hcall : EndsWithCall (javaHead ++ (gap ++ openBrace)).language := by
    simp only [javaHead, language_append, mul_assoc]
    exact ((((((endsWithCall_of_le spaced_call_le_calls).mul _).mul _).mul _).mul _).mul _).mul _
  refine search_congr fun u v huv => ?_
  rw [pattern_javaMethod]
  simp only [ends_append_assoc]
  exact ends_opt_of_without
    (ends_eq_nil_of_endsWithCall (by decide) (by decide) hcall hnone huv)

/-! ### A C function -/

/-- A C function up to its qualifier. -/
def cHead : Pattern :=
  opt (keyword ["static", "inline", "virtual", "explicit"]) ++ gap ++ word ++
    .alt (gap ++ char '*') space ++ name ++ gap ++ parameters ++ gap

theorem pattern_cFunction :
    cFunction.pattern = cHead ++ opt (text "const") ++ gap ++ openBrace :=
  rfl

/-- Without its qualifier, a C function ends with a call. -/
theorem search_cFunction (hnone : braceOrArrow.pattern.search line = none) :
    cFunction.pattern.search line = (cHead ++ text "const" ++ gap ++ openBrace).search line := by
  have hcall : EndsWithCall (cHead ++ (gap ++ openBrace)).language := by
    simp only [cHead, language_append, mul_assoc]
    exact ((((endsWithCall_of_le spaced_call_le_calls).mul _).mul _).mul _).mul _
  refine search_congr fun u v huv => ?_
  rw [pattern_cFunction]
  simp only [ends_append_assoc]
  exact ends_opt_of_without
    (ends_eq_nil_of_endsWithCall (by decide) (by decide) hcall hnone huv)

/-! ## The patterns that are left -/

/-- The patterns without what the first one covers: no C# methods, no mark of an asynchronous
arrow function, and a clause of exceptions and a qualifier that have to be there. -/
def needed : List Pattern :=
  [braceOrArrow.pattern,
    arrowHead ++ parameters ++ gap ++ text "=>",
    javaHead ++ throwsClause ++ gap ++ openBrace,
    pythonDef.pattern,
    cHead ++ text "const" ++ gap ++ openBrace,
    goFunc.pattern]

/-- Every match of a style has a name. -/
theorem exists_captured_of_search {style : Style} {hit : Hit}
    (h : style.pattern.search line = some hit) : ∃ span, hit.captured = some span := by
  obtain ⟨-, hreads, -⟩ := reads_of_search (isFree_pattern style) (isSteady_pattern style) h
  obtain ⟨x, n, -, -, -, -, -, -, -, hname⟩ := exists_name_of_reads hreads []
  exact ⟨_, hname⟩

end Style

/-! ## Names and signatures by a table of patterns -/

section Table

variable {p q : Pattern} {ps qs : List Pattern} {line : List Char}

theorem firstName_cons_of_search_eq_none (h : p.search line = none) :
    firstName (p :: ps) line = firstName ps line := by
  simp [firstName, h]

theorem firstName_cons_of_search_eq_some {hit : Hit} {span : Span} (h : p.search line = some hit)
    (hspan : hit.captured = some span) : firstName (p :: ps) line = some (span.slice line) := by
  simp [firstName, h, hspan]

theorem firstName_cons_congr (h : p.search line = q.search line)
    (htail : firstName ps line = firstName qs line) :
    firstName (p :: ps) line = firstName (q :: qs) line := by
  unfold firstName at htail ⊢
  rw [List.findSome?_cons, List.findSome?_cons, h, htail]

end Table

theorem firstName_needed (line : List Char) :
    firstName Style.needed line = declaredName line := by
  change _ = firstName (Style.all.map Style.pattern) line
  cases hfirst : Style.braceOrArrow.pattern.search line with
  | some hit =>
    -- the first pattern answers, in both tables
    obtain ⟨span, hspan⟩ := Style.exists_captured_of_search hfirst
    exact (firstName_cons_of_search_eq_some hfirst hspan).trans
      (firstName_cons_of_search_eq_some hfirst hspan).symm
  | none =>
    refine firstName_cons_congr rfl ?_
    refine firstName_cons_congr (Style.search_assignedArrow hfirst).symm ?_
    refine firstName_cons_congr (Style.search_javaMethod hfirst).symm ?_
    refine Eq.trans ?_ (firstName_cons_of_search_eq_none (Style.search_csharpMethod hfirst)).symm
    refine firstName_cons_congr rfl ?_
    exact firstName_cons_congr (Style.search_cFunction hfirst).symm rfl

namespace Signature

/-- The signature that a line declares, if a table of patterns decides on its name. -/
def ofLineBy? (table : List Pattern) (number : Nat) (line : List Char) : Option Signature :=
  let trimmed := Text.trim .edge line
  if isSkipped trimmed then none
  else (firstName table line).map fun name => ⟨.ofList name, .ofList trimmed, number⟩

/-- The functions that a text declares, if a table of patterns decides on their names. -/
def extractBy (table : List Pattern) (text : String) : List Signature :=
  ((Text.lines text).zipIdx 1).filterMap fun (line, number) => ofLineBy? table number line

theorem extractBy_all (text : String) :
    extractBy (Style.all.map Style.pattern) text = extract text :=
  rfl

theorem extractBy_congr {table table' : List Pattern}
    (h : ∀ line, firstName table line = firstName table' line) (text : String) :
    extractBy table text = extractBy table' text := by
  have hline : ∀ number line, ofLineBy? table number line = ofLineBy? table' number line := by
    intro number line
    simp only [ofLineBy?, h line]
  simp only [extractBy, hline]

/-- **The patterns that are left are enough**: they give every line the name it declares, and
every text its signatures. -/
theorem firstName_needed_eq_and_extractBy_needed_eq :
    (∀ line, firstName Style.needed line = declaredName line) ∧
      ∀ text, extractBy Style.needed text = extract text := by
  refine ⟨firstName_needed, fun text => ?_⟩
  rw [← extractBy_all]
  exact extractBy_congr firstName_needed text

end Signature

end Relocation
