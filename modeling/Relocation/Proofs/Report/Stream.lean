import Relocation.Proofs.Text.Shortcode
import Relocation.Report.Payload

/-!
# The JSON report on a stream

A stream gets the document of a file and a line end, but with pictures in place of shortcodes. What
is written between the texts of a document holds no codes, and no code goes on from one text to
another, since there is white space between any two.

* `Json.pieces` — the texts of a document as they are written,
* `Json.expand_document_eq_iff` — a document keeps its form exactly when all its texts do,
* `Comparison.streamDocument_eq_iff` — **the stream carries the document of the file exactly when
  no text of the report has a code with a picture**.
-/

namespace Relocation

namespace Json

open Shortcode (IsPlain Apart isPlain_append_iff isPlain_append_of_not_mem)

/-! ## The texts of a document -/

mutual

/-- The texts of a value as they are written: between quotes, and a key with the colon after it,
which may be the end of a code. -/
def pieces : Json → List (List Char)
  | text s => [quote s]
  | number _ => []
  | list items => itemPieces items
  | object members => memberPieces members

/-- The texts of the items of a list. -/
def itemPieces : List Json → List (List Char)
  | [] => []
  | item :: rest => item.pieces ++ itemPieces rest

/-- The keys of an object and the texts of its values. -/
def memberPieces : List (String × Json) → List (List Char)
  | [] => []
  | (key, value) :: rest => (quote key ++ [':']) :: (value.pieces ++ memberPieces rest)

end

theorem itemPieces_eq (items : List Json) : itemPieces items = items.flatMap pieces := by
  induction items with
  | nil => rfl
  | cons item rest ih => rw [itemPieces, ih, List.flatMap_cons]

theorem memberPieces_eq (members : List (String × Json)) :
    memberPieces members =
      members.flatMap fun member => (quote member.1 ++ [':']) :: member.2.pieces := by
  induction members with
  | nil => rfl
  | cons member rest ih =>
    rw [memberPieces, ih, List.flatMap_cons]
    rfl

mutual

/-- Sorting its members leaves the texts of a value. -/
theorem mem_pieces_sorted {piece : List Char} :
    (j : Json) → (piece ∈ j.sorted.pieces ↔ piece ∈ j.pieces)
  | text _ => Iff.rfl
  | number _ => Iff.rfl
  | list items => mem_itemPieces_sorted items
  | object members => by
    rw [sorted, pieces, pieces, ← mem_memberPieces_sorted members, memberPieces_eq,
      memberPieces_eq]
    exact ((List.mergeSort_perm _ _).flatMap_right _).mem_iff

theorem mem_itemPieces_sorted {piece : List Char} :
    (items : List Json) → (piece ∈ itemPieces (sortedItems items) ↔ piece ∈ itemPieces items)
  | [] => Iff.rfl
  | item :: rest => by
    simp only [sortedItems, itemPieces, List.mem_append, mem_pieces_sorted item,
      mem_itemPieces_sorted rest]

theorem mem_memberPieces_sorted {piece : List Char} :
    (members : List (String × Json)) →
      (piece ∈ memberPieces (sortedMembers members) ↔ piece ∈ memberPieces members)
  | [] => Iff.rfl
  | (key, value) :: rest => by
    simp only [sortedMembers, memberPieces, List.mem_cons, List.mem_append,
      mem_pieces_sorted value, mem_memberPieces_sorted rest]

end

/-! ## What is written between the texts -/

theorem apart_newline (level : Nat) (t : List Char) : Apart (newline level ++ t) :=
  .blank (by decide) _

theorem apart_writeItems (level : Nat) {t : List Char} (h : Apart t) (items : List Json) :
    Apart (writeItems level items ++ t) := by
  cases items with
  | nil => exact h
  | cons item rest => exact .comma (.blank (by decide) _)

theorem apart_writeMembers (level : Nat) {t : List Char} (h : Apart t)
    (members : List (String × Json)) : Apart (writeMembers level members ++ t) := by
  cases members with
  | nil => exact h
  | cons member rest => exact .comma (.blank (by decide) _)

theorem colon_not_mem_newline (level : Nat) : ':' ∉ newline level := by
  simp [newline]

theorem colon_not_mem_number (n : Int) : ':' ∉ (toString n).toList := by
  have hdigits : ∀ n : Nat, ':' ∉ (Nat.repr n).toList := by
    intro n hmem
    rw [Nat.toList_repr] at hmem
    exact absurd (Nat.isDigit_of_mem_toDigits (by decide) (by decide) hmem) (by decide)
  cases n with
  | ofNat n => exact hdigits n
  | negSucc n =>
    change ':' ∉ ("-" ++ Nat.repr (n + 1)).toList
    simpa using hdigits (n + 1)

theorem isPlain_newline_append_iff (level : Nat) {t : List Char} :
    IsPlain (newline level ++ t) ↔ IsPlain t :=
  isPlain_append_of_not_mem (colon_not_mem_newline level)

theorem isPlain_cons_iff {c : Char} (hc : ':' ≠ c) {t : List Char} : IsPlain (c :: t) ↔ IsPlain t :=
  isPlain_append_of_not_mem (x := [c]) (by simpa using hc)

/-- A key with its colon is read apart from the value, for there is a blank between them. -/
theorem isPlain_key_append_iff (key : String) {t : List Char} :
    IsPlain (quote key ++ ':' :: ' ' :: t) ↔ IsPlain (quote key ++ [':']) ∧ IsPlain t := by
  have hsplit : quote key ++ ':' :: ' ' :: t = (quote key ++ [':']) ++ ' ' :: t := by simp
  rw [hsplit, isPlain_append_iff (.blank (by decide) t), isPlain_cons_iff (by decide)]

/-! ## Plain documents -/

mutual

/-- A value is plain, before a text that is apart, exactly when its texts are. -/
theorem isPlain_write_iff (level : Nat) {t : List Char} (h : Apart t) : (j : Json) →
    (IsPlain (j.write level ++ t) ↔ (∀ piece ∈ j.pieces, IsPlain piece) ∧ IsPlain t)
  | text s => by
    rw [write, pieces, isPlain_append_iff h, List.forall_mem_singleton]
  | number n => by
    rw [write, isPlain_append_of_not_mem (colon_not_mem_number n)]
    simp [pieces]
  | list [] => by
    rw [write, isPlain_append_of_not_mem (by decide)]
    simp [pieces, itemPieces]
  | list (item :: rest) => by
    have hrest := apart_newline level (']' :: t)
    simp only [write, List.cons_append, List.append_assoc, List.nil_append, pieces, itemPieces,
      List.forall_mem_append]
    rw [isPlain_cons_iff (by decide), isPlain_newline_append_iff,
      isPlain_write_iff (level + 1) (apart_writeItems _ hrest _) item,
      isPlain_writeItems_iff (level + 1) hrest rest, isPlain_newline_append_iff,
      isPlain_cons_iff (by decide), and_assoc]
  | object [] => by
    rw [write, isPlain_append_of_not_mem (by decide)]
    simp [pieces, memberPieces]
  | object ((key, value) :: rest) => by
    have hrest := apart_newline level ('\x7d' :: t)
    simp only [write, List.cons_append, List.append_assoc, List.nil_append, pieces, memberPieces,
      List.forall_mem_cons, List.forall_mem_append]
    rw [isPlain_cons_iff (by decide), isPlain_newline_append_iff, isPlain_key_append_iff,
      isPlain_write_iff (level + 1) (apart_writeMembers _ hrest _) value,
      isPlain_writeMembers_iff (level + 1) hrest rest, isPlain_newline_append_iff,
      isPlain_cons_iff (by decide), and_assoc, and_assoc]

/-- The same for the items of a list after the first one. -/
theorem isPlain_writeItems_iff (level : Nat) {t : List Char} (h : Apart t) :
    (items : List Json) → (IsPlain (writeItems level items ++ t) ↔
      (∀ piece ∈ itemPieces items, IsPlain piece) ∧ IsPlain t)
  | [] => by simp [writeItems, itemPieces]
  | item :: rest => by
    simp only [writeItems, List.cons_append, List.append_assoc, itemPieces, List.forall_mem_append]
    rw [isPlain_cons_iff (by decide), isPlain_newline_append_iff,
      isPlain_write_iff level (apart_writeItems _ h _) item, isPlain_writeItems_iff level h rest,
      and_assoc]

/-- The same for the members of an object after the first one. -/
theorem isPlain_writeMembers_iff (level : Nat) {t : List Char} (h : Apart t) :
    (members : List (String × Json)) → (IsPlain (writeMembers level members ++ t) ↔
      (∀ piece ∈ memberPieces members, IsPlain piece) ∧ IsPlain t)
  | [] => by simp [writeMembers, memberPieces]
  | (key, value) :: rest => by
    simp only [writeMembers, List.cons_append, List.append_assoc, List.nil_append, memberPieces,
      List.forall_mem_cons, List.forall_mem_append]
    rw [isPlain_cons_iff (by decide), isPlain_newline_append_iff,
      isPlain_key_append_iff, isPlain_write_iff level (apart_writeMembers _ h _) value,
      isPlain_writeMembers_iff level h rest, and_assoc, and_assoc]

end

/-- **A document keeps its form exactly when all its texts do.** -/
theorem expand_document_eq_iff (j : Json) :
    Shortcode.expand j.document.toList = j.document.toList ↔ ∀ piece ∈ j.pieces, IsPlain piece := by
  have hwrite := isPlain_write_iff 0 .nil j.sorted
  rw [List.append_nil] at hwrite
  rw [document, String.toList_ofList, Shortcode.expand_eq_self_iff, hwrite]
  simp only [mem_pieces_sorted, Shortcode.isPlain_nil, and_true]

/-- A key without colons is plain. -/
theorem isPlain_key {key : String} (h : ':' ∉ quote key) : IsPlain (quote key ++ [':']) := by
  rw [isPlain_append_of_not_mem h]
  exact Shortcode.isPlain_colon

end Json

/-! ## The report of a comparison -/

namespace Signature

/-- The texts of a signature. -/
def texts (s : Signature) : List String :=
  [s.name, s.declarator]

theorem forall_pieces_toJson_iff (s : Signature) :
    (∀ piece ∈ s.toJson.pieces, Shortcode.IsPlain piece) ↔
      ∀ text ∈ s.texts, Shortcode.IsPlain (Json.quote text) := by
  have hname : Shortcode.IsPlain (Json.quote "name" ++ [':']) := Json.isPlain_key (by decide)
  have hdeclarator : Shortcode.IsPlain (Json.quote "declarator" ++ [':']) :=
    Json.isPlain_key (by decide)
  have hline : Shortcode.IsPlain (Json.quote "line" ++ [':']) := Json.isPlain_key (by decide)
  simp [toJson, texts, Json.pieces, Json.memberPieces, hname, hdeclarator, hline]

end Signature

namespace Comparison

/-- What a report takes from its comparison: messages, names and declarators between quotes, and
the names of files, which are keys, with the colon after them. -/
def pieces (c : Comparison) : List (List Char) :=
  (c.errors ++ c.warnings ++
      (c.removed ++ c.remaining ++ c.newFiles.signatures).flatMap Signature.texts).map Json.quote ++
    c.newFiles.names.map fun name => Json.quote name ++ [':']

theorem forall_pieces_toJson_iff (c : Comparison) :
    (∀ piece ∈ (Payload.ofComparison c).toJson.pieces, Shortcode.IsPlain piece) ↔
      ∀ piece ∈ c.pieces, Shortcode.IsPlain piece := by
  have hkey : ∀ key ∈ ["status", "errors", "warnings", "summary", "removed_methods",
      "relocated_methods", "remaining_methods", "new_files_analyzed", "new_file_methods"],
      Shortcode.IsPlain (Json.quote key ++ [':']) := by
    intro key hkey
    refine Json.isPlain_key ?_
    revert key
    decide
  have hstatus : Shortcode.IsPlain (Json.quote c.status) := by
    unfold status
    split <;> exact Shortcode.isPlain_of_not_mem (by decide)
  simp only [List.forall_mem_cons] at hkey
  simp only [Payload.ofComparison, Payload.toJson, Json.pieces, Json.memberPieces,
    Json.itemPieces_eq, Json.memberPieces_eq, hkey, hstatus, pieces, FileMap.signatures,
    FileMap.names, Signature.forall_pieces_toJson_iff, List.forall_mem_cons, List.not_mem_nil,
    false_implies, implies_true, List.forall_mem_append, List.forall_mem_flatMap,
    List.forall_mem_map, true_and, and_true, imp_and, forall_and, and_assoc]
  -- a file and its signatures change places
  exact and_congr_right' (and_congr_right' (and_congr_right' (and_congr_right' and_comm)))

theorem streamDocument_eq_iff_expand (c : Comparison) :
    c.streamDocument = c.document ++ "\n" ↔
      Shortcode.expand c.document.toList = c.document.toList := by
  rw [← String.toList_inj, streamDocument, String.toList_ofList, String.toList_append]
  exact List.append_left_inj _

/-- **The stream carries the document of the file**, and a line end, exactly when no text of the
report has a code with a picture. -/
theorem streamDocument_eq_iff (c : Comparison) :
    c.streamDocument = c.document ++ "\n" ↔ ∀ piece ∈ c.pieces, Shortcode.IsPlain piece := by
  rw [streamDocument_eq_iff_expand, ← forall_pieces_toJson_iff]
  exact Json.expand_document_eq_iff _

/-- A source line with the name of a picture between colons does not get through. -/
theorem streamDocument_ne_of_thumb :
    (ofTexts "" "def f(): return ':+1:'" []).streamDocument ≠
      (ofTexts "" "def f(): return ':+1:'" []).document ++ "\n" := by
  intro h
  rw [streamDocument_eq_iff_expand] at h
  have hplain := (forall_pieces_toJson_iff _).mp ((Json.expand_document_eq_iff _).mp h)
    (Json.quote "def f(): return ':+1:'") (by decide +kernel)
  exact absurd (Shortcode.expand_eq_self_iff.mpr hplain) (by decide)

end Comparison

end Relocation
