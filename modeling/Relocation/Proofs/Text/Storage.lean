import Relocation.Input
import Relocation.Proofs.Signature.Trimming
import Relocation.Proofs.Text.Utf8

/-!
# How a text is stored

A text may be stored with line ends of three kinds, and with or without a byte order mark. When it
is read, the line ends become line feeds again, but the mark stays in front of the first line. What
is declared on that line is the same, since marks are trimmed like blanks.

* `LineEnd.unifyNewlines_write` — line ends are undone,
* `Storage.textOfBytes_bytes` — what is read of a stored text,
* `Text.Alike` — texts with the same declarations on the same lines,
* `Storage.alike_read` — **a text is alike however it was stored**.
-/

namespace Relocation

/-! ## Line ends -/

/-- How the lines of a file end. -/
inductive LineEnd where
  /-- a line feed -/
  | lf
  /-- a carriage return and a line feed -/
  | crlf
  /-- a carriage return -/
  | cr
  deriving DecidableEq, Repr

namespace LineEnd

/-- What stands at the end of a line. -/
def chars : LineEnd → List Char
  | lf => ['\n']
  | crlf => ['\r', '\n']
  | cr => ['\r']

/-- Write a text with given line ends for its line feeds. -/
def write (e : LineEnd) (text : List Char) : List Char :=
  text.flatMap fun c => if c = '\n' then e.chars else [c]

variable {e : LineEnd} {previous c : Char} {text : List Char}

theorem write_cons : e.write (c :: text) = (if c = '\n' then e.chars else [c]) ++ e.write text :=
  rfl

/-- Turn line ends into line feeds in a text that comes after a character. -/
def unifyAfter (previous : Char) (text : List Char) : List Char :=
  ((previous :: text).zip text).filterMap fun (previous, c) =>
    if previous = '\r' ∧ c = '\n' then none else some (if c = '\r' then '\n' else c)

theorem unifyAfter_cons (h : ¬(previous = '\r' ∧ c = '\n')) :
    unifyAfter previous (c :: text) = (if c = '\r' then '\n' else c) :: unifyAfter c text := by
  rw [unifyAfter, List.zip_cons_cons, List.filterMap_cons]
  simp only [if_neg h]
  rfl

/-- The line feed of a pair is dropped. -/
theorem unifyAfter_pair : unifyAfter '\r' ('\n' :: text) = unifyAfter '\n' text :=
  rfl

/-- Line ends are undone, after any character but a carriage return that could make a pair with a
line feed. -/
theorem unifyAfter_write (h : '\r' ∉ text) (hprevious : previous = '\r' → e = .cr) :
    unifyAfter previous (e.write text) = text := by
  induction text generalizing previous with
  | nil => rfl
  | cons c text ih =>
    obtain ⟨hc, htext⟩ := not_or.mp (mt List.mem_cons.mpr h)
    rw [write_cons]
    by_cases hfeed : c = '\n'
    · subst hfeed
      rw [if_pos rfl]
      have hfeed : '\n' = '\r' → e = .cr := fun heq => absurd heq (by decide)
      cases e with
      | lf =>
        have hpair : ¬(previous = '\r' ∧ '\n' = '\n') := fun hpair => nomatch hprevious hpair.1
        rw [chars, List.singleton_append, unifyAfter_cons hpair, ih htext hfeed]
        rfl
      | crlf =>
        have hpair : ¬(previous = '\r' ∧ '\r' = '\n') := fun hpair => absurd hpair.2 (by decide)
        rw [chars, List.cons_append, unifyAfter_cons hpair, List.singleton_append,
          unifyAfter_pair, ih htext hfeed]
        rfl
      | cr =>
        have hpair : ¬(previous = '\r' ∧ '\r' = '\n') := fun hpair => absurd hpair.2 (by decide)
        rw [chars, List.singleton_append, unifyAfter_cons hpair, ih htext fun _ => rfl]
        rfl
    · have hpair : ¬(previous = '\r' ∧ c = '\n') := fun hpair => hfeed hpair.2
      rw [if_neg hfeed, List.singleton_append, unifyAfter_cons hpair, if_neg (Ne.symm hc),
        ih htext fun heq => absurd heq.symm hc]

/-- **Line ends are undone** when a file is read. -/
theorem unifyNewlines_write (e : LineEnd) (h : '\r' ∉ text) :
    Text.unifyNewlines (e.write text) = text :=
  unifyAfter_write h fun hnull => absurd hnull (by decide)

end LineEnd

/-! ## Texts that declare the same -/

/-- The byte order mark. -/
def byteOrderMark : Char := '\ufeff'

namespace Text

/-- Texts with the same declarations on the same lines, and with as many lines. -/
structure Alike (text text' : String) : Prop where
  extract : Signature.extract text = Signature.extract text'
  countLines : countLines text = countLines text'

theorem trim_mark (line : List Char) : trim .edge (byteOrderMark :: line) = trim .edge line := by
  have hmark : CharSet.edge.contains byteOrderMark = true := by decide
  rw [trim, trimStart, List.dropWhile_cons_of_pos hmark]
  rfl

/-- A mark stands in front of the first line. -/
theorem splitOn_mark (text : List Char) :
    (byteOrderMark :: text).splitOn '\n' =
      (text.splitOn '\n').modifyHead (byteOrderMark :: ·) := by
  rw [List.splitOn, List.splitOn, List.splitOnP_cons_eq_if_modifyHead]
  exact if_neg (by decide)

/-- A mark in front changes nothing about what a text declares. -/
theorem alike_mark (text : List Char) :
    Alike (.ofList (byteOrderMark :: text)) (.ofList text) := by
  obtain ⟨line, lines, hlines⟩ := List.exists_cons_of_ne_nil (List.splitOn_ne_nil '\n' text)
  constructor
  · simp only [Signature.extract, Text.lines, String.toList_ofList, splitOn_mark, hlines,
      List.modifyHead_cons, Signature.ofLines_cons]
    rw [Signature.ofLine?_congr 1 (trim_mark line)]
  · simp only [Text.countLines, Text.lines, String.toList_ofList, splitOn_mark,
      List.length_modifyHead]

end Text

/-! ## Stored texts -/

/-- How a text is stored. -/
structure Storage where
  lineEnd : LineEnd
  /-- whether a byte order mark stands in front -/
  marked : Bool
  deriving DecidableEq, Repr

namespace Storage

/-- A text with line feeds and nothing in front. -/
def plain : Storage :=
  ⟨.lf, false⟩

/-- What stands in front of a text. -/
def lead (s : Storage) : List Char :=
  if s.marked then [byteOrderMark] else []

/-- The bytes of a stored text. -/
def bytes (s : Storage) (text : String) : List UInt8 :=
  Utf8.encode (s.lead ++ s.lineEnd.write text.toList)

variable {s : Storage} {text : String}

theorem write_lead (s : Storage) (text : List Char) :
    s.lead ++ s.lineEnd.write text = s.lineEnd.write (s.lead ++ text) := by
  unfold lead
  cases s.marked with
  | true => exact (LineEnd.write_cons (c := byteOrderMark)).symm
  | false => rfl

/-- What is read of a stored text: the text, with the mark if there is one. -/
theorem textOfBytes_bytes (s : Storage) (h : '\r' ∉ text.toList) :
    textOfBytes (s.bytes text) = .ok (.ofList (s.lead ++ text.toList)) := by
  have hlead : '\r' ∉ s.lead ++ text.toList := by
    unfold lead
    cases s.marked with
    | true => exact mt List.mem_cons.mp (not_or.mpr ⟨by decide, h⟩)
    | false => exact h
  rw [textOfBytes, bytes, Utf8.decode_encode, write_lead]
  change Except.ok (String.ofList _) = _
  rw [LineEnd.unifyNewlines_write _ hlead]

/-- **A text is alike however it was stored.** -/
theorem alike_read (s : Storage) (text : String) :
    Text.Alike (.ofList (s.lead ++ text.toList)) text := by
  unfold lead
  cases s.marked with
  | true =>
    have halike := Text.alike_mark text.toList
    rwa [String.ofList_toList] at halike
  | false =>
    rw [if_neg (by decide), List.nil_append, String.ofList_toList]
    exact ⟨rfl, rfl⟩

end Storage

end Relocation
