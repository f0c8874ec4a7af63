import Mathlib.Data.List.Basic
import Relocation.Report.Json

/-!
# What a JSON text says

Reports are written in one of the many forms that JSON allows for a value. This module says, apart
from the writer, which texts spell which value, and reads them. Fractions, booleans and null are
left out, for `Json` has none.

* `Json.Content` — the sixteen-bit units that stand between two quotes,
* `Json.Spells` — the grammar of values, with white space wherever it may stand,
* `Json.read?` — a reader,
* `Json.read?_eq_some_of_denotes` — **the reader finds the value that a text denotes**, so that no
  text denotes two.
-/

namespace Relocation.Json

/-! ## Texts -/

/-- The sixteen-bit units of a character: one, or a surrogate pair beyond sixteen bits. -/
def units (c : Char) : List Nat :=
  if c.toNat < 0x10000 then [c.toNat]
  else [0xd800 + (c.toNat - 0x10000) / 0x400, 0xdc00 + (c.toNat - 0x10000) % 0x400]

/-- The text that units stand for, if surrogates come in pairs only. -/
def ofUnits? : List Nat → Option (List Char)
  | [] => some []
  | unit :: rest =>
    if unit < 0xd800 ∨ 0xe000 ≤ unit then (ofUnits? rest).map (Char.ofNat unit :: ·)
    else
      match rest with
      | [] => none
      | low :: rest =>
        if unit < 0xdc00 ∧ 0xdc00 ≤ low ∧ low < 0xe000 then
          (ofUnits? rest).map
            (Char.ofNat (0x10000 + (unit - 0xd800) * 0x400 + (low - 0xdc00)) :: ·)
        else none

theorem ofUnits?_units_append (c : Char) (us : List Nat) :
    ofUnits? (units c ++ us) = (ofUnits? us).map (c :: ·) := by
  have hvalid := c.valid
  change c.toNat < 0xd800 ∨ 0xdfff < c.toNat ∧ c.toNat < 0x110000 at hvalid
  unfold units
  split
  · have hplain : c.toNat < 0xd800 ∨ 0xe000 ≤ c.toNat := by omega
    rw [List.singleton_append, ofUnits?.eq_def]
    dsimp only
    rw [if_pos hplain, Char.ofNat_toNat]
  · have hhigh : ¬(0xd800 + (c.toNat - 0x10000) / 0x400 < 0xd800 ∨
        0xe000 ≤ 0xd800 + (c.toNat - 0x10000) / 0x400) := by omega
    have hpair : 0xd800 + (c.toNat - 0x10000) / 0x400 < 0xdc00 ∧
        0xdc00 ≤ 0xdc00 + (c.toNat - 0x10000) % 0x400 ∧
        0xdc00 + (c.toNat - 0x10000) % 0x400 < 0xe000 := by omega
    have hcode : 0x10000 + (0xd800 + (c.toNat - 0x10000) / 0x400 - 0xd800) * 0x400 +
        (0xdc00 + (c.toNat - 0x10000) % 0x400 - 0xdc00) = c.toNat := by omega
    rw [List.cons_append, List.singleton_append, ofUnits?.eq_def]
    dsimp only
    rw [if_neg hhigh, if_pos hpair, hcode, Char.ofNat_toNat]

/-- The units of a text stand for that text. -/
theorem ofUnits?_units (text : List Char) : ofUnits? (text.flatMap units) = some text := by
  induction text with
  | nil => rfl
  | cons c text ih => rw [List.flatMap_cons, ofUnits?_units_append, ih, Option.map_some]

/-- Whether a character may stand for itself between quotes. -/
def isPlain (c : Char) : Bool :=
  ' ' ≤ c && c != '"' && c != '\\'

/-- What may come after a backslash, and the character that it stands for. -/
def shortEscapes : List (Char × Char) :=
  [('"', '"'), ('\\', '\\'), ('/', '/'), ('b', '\x08'), ('f', '\x0c'), ('n', '\n'), ('r', '\r'),
    ('t', '\t')]

/-- The value of a hexadecimal digit. -/
def hexValue? (c : Char) : Option Nat :=
  if '0' ≤ c ∧ c ≤ '9' then some (c.toNat - 48)
  else if 'a' ≤ c ∧ c ≤ 'f' then some (c.toNat - 87)
  else if 'A' ≤ c ∧ c ≤ 'F' then some (c.toNat - 55)
  else none

/-- The number that hexadecimal digits write, the most significant first. -/
def hexNumber? (digits : List Char) : Option Nat :=
  digits.foldlM (fun n c => (hexValue? c).map (16 * n + ·)) 0

/-- What stands between two quotes, and the units that it stands for. -/
inductive Content : List Char → List Nat → Prop
  | nil : Content [] []
  | plain {c : Char} {t : List Char} {us : List Nat} (hc : isPlain c = true) (h : Content t us) :
      Content (c :: t) (units c ++ us)
  | short {e c : Char} {t : List Char} {us : List Nat} (hc : shortEscapes.lookup e = some c)
      (h : Content t us) : Content ('\\' :: e :: t) (units c ++ us)
  | unit {d₁ d₂ d₃ d₄ : Char} {n : Nat} {t : List Char} {us : List Nat}
      (hn : hexNumber? [d₁, d₂, d₃, d₄] = some n) (h : Content t us) :
      Content ('\\' :: 'u' :: d₁ :: d₂ :: d₃ :: d₄ :: t) (n :: us)

theorem Content.append {t t' : List Char} {us us' : List Nat} (h : Content t us)
    (h' : Content t' us') : Content (t ++ t') (us ++ us') := by
  induction h with
  | nil => exact h'
  | plain hc _ ih =>
    rw [List.append_assoc]
    exact .plain hc ih
  | short hc _ ih =>
    rw [List.append_assoc]
    exact .short hc ih
  | unit hn _ ih => exact .unit hn ih

/-- Read units up to the closing quote. -/
def readUnits? : List Char → Option (List Nat × List Char)
  | [] => none
  | '"' :: rest => some ([], rest)
  | '\\' :: 'u' :: d₁ :: d₂ :: d₃ :: d₄ :: rest => do
    let n ← hexNumber? [d₁, d₂, d₃, d₄]
    let (us, rest) ← readUnits? rest
    return (n :: us, rest)
  | '\\' :: e :: rest => do
    let c ← shortEscapes.lookup e
    let (us, rest) ← readUnits? rest
    return (units c ++ us, rest)
  | c :: rest => do
    let (us, rest) ← readUnits? rest
    if ' ' ≤ c then return (units c ++ us, rest) else none

theorem readUnits?_of_content {t : List Char} {us : List Nat} (h : Content t us)
    (rest : List Char) : readUnits? (t ++ '"' :: rest) = some (us, rest) := by
  induction h with
  | nil => rfl
  | @plain c t us hc _ ih =>
    obtain ⟨⟨hle, hquote⟩, hslash⟩ : (' ' ≤ c ∧ c ≠ '"') ∧ c ≠ '\\' := by
      simpa [isPlain] using hc
    rw [List.cons_append, readUnits?, ih]
    · simp [hle]
    · exact hquote
    · simp [hslash]
    · simp [hslash]
  | @short e c t us hc _ ih =>
    have hu : e ≠ 'u' := by
      rintro rfl
      cases hc
    rw [List.cons_append, List.cons_append, readUnits?, ih, hc]
    · rfl
    · simp [hu]
  | unit hn _ ih =>
    simp only [List.cons_append, readUnits?, hn, ih]
    rfl

/-- Read a text up to the closing quote. -/
def readText? (text : List Char) : Option (String × List Char) := do
  let (us, rest) ← readUnits? text
  let chars ← ofUnits? us
  return (.ofList chars, rest)

theorem readText?_of_content {t : List Char} {s : String}
    (h : Content t (s.toList.flatMap units)) (rest : List Char) :
    readText? (t ++ '"' :: rest) = some (s, rest) := by
  simp [readText?, readUnits?_of_content h, ofUnits?_units]

/-! ## Numbers -/

/-- Decimal digits that write a number, without needless zeros in front. -/
structure IsNumeral (digits : List Char) (n : Nat) : Prop where
  ne_nil : digits ≠ []
  isDigit : ∀ c ∈ digits, c.isDigit = true
  no_zero_ahead : digits.head? = some '0' → digits = ['0']
  value : Nat.ofDigitChars 10 digits 0 = n

/-- Read a natural number. -/
def readNatural? (text : List Char) : Option (Nat × List Char) :=
  let digits := text.takeWhile Char.isDigit
  if digits = [] ∨ digits.head? = some '0' ∧ digits ≠ ['0'] then none
  else some (Nat.ofDigitChars 10 digits 0, text.dropWhile Char.isDigit)

/-- A number ends before a text, because the text does not start with a digit. -/
def Stops (text : List Char) : Prop :=
  ∀ c ∈ text.head?, c.isDigit = false

theorem takeWhile_isDigit_append {digits rest : List Char}
    (hdigits : ∀ c ∈ digits, c.isDigit = true) (hrest : Stops rest) :
    (digits ++ rest).takeWhile Char.isDigit = digits := by
  rw [List.takeWhile_append_of_pos hdigits]
  cases rest with
  | nil => simp
  | cons c rest => simp [hrest c rfl]

theorem dropWhile_isDigit_append {digits rest : List Char}
    (hdigits : ∀ c ∈ digits, c.isDigit = true) (hrest : Stops rest) :
    (digits ++ rest).dropWhile Char.isDigit = rest := by
  rw [List.dropWhile_append_of_pos hdigits]
  cases rest with
  | nil => rfl
  | cons c rest => simp [hrest c rfl]

theorem readNatural?_of_isNumeral {digits rest : List Char} {n : Nat} (h : IsNumeral digits n)
    (hrest : Stops rest) : readNatural? (digits ++ rest) = some (n, rest) := by
  have hgood : ¬(digits = [] ∨ digits.head? = some '0' ∧ digits ≠ ['0']) := by
    rintro (hnil | ⟨hzero, hne⟩)
    · exact h.ne_nil hnil
    · exact hne (h.no_zero_ahead hzero)
  simp only [readNatural?, takeWhile_isDigit_append h.isDigit hrest,
    dropWhile_isDigit_append h.isDigit hrest, hgood, if_false, h.value]

/-- Read an integer. -/
def readNumber? : List Char → Option (Int × List Char)
  | '-' :: rest => (readNatural? rest).map fun (n, rest) => (-(n : Int), rest)
  | t => (readNatural? t).map fun (n, rest) => ((n : Int), rest)

/-! ## Values -/

/-- White space between the tokens of a text. -/
def isSpace (c : Char) : Bool :=
  [' ', '\n', '\r', '\t'].contains c

/-- Nothing but white space. -/
def Blank (w : List Char) : Prop :=
  ∀ c ∈ w, isSpace c = true

mutual

/-- **The grammar of values.** -/
inductive Spells : List Char → Json → Prop
  | text {t : List Char} {s : String} (h : Content t (s.toList.flatMap units)) :
      Spells ('"' :: (t ++ ['"'])) (.text s)
  | natural {digits : List Char} {n : Nat} (h : IsNumeral digits n) : Spells digits (.number n)
  | negative {digits : List Char} {n : Nat} (h : IsNumeral digits n) :
      Spells ('-' :: digits) (.number (-n))
  | noItems {w : List Char} (hw : Blank w) : Spells ('[' :: (w ++ [']'])) (.list [])
  | items {t : List Char} {items : List Json} (h : SpellsItems t items) :
      Spells ('[' :: (t ++ [']'])) (.list items)
  | noMembers {w : List Char} (hw : Blank w) : Spells ('\x7b' :: (w ++ ['\x7d'])) (.object [])
  | members {t : List Char} {members : List (String × Json)} (h : SpellsMembers t members) :
      Spells ('\x7b' :: (t ++ ['\x7d'])) (.object members)

/-- The items of a list, at least one, with commas between them. -/
inductive SpellsItems : List Char → List Json → Prop
  | last {w t w' : List Char} {item : Json} (hw : Blank w) (h : Spells t item) (hw' : Blank w') :
      SpellsItems (w ++ (t ++ w')) [item]
  | more {w t w' rest : List Char} {item : Json} {items : List Json} (hw : Blank w)
      (h : Spells t item) (hw' : Blank w') (hrest : SpellsItems rest items) :
      SpellsItems (w ++ (t ++ (w' ++ ',' :: rest))) (item :: items)

/-- The members of an object, at least one, with commas between them. -/
inductive SpellsMembers : List Char → List (String × Json) → Prop
  | last {w k w₁ w₂ t w' : List Char} {key : String} {value : Json} (hw : Blank w)
      (hk : Content k (key.toList.flatMap units)) (hw₁ : Blank w₁) (hw₂ : Blank w₂)
      (h : Spells t value) (hw' : Blank w') :
      SpellsMembers (w ++ '"' :: (k ++ '"' :: (w₁ ++ ':' :: (w₂ ++ (t ++ w'))))) [(key, value)]
  | more {w k w₁ w₂ t w' rest : List Char} {key : String} {value : Json}
      {members : List (String × Json)} (hw : Blank w) (hk : Content k (key.toList.flatMap units))
      (hw₁ : Blank w₁) (hw₂ : Blank w₂) (h : Spells t value) (hw' : Blank w')
      (hrest : SpellsMembers rest members) :
      SpellsMembers (w ++ '"' :: (k ++ '"' :: (w₁ ++ ':' :: (w₂ ++ (t ++ (w' ++ ',' :: rest))))))
        ((key, value) :: members)

end

/-- **A text denotes a value** if it spells it, apart from white space around it. -/
def Denotes (text : List Char) (j : Json) : Prop :=
  ∃ w t w', Blank w ∧ Spells t j ∧ Blank w' ∧ text = w ++ (t ++ w')

/-! ## The reader -/

/-- Pass over white space. -/
def skip (text : List Char) : List Char :=
  text.dropWhile isSpace

mutual

/-- Read a value that starts right here. No value takes more rounds than it has characters. -/
def readValue? : (rounds : Nat) → List Char → Option (Json × List Char)
  | 0, _ => none
  | _ + 1, '"' :: rest => (readText? rest).map fun (s, rest) => (.text s, rest)
  | rounds + 1, '[' :: rest =>
    match skip rest with
    | ']' :: rest => some (.list [], rest)
    | _ => (readItems? rounds rest).map fun (items, rest) => (.list items, rest)
  | rounds + 1, '\x7b' :: rest =>
    match skip rest with
    | '\x7d' :: rest => some (.object [], rest)
    | _ => (readMembers? rounds rest).map fun (members, rest) => (.object members, rest)
  | _ + 1, t => (readNumber? t).map fun (n, rest) => (.number n, rest)

/-- Read items up to the closing bracket. -/
def readItems? : (rounds : Nat) → List Char → Option (List Json × List Char)
  | 0, _ => none
  | rounds + 1, t => do
    let (item, rest) ← readValue? rounds (skip t)
    match skip rest with
    | ']' :: rest => return ([item], rest)
    | ',' :: rest =>
      let (items, rest) ← readItems? rounds rest
      return (item :: items, rest)
    | _ => none

/-- Read members up to the closing brace. -/
def readMembers? : (rounds : Nat) → List Char → Option (List (String × Json) × List Char)
  | 0, _ => none
  | rounds + 1, t => do
    let '"' :: rest := skip t | none
    let (key, rest) ← readText? rest
    let ':' :: rest := skip rest | none
    let (value, rest) ← readValue? rounds (skip rest)
    match skip rest with
    | '\x7d' :: rest => return ([(key, value)], rest)
    | ',' :: rest =>
      let (members, rest) ← readMembers? rounds rest
      return ((key, value) :: members, rest)
    | _ => none

end

/-- The value that a text denotes. -/
def read? (text : List Char) : Option Json :=
  match readValue? text.length (skip text) with
  | some (j, rest) => if (skip rest).isEmpty then some j else none
  | none => none

/-! ## The reader is complete -/

theorem isSpace_of_isDigit {c : Char} (h : c.isDigit = true) : isSpace c = false := by
  rw [← Bool.not_eq_true]
  intro hspace
  have hcases : c = ' ' ∨ c = '\n' ∨ c = '\r' ∨ c = '\t' := by simpa [isSpace] using hspace
  rcases hcases with rfl | rfl | rfl | rfl <;> cases h

/-- No value starts with white space or with a closing bracket. -/
theorem Spells.head {t : List Char} {j : Json} (h : Spells t j) :
    ∃ c t', t = c :: t' ∧ isSpace c = false ∧ c ≠ ']' := by
  cases h with
  | text h => exact ⟨_, _, rfl, rfl, by decide⟩
  | natural h =>
    obtain ⟨c, digits, rfl⟩ := List.exists_cons_of_ne_nil h.ne_nil
    have hc := h.isDigit c List.mem_cons_self
    refine ⟨c, digits, rfl, isSpace_of_isDigit hc, ?_⟩
    rintro rfl
    cases hc
  | negative h => exact ⟨_, _, rfl, rfl, by decide⟩
  | noItems hw => exact ⟨_, _, rfl, rfl, by decide⟩
  | items h => exact ⟨_, _, rfl, rfl, by decide⟩
  | noMembers hw => exact ⟨_, _, rfl, rfl, by decide⟩
  | members h => exact ⟨_, _, rfl, rfl, by decide⟩

theorem skip_append {w : List Char} (hw : Blank w) (t : List Char) : skip (w ++ t) = skip t :=
  List.dropWhile_append_of_pos hw

theorem skip_cons {c : Char} (hc : isSpace c = false) (t : List Char) : skip (c :: t) = c :: t := by
  rw [skip, List.dropWhile_cons_of_neg (by simp [hc])]

theorem skip_spells {t : List Char} {j : Json} (h : Spells t j) (rest : List Char) :
    skip (t ++ rest) = t ++ rest := by
  obtain ⟨c, t', rfl, hc, -⟩ := h.head
  exact skip_cons hc _

theorem stops_cons {c : Char} (hc : c.isDigit = false) (t : List Char) : Stops (c :: t) := by
  rintro _ ⟨⟩
  exact hc

theorem stops_blank_append {w : List Char} (hw : Blank w) {t : List Char} (ht : Stops t) :
    Stops (w ++ t) := by
  cases w with
  | nil => exact ht
  | cons c w =>
    refine stops_cons ?_ _
    rw [← Bool.not_eq_true]
    intro hdigit
    have hspace := hw c List.mem_cons_self
    rw [isSpace_of_isDigit hdigit] at hspace
    cases hspace

theorem readNumber?_of_isNumeral {digits rest : List Char} {n : Nat} (h : IsNumeral digits n)
    (hrest : Stops rest) : readNumber? (digits ++ rest) = some ((n : Int), rest) := by
  obtain ⟨c, digits, rfl⟩ := List.exists_cons_of_ne_nil h.ne_nil
  have hc := h.isDigit c List.mem_cons_self
  have hminus : c ≠ '-' := by
    rintro rfl
    cases hc
  rw [List.cons_append, readNumber?, ← List.cons_append, readNatural?_of_isNumeral h hrest]
  · rfl
  · simp [hminus]

/-- Items start with one of them, after white space. -/
theorem SpellsItems.head {t : List Char} {items : List Json} (h : SpellsItems t items)
    (rest : List Char) : ∀ rest', skip (t ++ rest) ≠ ']' :: rest' := by
  have hvalue {w t rest : List Char} {item : Json} (hw : Blank w) (h : Spells t item) :
      ∀ rest', skip (w ++ (t ++ rest)) ≠ ']' :: rest' := by
    intro rest' heq
    rw [skip_append hw, skip_spells h] at heq
    obtain ⟨c, t', rfl, -, hc⟩ := h.head
    exact hc (List.cons.inj heq).1
  cases h with
  | last hw h hw' =>
    rw [List.append_assoc, List.append_assoc]
    exact hvalue hw h
  | more hw h hw' hrest =>
    rw [List.append_assoc, List.append_assoc]
    exact hvalue hw h

/-- Members start with a key, after white space. -/
theorem SpellsMembers.head {t : List Char} {members : List (String × Json)}
    (h : SpellsMembers t members) (rest : List Char) :
    ∀ rest', skip (t ++ rest) ≠ '\x7d' :: rest' := by
  have hkey {w t : List Char} (hw : Blank w) : ∀ rest', skip (w ++ '"' :: t) ≠ '\x7d' :: rest' := by
    intro rest' heq
    rw [skip_append hw, skip_cons (by decide)] at heq
    cases heq
  cases h with
  | last hw =>
    rw [List.append_assoc]
    exact hkey hw
  | more hw =>
    rw [List.append_assoc]
    exact hkey hw

theorem readValue?_list {rounds : Nat} {t : List Char} (h : ∀ rest, skip t ≠ ']' :: rest) :
    readValue? (rounds + 1) ('[' :: t) =
      (readItems? rounds t).map fun (items, rest) => (.list items, rest) := by
  rw [readValue?]
  split
  · next heq => exact absurd heq (h _)
  · rfl

theorem readValue?_object {rounds : Nat} {t : List Char} (h : ∀ rest, skip t ≠ '\x7d' :: rest) :
    readValue? (rounds + 1) ('\x7b' :: t) =
      (readMembers? rounds t).map fun (members, rest) => (.object members, rest) := by
  rw [readValue?]
  split
  · next heq => exact absurd heq (h _)
  · rfl

theorem readValue?_number {rounds : Nat} {c : Char} {t : List Char}
    (hc : c.isDigit = true ∨ c = '-') : readValue? (rounds + 1) (c :: t) =
      (readNumber? (c :: t)).map fun (n, rest) => (.number n, rest) := by
  rw [readValue?]
  all_goals
    rintro _ ⟨rfl, -⟩
    simp at hc

mutual

/-- A value is read as the grammar says, if a number at its end stops there. -/
theorem readValue?_of_spells {t : List Char} {j : Json} (h : Spells t j) (rounds : Nat)
    (rest : List Char) (hrounds : t.length ≤ rounds) (hrest : Stops rest) :
    readValue? rounds (t ++ rest) = some (j, rest) := by
  obtain ⟨rounds, rfl⟩ : ∃ n, rounds = n + 1 := by
    obtain ⟨c, t', rfl, -⟩ := h.head
    exact Nat.exists_eq_add_one.mpr (Nat.lt_of_lt_of_le (Nat.zero_lt_succ _) hrounds)
  match h with
  | .text h =>
    rw [List.cons_append, List.append_assoc, List.singleton_append, readValue?,
      readText?_of_content h, Option.map_some]
  | .natural h =>
    have hnumber := readNumber?_of_isNumeral h hrest
    obtain ⟨c, digits, rfl⟩ := List.exists_cons_of_ne_nil h.ne_nil
    have hc := h.isDigit c List.mem_cons_self
    rw [List.cons_append, readValue?_number (.inl hc), ← List.cons_append, hnumber, Option.map_some]
  | .negative h =>
    rw [List.cons_append, readValue?_number (.inr rfl), readNumber?,
      readNatural?_of_isNumeral h hrest, Option.map_some, Option.map_some]
  | .noItems hw =>
    rw [List.cons_append, List.append_assoc, List.singleton_append, readValue?, skip_append hw,
      skip_cons (by decide)]
    rfl
  | .items (t := t) h =>
    have hlength : t.length < rounds := Nat.lt_of_succ_le (by simpa using hrounds)
    rw [List.cons_append, List.append_assoc, List.singleton_append, readValue?_list (h.head _),
      readItems?_of_spells h _ _ hlength, Option.map_some]
  | .noMembers hw =>
    rw [List.cons_append, List.append_assoc, List.singleton_append, readValue?, skip_append hw,
      skip_cons (by decide)]
    rfl
  | .members (t := t) h =>
    have hlength : t.length < rounds := Nat.lt_of_succ_le (by simpa using hrounds)
    rw [List.cons_append, List.append_assoc, List.singleton_append, readValue?_object (h.head _),
      readMembers?_of_spells h _ _ hlength, Option.map_some]
termination_by structural h

/-- The same for the items of a list with the closing bracket. -/
theorem readItems?_of_spells {t : List Char} {items : List Json} (h : SpellsItems t items)
    (rounds : Nat) (rest : List Char) (hrounds : t.length < rounds) :
    readItems? rounds (t ++ ']' :: rest) = some (items, rest) := by
  obtain ⟨rounds, rfl⟩ := Nat.exists_eq_add_one.mpr (Nat.zero_lt_of_lt hrounds)
  match h with
  | .last (t := t) hw h hw' =>
    simp only [List.length_append] at hrounds
    have hstops := stops_blank_append hw' (stops_cons (c := ']') rfl rest)
    rw [List.append_assoc, List.append_assoc, readItems?, skip_append hw, skip_spells h,
      readValue?_of_spells h _ _ (by omega) hstops]
    simp [skip_append hw', skip_cons (c := ']') rfl]
  | @SpellsItems.more w t w' more item items hw h hw' hrest =>
    simp only [List.length_append, List.length_cons] at hrounds
    have hstops := stops_blank_append hw' (stops_cons (c := ',') rfl (more ++ ']' :: rest))
    rw [List.append_assoc, List.append_assoc, List.append_assoc, List.cons_append, readItems?,
      skip_append hw, skip_spells h, readValue?_of_spells h _ _ (by omega) hstops]
    simp [skip_append hw', skip_cons (c := ',') rfl,
      readItems?_of_spells hrest rounds rest (by omega)]
termination_by structural h

/-- The same for the members of an object with the closing brace. -/
theorem readMembers?_of_spells {t : List Char} {members : List (String × Json)}
    (h : SpellsMembers t members) (rounds : Nat) (rest : List Char) (hrounds : t.length < rounds) :
    readMembers? rounds (t ++ '\x7d' :: rest) = some (members, rest) := by
  obtain ⟨rounds, rfl⟩ := Nat.exists_eq_add_one.mpr (Nat.zero_lt_of_lt hrounds)
  match h with
  | .last (t := t) hw hk hw₁ hw₂ h hw' =>
    simp only [List.length_append, List.length_cons] at hrounds
    have hstops := stops_blank_append hw' (stops_cons (c := '\x7d') rfl rest)
    simp only [List.append_assoc, List.cons_append, readMembers?, skip_append hw,
      skip_cons (c := '"') rfl, readText?_of_content hk, Option.bind_eq_bind, Option.bind_some,
      skip_append hw₁, skip_cons (c := ':') rfl, skip_append hw₂, skip_spells h,
      readValue?_of_spells h rounds _ (by omega) hstops, skip_append hw',
      skip_cons (c := '\x7d') rfl]
    rfl
  | @SpellsMembers.more w k w₁ w₂ t w' more key value members hw hk hw₁ hw₂ h hw' hrest =>
    simp only [List.length_append, List.length_cons] at hrounds
    have hstops := stops_blank_append hw' (stops_cons (c := ',') rfl (more ++ '\x7d' :: rest))
    simp only [List.append_assoc, List.cons_append, readMembers?, skip_append hw,
      skip_cons (c := '"') rfl, readText?_of_content hk, Option.bind_eq_bind, Option.bind_some,
      skip_append hw₁, skip_cons (c := ':') rfl, skip_append hw₂, skip_spells h,
      readValue?_of_spells h rounds _ (by omega) hstops, skip_append hw',
      skip_cons (c := ',') rfl,
      readMembers?_of_spells hrest rounds rest (by omega)]
    rfl
termination_by structural h

end

/-- **The reader finds the value that a text denotes.** -/
theorem read?_eq_some_of_denotes {t : List Char} {j : Json} (h : Denotes t j) :
    read? t = some j := by
  obtain ⟨w, t, w', hw, h, hw', rfl⟩ := h
  have hstops : Stops w' := by
    rw [← List.append_nil w']
    exact stops_blank_append hw' nofun
  have hend : skip w' = [] := by
    have h := skip_append hw' []
    rwa [List.append_nil] at h
  rw [read?, skip_append hw, skip_spells h, readValue?_of_spells h _ _ ?_ hstops]
  · simp [hend]
  · simp only [List.length_append]
    omega

/-- No text denotes two values. -/
theorem Denotes.unique {t : List Char} {j j' : Json} (h : Denotes t j) (h' : Denotes t j') :
    j = j' :=
  Option.some.inj ((read?_eq_some_of_denotes h).symm.trans (read?_eq_some_of_denotes h'))

end Relocation.Json
