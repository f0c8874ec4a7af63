/-!
# Log records

A `Record` is one line of the log, with the part of the program that wrote it (`Channel`) and how
much it matters (`Level`). A log has a `Threshold`, and only records that are heavy enough pass it.
-/

namespace Relocation

/-- How much a log record matters. -/
inductive Level where
  | debug
  | info
  | warning
  | error
  | critical
  deriving DecidableEq, Repr

namespace Level

/-- The place of a level in the order of weight. -/
def rank : Level → Nat
  | debug => 10
  | info => 20
  | warning => 30
  | error => 40
  | critical => 50

/-- The name of a level. -/
def label : Level → String
  | debug => "DEBUG"
  | info => "INFO"
  | warning => "WARNING"
  | error => "ERROR"
  | critical => "CRITICAL"

/-- All levels, from the lightest on. -/
def all : List Level :=
  [debug, info, warning, error, critical]

/-- The level of a given name. -/
def ofLabel? (s : String) : Option Level :=
  all.find? fun level => level.label == s

end Level

/-- The part of the program that writes a record. -/
inductive Channel where
  /-- finding declarations in a text -/
  | extraction
  /-- comparing the texts of a refactor -/
  | comparison
  /-- finding and reading input files -/
  | input
  /-- one whole verification -/
  | verification
  /-- writing reports -/
  | report
  /-- the command line -/
  | command
  deriving DecidableEq, Repr

/-- One line of the log. -/
structure Record where
  level : Level
  channel : Channel
  message : String
  deriving DecidableEq, Repr

/-- How heavy the records of a log have to be. It need not be the weight of a level. -/
structure Threshold where
  rank : Int
  deriving DecidableEq, Repr

namespace Threshold

instance : Coe Level Threshold where
  coe level := ⟨level.rank⟩

/-- The threshold that all records pass. -/
def debug : Threshold := Level.debug

/-- The threshold of a log that nothing was set for. -/
def info : Threshold := Level.info

/-- The name of a threshold: that of its level, if there is one of its weight. -/
def label (t : Threshold) : String :=
  match Level.all.find? fun level => (level.rank : Int) == t.rank with
  | some level => level.label
  | none => if t.rank = 0 then "NOTSET" else s!"Level {t.rank}"

end Threshold

/-- Whether a record is heavy enough for a threshold. -/
def Record.passes (threshold : Threshold) (r : Record) : Bool :=
  threshold.rank ≤ r.level.rank

end Relocation
