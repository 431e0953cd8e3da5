import Layering.Text.Blank

/-!
# Severity

Five grades of severity. Any integer is a level: what lies outside 1 to 5 counts as the nearest
grade.
-/

namespace Layering

open Text

/-- How serious a violation is. -/
inductive Severity where
  | notice
  | info
  | warning
  | error
  | critical
deriving DecidableEq, Repr, Inhabited

namespace Severity

/-- All grades, lowest first. -/
def all : List Severity := [.notice, .info, .warning, .error, .critical]

/-- The number of a grade, from 1 to 5. -/
def level : Severity → Nat
  | .notice => 1
  | .info => 2
  | .warning => 3
  | .error => 4
  | .critical => 5

/-- The grade of a level. -/
def ofLevel (n : Int) : Severity :=
  if n ≤ 1 then .notice
  else if n = 2 then .info
  else if n = 3 then .warning
  else if n = 4 then .error
  else .critical

def label : Severity → String
  | .notice => "NOTICE"
  | .info => "INFO"
  | .warning => "WARNING"
  | .error => "ERROR"
  | .critical => "CRITICAL"

instance : LE Severity := ⟨fun a b => a.level ≤ b.level⟩

instance (a b : Severity) : Decidable (a ≤ b) := inferInstanceAs (Decidable (a.level ≤ b.level))

/-- Digits as a number; nothing for other characters or no digits at all. -/
def digits? (s : List Char) : Option Nat :=
  if s.isEmpty || !s.all Char.isDigit then none
  else some (s.foldl (fun n c => n * 10 + (c.toNat - 48)) 0)

/-- An integer of 64 bits with an optional sign. -/
def integer? (s : List Char) : Option Int :=
  match s with
  | '-' :: rest => (digits? rest).bind fun n => if n ≤ Nat.pow 2 63 then some (-(n : Int)) else none
  | '+' :: rest => (digits? rest).bind fun n => if n < Nat.pow 2 63 then some n else none
  | s => (digits? s).bind fun n => if n < Nat.pow 2 63 then some n else none

/-- A grade by its level or its label in any case, with blanks around it. -/
def parse? (text : String) : Option Severity :=
  let text := trim text.toList
  match integer? text with
  | some n => some (ofLevel n)
  | none => all.find? fun s => s.label.toList == text.map Char.toUpper

end Severity

end Layering
