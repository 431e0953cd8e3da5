import Layering.Text.Scan

/-!
# Statements

A statement is a keyword, blanks, and the text up to the next semicolon. The text is never
empty: when the blanks run up to the semicolon, the last one of them counts as the text, so a
single blank makes no statement.
-/

namespace Layering.Source

open Text

/-- The text of a statement that starts here. -/
def statement? (keyword : List Char) : Recognizer (List Char) := fun s =>
  (literal? keyword s).bind fun rest =>
    let blanks := rest.takeWhile isBlank
    let body := rest.dropWhile isBlank
    if blanks.isEmpty then none
    else (after? ';' body).bind fun after =>
      let text := body.takeWhile (· != ';')
      if !text.isEmpty then some (text, after)
      else if 2 ≤ blanks.length then some (blanks.drop (blanks.length - 1), after)
      else none

end Layering.Source
