import Iq.Domain.Text
import Iq.Library.Words

/-!
# Lines and words

The functions of `str` by which the program takes texts apart: lines, words, and a text before or
after a pattern.
-/

namespace Iq

open Library

/-- A line without the carriage return before its line feed. -/
def stripCarriageReturn (line : List Char) : List Char :=
  if line.getLast? = some '\r' then line.dropLast else line

/-- The lines among the pieces between line feeds; no line feed ends the last piece. -/
def terminatedLines : List (List Char) → List (List Char)
  | [] => []
  | [last] => if last.isEmpty then [] else [last]
  | line :: rest => stripCarriageReturn line :: terminatedLines rest

/-- `str::lines`. -/
def linesOf (report : String) : List (List Char) := terminatedLines (report.toList.splitOn '\n')

/-- `str::split_whitespace`. -/
def wordsOf (text : String) : List String :=
  (wordsBy isWhiteSpace text.toList).map .ofList

/-- `str::strip_prefix`. -/
def stripPrefix (pattern text : List Char) : Option (List Char) :=
  if pattern.isPrefixOf text then some (text.drop pattern.length) else none

/-- `str::strip_suffix`. -/
def stripSuffix (pattern text : List Char) : Option (List Char) :=
  if pattern.isSuffixOf text then some (text.take (text.length - pattern.length)) else none

/-- A letter, a digit or a hyphen, as the text of a `Uuid` has them. -/
def isIdCharacter (character : Char) : Bool := character.isAlphanum || character == '-'

end Iq
