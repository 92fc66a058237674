import SampleTypes.Text.Basic
import SampleTypes.Text.Width

/-!
Lines of a console: tabs are filled up with blanks to the next multiple of eight cells, and lines that
are too long are broken before words, or inside a word that is too long for any line.
-/

namespace SampleTypes.Console

def tabWidth : Nat := 8

def nextStop (column : Nat) : Nat := (column + tabWidth - 1) / tabWidth * tabWidth

/-- Parts of a text that had tabs between them, given the cell where they begin: a blank stands for
each tab, and more of them up to the next stop. -/
def fillTabs (column : Nat) : List (List Char) → List Char
  | [] => []
  | [part] => part
  | part :: rest =>
    let part := part ++ [' ']
    let stop := nextStop (column + Text.width part)
    part ++ List.replicate (stop - (column + Text.width part)) ' ' ++ fillTabs stop rest

def expandTabs (line : List Char) : List Char := fillTabs 0 (line.splitOn '\t')

/-- A word with the blanks after it; the first word also has those before it. -/
def wordsFrom (text : List Char) : List (List Char) :=
  let runs := text.splitBy fun a b => !Text.isBlank a || Text.isBlank b
  match runs with
  | blanks :: word :: rest =>
    if blanks.all Text.isBlank then (blanks ++ word) :: rest else runs
  | [blanks] => if blanks.all Text.isBlank then [] else runs
  | [] => []

def chopFrom (width : Nat) : List Char → Nat → List Text.Grapheme → List (List Char)
  | part, _, [] => [part]
  | part, used, g :: gs =>
    if width < used + g.width then part :: chopFrom width g.chars g.width gs
    else chopFrom width (part ++ g.chars) (used + g.width) gs

def chop (width : Nat) (word : List Char) : List (List Char) :=
  chopFrom width [] 0 (Text.graphemes word)

/-- The places where parts begin that follow each other from `start` on, but for the very first place
of the text. -/
def partStarts (start : Nat) : List (List Char) → List Nat
  | [] => []
  | part :: rest => (if start = 0 then [] else [start]) ++ partStarts (start + part.length) rest

/-- The places where lines begin, given where the next word starts and how many cells of its line are
used. A word that is too long for any line is folded, or else has a line of its own. -/
def breakPlaces (folded : Bool) (width : Nat) : Nat → Nat → List (List Char) → List Nat
  | _, _, [] => []
  | start, used, word :: rest =>
    let needed := Text.width (Text.trimEnd word)
    let next := start + word.length
    if used + needed ≤ width then breakPlaces folded width next (used + Text.width word) rest
    else if width < needed then
      let parts := if folded then chop width word else [word]
      partStarts start parts ++
        breakPlaces folded width next (Text.width (parts.getLast?.getD [])) rest
    else if used != 0 && start != 0 then start :: breakPlaces folded width next (Text.width word) rest
    else breakPlaces folded width next used rest

def cutAt (start : Nat) : List Nat → List Char → List (List Char)
  | [], cs => [cs]
  | place :: places, cs =>
    cs.take (place - start) :: cutAt place places (cs.drop (place - start))

/-- Blanks at the end are dropped, as many as there are characters beyond the width. -/
def dropExcess (width : Nat) (cs : List Char) : List Char :=
  let blanks := cs.length - (Text.trimEnd cs).length
  cs.take (cs.length - min (cs.length - width) blanks)

def wrapLine (width : Nat) (line : List Char) : List (List Char) :=
  let line := expandTabs line
  (cutAt 0 (breakPlaces true width 0 0 (wordsFrom line)) line).map (dropExcess width)

def spaces (n : Nat) : List Char := List.replicate n ' '

def padRight (width : Nat) (cs : List Char) : List Char :=
  cs ++ spaces (width - Text.width cs)

def padLeft (width : Nat) (cs : List Char) : List Char :=
  spaces (width - Text.width cs) ++ cs

def center (width : Nat) (cs : List Char) : List Char :=
  let cs := Text.truncate width (Text.trimEnd cs)
  padRight width (spaces ((width - Text.width cs) / 2) ++ cs)

def wrap (width : Nat) (text : List Char) : List (List Char) :=
  ((text.splitOn '\n').flatMap (wrapLine width)).map (Text.truncate width)

/-- The same lines in the middle of the console; an odd blank goes to the right. -/
def wrapCentered (width : Nat) (text : List Char) : List (List Char) :=
  ((text.splitOn '\n').flatMap (wrapLine width)).map (center width)

end SampleTypes.Console
