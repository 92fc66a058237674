import SampleTypes.Decimal.Reading
import SampleTypes.Text.Basic
import SampleTypes.Text.Lowercase

/-!
The names of styles. A style is given by words in any order: attributes, some with short names, a color, a
color of the background and an address. A color is one of those with a name, a number, or given by the
parts of red, green and blue. Two names of one style have one normal form.
-/

namespace SampleTypes.Console

def basicColors : List String :=
  ["black", "red", "green", "yellow", "blue", "magenta", "cyan", "white"]

def hues : List (String × List String) := [
  ("aquamarine", ["1", "3"]), ("blue", ["1", "3"]), ("blue_violet", [""]), ("cadet_blue", [""]),
  ("chartreuse", ["1", "2", "3", "4"]), ("cornflower_blue", [""]), ("cornsilk", ["1"]),
  ("cyan", ["1", "2", "3"]), ("dark_blue", [""]), ("dark_cyan", [""]), ("dark_goldenrod", [""]),
  ("dark_green", [""]), ("dark_khaki", [""]), ("dark_magenta", [""]),
  ("dark_olive_green", ["1", "2", "3"]), ("dark_orange", ["", "3"]), ("dark_red", [""]),
  ("dark_sea_green", ["", "1", "2", "3", "4"]), ("dark_slate_gray", ["1", "2", "3"]),
  ("dark_turquoise", [""]), ("dark_violet", [""]), ("deep_pink", ["1", "2", "3", "4"]),
  ("deep_sky_blue", ["1", "2", "3", "4"]), ("dodger_blue", ["1", "2", "3"]), ("gold", ["1", "3"]),
  ("green", ["1", "3", "4"]), ("green_yellow", [""]), ("honeydew", ["2"]),
  ("hot_pink", ["", "2", "3"]), ("indian_red", ["", "1"]), ("khaki", ["1", "3"]),
  ("light_coral", [""]), ("light_cyan", ["1", "3"]), ("light_goldenrod", ["1", "2", "3"]),
  ("light_green", [""]), ("light_pink", ["1", "3", "4"]), ("light_salmon", ["1", "3"]),
  ("light_sea_green", [""]), ("light_sky_blue", ["1", "3"]), ("light_slate_blue", [""]),
  ("light_slate_gray", [""]), ("light_slate_grey", [""]), ("light_steel_blue", ["", "1", "3"]),
  ("light_yellow", ["3"]), ("magenta", ["1", "2", "3"]), ("medium_orchid", ["", "1", "3"]),
  ("medium_purple", ["", "1", "2", "3", "4"]), ("medium_spring_green", [""]),
  ("medium_turquoise", [""]), ("medium_violet_red", [""]), ("misty_rose", ["1", "3"]),
  ("navajo_white", ["1", "3"]), ("navy_blue", [""]), ("orange", ["1", "3", "4"]),
  ("orange_red", ["1"]), ("orchid", ["", "1", "2"]), ("pale_green", ["1", "3"]),
  ("pale_turquoise", ["1", "4"]), ("pale_violet_red", ["1"]), ("pink", ["1", "3"]),
  ("plum", ["1", "2", "3", "4"]), ("purple", ["", "3", "4"]), ("red", ["1", "3"]),
  ("rosy_brown", [""]), ("royal_blue", ["1"]), ("salmon", ["1"]), ("sandy_brown", [""]),
  ("sea_green", ["1", "2", "3"]), ("sky_blue", ["1", "2", "3"]), ("slate_blue", ["1", "3"]),
  ("spring_green", ["1", "2", "3", "4"]), ("steel_blue", ["", "1", "3"]), ("tan", [""]),
  ("thistle", ["1", "3"]), ("turquoise", ["2", "4"]), ("violet", [""]), ("wheat", ["1", "4"]),
  ("yellow", ["1", "2", "3", "4"])]

def grayShades : List String :=
  ["0", "3", "7", "11", "15", "19", "23", "27", "30", "35", "37", "39", "42", "46", "50", "53",
   "54", "58", "62", "63", "66", "69", "70", "74", "78", "82", "84", "85", "89", "93", "100"]

def colorNames : List String :=
  "default" :: basicColors ++ basicColors.map ("bright_" ++ ·) ++
    grayShades.flatMap (fun n => ["grey" ++ n, "gray" ++ n]) ++
    hues.flatMap fun h => h.2.map (h.1 ++ ·)

inductive ColorFault where
  | notColor
  | badPart (text : String) (fault : Decimal.WholeFault)
  deriving DecidableEq, Repr

def isHexDigit (c : Char) : Bool :=
  c.isDigit || ('a' ≤ c && c ≤ 'f')

def between? (opening closing : List Char) (cs : List Char) : Option (List Char) :=
  if opening.isPrefixOf cs && closing.isSuffixOf cs && opening.length + closing.length < cs.length then
    some ((cs.drop opening.length).take (cs.length - opening.length - closing.length))
  else none

def largestPart : Int := 255

def colorPart (cs : List Char) : Except ColorFault Int :=
  (Decimal.readWhole 10 cs).mapError (ColorFault.badPart (String.ofList cs))

def checkParts (inside : List Char) : Except ColorFault Unit :=
  match inside.splitOn ',' with
  | [red, green, blue] => do
    let parts ← [red, green, blue].mapM colorPart
    if parts.any (largestPart < ·) then .error .notColor else .ok ()
  | _ => .error .notColor

def checkNumber (digits : List Char) : Except ColorFault Unit :=
  if digits.length ≤ 3 && digits.all Char.isDigit then do
    if largestPart < (← colorPart digits) then .error .notColor else .ok ()
  else .error .notColor

def checkColor (cs : List Char) : Except ColorFault Unit :=
  if colorNames.contains (String.ofList cs) then .ok ()
  else
    match cs with
    | '#' :: digits => if digits.length = 6 && digits.all isHexDigit then .ok () else .error .notColor
    | _ =>
      match between? "color(".toList [')'] cs, between? "rgb(".toList [')'] cs with
      | some digits, _ => checkNumber digits
      | none, some inside =>
        if inside.all fun c => c = ',' || Text.isDigit c then checkParts inside else .error .notColor
      | none, none => .error .notColor

def readColor (word : List Char) : Except ColorFault String :=
  (checkColor (Text.lower word)).map fun _ => String.ofList (Text.lower word)

def attributeNames : List (String × List String) :=
  [("bold", ["b"]), ("dim", ["d"]), ("italic", ["i"]), ("underline", ["u"]), ("blink", []),
    ("blink2", []), ("reverse", ["r"]), ("conceal", ["c"]), ("strike", ["s"]), ("underline2", ["uu"]),
    ("frame", []), ("encircle", []), ("overline", ["o"])]

def attribute? (word : String) : Option String :=
  (attributeNames.find? fun a => a.1 = word || a.2.contains word).map Prod.fst

def lowerText (word : String) : String := String.ofList (Text.lower word.toList)

structure Style where
  attributes : List (String × Bool) := []
  color : Option String := none
  background : Option String := none
  address : Option String := none
  deriving DecidableEq, Repr

def Style.put (name : String) (set : Bool) (style : Style) : Style :=
  { style with attributes := style.attributes.filter (·.1 != name) ++ [(name, set)] }

def Style.addWord (style : Style) (word : String) : Except ColorFault Style :=
  match attribute? word with
  | some a => .ok (style.put a true)
  | none => (readColor word.toList).map fun c => { style with color := some c }

def Style.unset (style : Style) (word : String) : Except ColorFault Style :=
  match attribute? word with
  | some a => .ok (style.put a false)
  | none => .error .notColor

/-- The style with what words say about it. The word after some others is not looked at by itself. -/
def Style.ofWords (style : Style) : List String → Except ColorFault Style
  | [] => .ok style
  | [word] =>
    let word := lowerText word
    if word = "on" || word = "not" || word = "link" then .error .notColor else style.addWord word
  | word :: next :: rest =>
    let word := lowerText word
    if word = "on" then
      match readColor next.toList with
      | .ok c => Style.ofWords { style with background := some c } rest
      | .error e => .error e
    else if word = "not" then
      match style.unset next with
      | .ok style => Style.ofWords style rest
      | .error e => .error e
    else if word = "link" then Style.ofWords { style with address := some next } rest
    else
      match style.addWord word with
      | .ok style => Style.ofWords style (next :: rest)
      | .error e => .error e

def Style.words (style : Style) : List String :=
  (attributeNames.filterMap fun a =>
    (style.attributes.find? (·.1 = a.1)).map fun s => if s.2 then a.1 else "not " ++ a.1) ++
    style.color.toList ++ (style.background.toList.map ("on " ++ ·)) ++
    (style.address.toList.map ("link " ++ ·))

def nullStyle : String := "none"

def wordsOf (cs : List Char) : List String :=
  ((cs.splitBy fun a b => Text.isBlank a == Text.isBlank b).filter fun run =>
    !run.any Text.isBlank).map String.ofList

def readStyle (name : List Char) : Except ColorFault Style :=
  if Text.trim name = nullStyle.toList then .ok {} else Style.ofWords {} (wordsOf name)

/-- The normal form of a name. A name that is no style keeps its text, in lower case. -/
def normalStyle (name : List Char) : Except ColorFault String :=
  match readStyle name with
  | .ok style => .ok (if style.words.isEmpty then nullStyle else joinTexts " " style.words)
  | .error .notColor => .ok (String.ofList (Text.lower (Text.trim name)))
  | .error e => .error e

end SampleTypes.Console
