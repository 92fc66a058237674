import SampleTypes.Console.Emoji.Table
import SampleTypes.Text.Basic
import SampleTypes.Text.Lowercase

/-!
Pictures in a text. A name between colons stands for a picture; after a hyphen it may ask for the
picture in color or as text.
-/

namespace SampleTypes.Console

structure Picture where
  chars : List Char
  names : List (List Char)

def Picture.ofText? (text : List Char) : Option Picture :=
  match (text.splitOn ' ').filter (!·.isEmpty) with
  | chars :: names => some ⟨chars, names⟩
  | [] => none

def pictures : List Picture :=
  pictureTexts.flatMap fun text =>
    (text.toList.splitOnP fun c => c = '\n' || c = ';').filterMap Picture.ofText?

def picture? (name : List Char) : Option (List Char) :=
  (pictures.find? fun p => p.names.contains name).map Picture.chars

def variants : List (List Char × Char) :=
  [("-emoji:".toList, '\ufe0f'), ("-text:".toList, '\ufe0e')]

/-- The name at the start of a text, the character that its ending asks for, and how long it is with its
colon. A blank ends a name without a colon. -/
def pictureName? : List Char → Option (List Char × List Char × Nat)
  | [] => none
  | c :: cs =>
    match variants.find? fun v => v.1.isPrefixOf (c :: cs) with
    | some (ending, selector) => some ([], [selector], ending.length)
    | none =>
      if c = ':' then some ([], [], 1)
      else if Text.isBlank c then none
      else (pictureName? cs).map fun (name, selector, n) => (c :: name, selector, n + 1)

/-- The text with pictures for names, given the picture of each name, after leaving out `skip`
characters. A name that is unknown stays with its colons. -/
def withPicturesFrom (picture : List Char → Option (List Char)) : Nat → List Char → List Char
  | _, [] => []
  | skip + 1, _ :: cs => withPicturesFrom picture skip cs
  | 0, c :: cs =>
    if c = ':' then
      match pictureName? cs with
      | some (name, selector, n) =>
        match picture (Text.lower name) with
        | some chars => chars ++ selector ++ withPicturesFrom picture n cs
        | none => c :: (cs.take n ++ withPicturesFrom picture n cs)
      | none => c :: withPicturesFrom picture 0 cs
    else c :: withPicturesFrom picture 0 cs

def withPictures (cs : List Char) : List Char := withPicturesFrom picture? 0 cs

end SampleTypes.Console
