/-!
Texts as lists of characters: trimming blanks, replacing every occurrence of a pattern from left to right
and without overlaps, and how alike two texts are. Of two texts the longest common block is matched
first, the earliest one of several, and then what stands on either side.
-/

namespace SampleTypes.Text

/-- White space of any script, line and paragraph separators, and the information separators. -/
def isBlank (c : Char) : Bool :=
  let n := c.toNat
  (0x09 ≤ n && n ≤ 0x0D) || (0x1C ≤ n && n ≤ 0x20) || n = 0x85 || n = 0xA0 || n = 0x1680 ||
    (0x2000 ≤ n && n ≤ 0x200A) || n = 0x2028 || n = 0x2029 || n = 0x202F || n = 0x205F || n = 0x3000

def trimStart (cs : List Char) : List Char :=
  cs.dropWhile isBlank

def trimEnd (cs : List Char) : List Char :=
  (cs.reverse.dropWhile isBlank).reverse

def trim (cs : List Char) : List Char :=
  trimEnd (trimStart cs)

/-- The text with `skip` characters left out first; an occurrence found at the front is written
as `new`, and the rest of its characters are then left out. -/
def replaceFrom (old new : List Char) : Nat → List Char → List Char
  | _, [] => []
  | skip + 1, _ :: cs => replaceFrom old new skip cs
  | 0, c :: cs =>
    if old.isPrefixOf (c :: cs) then new ++ replaceFrom old new (old.length - 1) cs
    else c :: replaceFrom old new 0 cs

def replaceAll (old new cs : List Char) : List Char :=
  replaceFrom old new 0 cs

def endsWith (tail cs : List Char) : Bool :=
  tail.isSuffixOf cs

def commonFront : List Char → List Char → Nat
  | a :: as, b :: bs => if a = b then commonFront as bs + 1 else 0
  | _, _ => 0

structure Block where
  first : Nat
  second : Nat
  length : Nat

/-- The longest common block, the earliest in the first text and then in the second. -/
def longestBlock (as bs : List Char) : Block :=
  let places := (List.range as.length).flatMap fun i => (List.range bs.length).map fun j => (i, j)
  places.foldl (fun best (i, j) =>
    let n := commonFront (as.drop i) (bs.drop j)
    if best.length < n then ⟨i, j, n⟩ else best) ⟨0, 0, 0⟩

/-- The number of matched characters. The first argument bounds the depth. -/
def matchedWithin : Nat → List Char → List Char → Nat
  | 0, _, _ => 0
  | fuel + 1, as, bs =>
    let b := longestBlock as bs
    if b.length = 0 then 0
    else
      matchedWithin fuel (as.take b.first) (bs.take b.second) + b.length +
        matchedWithin fuel (as.drop (b.first + b.length)) (bs.drop (b.second + b.length))

def matched (as bs : List Char) : Nat := matchedWithin (as.length + 1) as bs

def isSimilar (a b : String) : Bool :=
  6 * (a.length + b.length) ≤ 20 * matched a.toList b.toList

/-- Whether the first text is more like the last one than the second is; of two that are equally like
it the greater one is. -/
def isCloser (word a b : String) : Bool :=
  let x := matched a.toList word.toList * (b.length + word.length)
  let y := matched b.toList word.toList * (a.length + word.length)
  y < x || (x = y && b ≤ a)

def closeMatches (word : String) (texts : List String) : List String :=
  ((texts.filter fun t => isSimilar t word).mergeSort (isCloser word)).take 3

end SampleTypes.Text

namespace SampleTypes

def joinTexts (sep : String) : List String → String
  | [] => ""
  | [a] => a
  | a :: rest => a ++ sep ++ joinTexts sep rest

end SampleTypes
