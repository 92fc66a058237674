import SampleTypes.Text.Basic

/-!
Pages as trees of elements. Texts and attribute values are escaped where the tree is written, so that
no text can end an element or an attribute.
-/

namespace SampleTypes

inductive Html where
  | text (s : String)
  | entity (name : String)
  | void (tag : String) (attributes : List (String × String))
  | element (tag : String) (attributes : List (String × String)) (content : List Html)
  deriving Inhabited

namespace Html

def escapeChar (c : Char) : List Char :=
  if c = '&' then "&amp;".toList
  else if c = '<' then "&lt;".toList
  else if c = '>' then "&gt;".toList
  else if c = '"' then "&quot;".toList
  else if c = '\'' then "&#x27;".toList
  else [c]

def escape (cs : List Char) : List Char :=
  cs.flatMap escapeChar

def writeAttributes : List (String × String) → List Char
  | [] => []
  | (name, value) :: rest =>
    ' ' :: (name.toList ++ '=' :: '"' :: (escape value.toList ++ '"' :: writeAttributes rest))

def startTag (tag : String) (attributes : List (String × String)) : List Char :=
  '<' :: (tag.toList ++ writeAttributes attributes ++ ['>'])

def endTag (tag : String) : List Char :=
  '<' :: '/' :: (tag.toList ++ ['>'])

mutual

def write : Html → List Char
  | .text s => escape s.toList
  | .entity name => '&' :: (name.toList ++ [';'])
  | .void tag attributes => startTag tag attributes
  | .element tag attributes content => startTag tag attributes ++ writeAll content ++ endTag tag

def writeAll : List Html → List Char
  | [] => []
  | h :: hs => write h ++ writeAll hs

end

def toText (h : Html) : String := String.ofList (write h)

def allText (hs : List Html) : String := String.ofList (writeAll hs)

def plain (tag : String) (content : List Html) : Html := .element tag [] content

def classed (tag cls : String) (content : List Html) : Html := .element tag [("class", cls)] content

def newline : Html := .text "\n"

def onLines (lines : List (List Html)) : List Html :=
  lines.flatMap (fun line => newline :: line) ++ [newline]

def separated (sep : String) : List Html → List Html
  | [] => []
  | [h] => [h]
  | h :: hs => h :: .text sep :: separated sep hs

end Html

end SampleTypes
