import CommandBridge.Domain.Composition
import CommandBridge.Domain.Direction
import CommandBridge.Domain.Joining
import CommandBridge.Domain.Mapping
import CommandBridge.Domain.Punycode

/-! Domain names in any script. A name consists of labels between dots. Its ASCII form spells each
label that goes beyond ASCII in letters, digits and hyphens, behind a marker. -/
namespace CommandBridge.Domain

def marker : List Char := "xn--".toList

def greatestLabel : Nat := 1000

def greatestSpelling : Nat := 2000

def isAscii (cs : List Char) : Bool := cs.all (·.toNat < 0x80)

/-- A label in its ASCII form, with the characters that it stands for. -/
structure Label where
  spelling : List Char
  meaning : List Char

namespace Label

/-- The label that begins with the marker. It must spell a text that goes beyond ASCII and stands
for itself. -/
def ofSpelling? (cs : List Char) : Option Label := do
  let spelling := cs.drop marker.length
  if isAscii cs && spelling.length ≤ greatestSpelling then
    let meaning ← Punycode.decode? spelling
    if !isAscii meaning && meaning.length ≤ greatestLabel && isPlain meaning &&
      composed meaning == meaning then
      some ⟨cs, meaning⟩
    else none
  else none

def of? (cs : List Char) : Option Label :=
  if marker.isPrefixOf cs then ofSpelling? cs
  else if isAscii cs then some ⟨cs, cs⟩
  else if cs.length ≤ greatestLabel then some ⟨marker ++ Punycode.encode cs, cs⟩
  else none

def isSound (l : Label) : Bool := !l.meaning.head?.any Text.isMark && joinsSoundly [] l.meaning

end Label

/-- Do labels show the same order of characters in either direction? It matters only where a part of
one is written from right to left. -/
def keepOrder (labels : List Label) : Bool :=
  labels.all (fun l => isAscii l.meaning || !Direction.isMixed l.meaning) ||
    labels.all fun l => Direction.isSound l.meaning

def toAscii? (cs : List Char) : Option (List Char) := do
  let mapped ← mapped? cs
  let name := if isAscii mapped then mapped else composed mapped
  let labels ← (Text.cutAt (· == '.') name).mapM Label.of?
  if labels.all Label.isSound && keepOrder labels then
    some (List.intercalate ['.'] (labels.map (·.spelling)))
  else none

end CommandBridge.Domain
