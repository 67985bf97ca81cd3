import ChainExplorer.Idna.Bidi
import ChainExplorer.Idna.Label

/-!
# Domain names in ASCII

A domain name may be written in any script and is looked up in ASCII. `toAscii?` maps it, reads its
labels, holds them against the rules, and writes those outside ASCII as Punycode. A name in ASCII
without Punycode only goes into lower case. What a name may hold besides is for the caller to say,
and is asked of the mapped characters, since mapping can bring them about.
-/

namespace ChainExplorer.Idna

open ChainExplorer.Text ChainExplorer.Unicode

/-- Whether a domain name is in ASCII and none of its labels in Punycode. -/
def isPlain (name : List Char) : Bool :=
  name.all isAscii && (pieces '.' (name.map Char.toLower)).all (!isAce ·)

/-- The labels of a mapped domain name, if they keep the rules. -/
def labels? (mapped : List Char) : Option (List (List Char)) :=
  ((pieces '.' mapped).mapM ofText?).filter fun labels =>
    labels.all isLabel && keepDirection labels

/-- The domain name in ASCII, if it is one and holds nothing that is forbidden. -/
def toAscii? (forbidden : Char → Bool) (name : List Char) : Option (List Char) :=
  let free (cs : List Char) : Bool := !cs.any forbidden
  if isPlain name then some (name.map Char.toLower) |>.filter free
  else do
    let mapped ← (mapped? name).filter free
    let labels ← (labels? mapped).filter (·.all free)
    return join '.' (labels.map asciiLabel)

end ChainExplorer.Idna
