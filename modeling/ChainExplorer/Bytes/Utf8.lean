/-!
# Texts as bytes

What goes over a wire is bytes, and a text goes as its UTF-8 form. Bytes that are no such form are
no text; nothing is ever put in for a broken character.
-/

namespace ChainExplorer.Utf8

/-- The bytes of a text. -/
def encode (cs : List Char) : List UInt8 := (String.ofList cs).toUTF8.data.toList

/-- The text that bytes are the form of. -/
def decode? (bytes : List UInt8) : Option (List Char) :=
  (String.fromUTF8? (ByteArray.mk bytes.toArray)).map String.toList

end ChainExplorer.Utf8
