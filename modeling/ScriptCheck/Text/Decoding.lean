/-! # Decoding of Source Files

  A source file is a sequence of bytes. Where the bytes are well-formed UTF-8
  they are read as such, byte order mark included; any other sequence is read
  as Latin-1, in which every byte is the character with its code point. So every
  file has a text.
-/

namespace ScriptCheck.Text

/-- The Latin-1 reading: one character for each byte. -/
def decodeLatin1 (bytes : ByteArray) : String :=
  String.ofList (bytes.toList.map fun b => Char.ofNat b.toNat)

def decodeSource (bytes : ByteArray) : String :=
  (String.fromUTF8? bytes).getD (decodeLatin1 bytes)

end ScriptCheck.Text
