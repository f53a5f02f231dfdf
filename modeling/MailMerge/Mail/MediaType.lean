/-!
The media type of an image, told from its first bytes.
-/

namespace MailMerge.MediaType

/-- The media type of bytes of an unknown kind. -/
def octetStream : String := "application/octet-stream"

/-- The bytes of a text of ASCII characters. -/
def ascii (s : String) : List UInt8 := s.toList.map fun c => UInt8.ofNat c.toNat

/-- Whether `lead` stands in front of some bytes. -/
def startsWith : (lead bytes : List UInt8) → Bool
  | [], _ => true
  | _ :: _, [] => false
  | a :: as, b :: bs => a == b && startsWith as bs

/-- Whether `piece` stands somewhere in some bytes. -/
def contains (piece : List UInt8) : List UInt8 → Bool
  | [] => piece.isEmpty
  | b :: bs => startsWith piece (b :: bs) || contains piece bs

/-- Drops the white space in front of a text in UTF-8. White space is encoded in one byte, in two
bytes after C2, or in three bytes after E1, E2 or E3. -/
def dropBlanks : List UInt8 → List UInt8
  | 0xC2 :: b :: rest => if b = 0x85 ∨ b = 0xA0 then dropBlanks rest else 0xC2 :: b :: rest
  | 0xE1 :: 0x9A :: 0x80 :: rest => dropBlanks rest
  | 0xE2 :: 0x80 :: b :: rest =>
    if (0x80 ≤ b ∧ b ≤ 0x8A) ∨ b = 0xA8 ∨ b = 0xA9 ∨ b = 0xAF then dropBlanks rest
    else 0xE2 :: 0x80 :: b :: rest
  | 0xE2 :: 0x81 :: 0x9F :: rest => dropBlanks rest
  | 0xE3 :: 0x80 :: 0x80 :: rest => dropBlanks rest
  | b :: rest => if (9 ≤ b ∧ b ≤ 13) ∨ b = 0x20 then dropBlanks rest else b :: rest
  | [] => []

/-- Whether the first 256 bytes look like a vector drawing: it starts with its root element, or is
an XML document in which that element starts. -/
def looksLikeSvg (bytes : List UInt8) : Bool :=
  let text := dropBlanks (bytes.take 256)
  startsWith (ascii "<svg") text ||
    (startsWith (ascii "<?xml") text && contains (ascii "<svg") text)

/-- The media type of an image. -/
def detect (bytes : List UInt8) : String :=
  if startsWith [0xFF, 0xD8, 0xFF] bytes then "image/jpeg"
  else if startsWith [0x89, 0x50, 0x4E, 0x47, 0x0D, 0x0A, 0x1A, 0x0A] bytes then "image/png"
  else if startsWith (ascii "GIF8") bytes then "image/gif"
  else if startsWith (ascii "RIFF") bytes && startsWith (ascii "WEBP") (bytes.drop 8) then
    "image/webp"
  else if startsWith (ascii "BM") bytes then "image/bmp"
  else if looksLikeSvg bytes then "image/svg+xml"
  else octetStream

end MailMerge.MediaType
