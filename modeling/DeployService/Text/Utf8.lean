/-!
# UTF-8

Texts as sequences of bytes. `encode` is the concatenation of the encodings of the characters.
Decoding reads one byte after the other and keeps what it still owes: after the first byte of a
longer sequence, how many more bytes follow and between which bounds the next one lies. The bounds
rule out overlong forms, surrogates and numbers above `0x10FFFF`, so that exactly the encodings of
characters are read.

There are two decoders over the same steps: `decode?` refuses a byte that does not fit, and
`decodeLossy` writes the replacement character for every maximal part that is no encoding.
-/

namespace DeployService.Text.Utf8

/-- The UTF-8 bytes of a sequence of characters. -/
def encodeChars (cs : List Char) : List UInt8 := cs.flatMap String.utf8EncodeChar

/-- The UTF-8 bytes of a text. -/
def encode (s : String) : List UInt8 := encodeChars s.toList

/-- What is owed inside a sequence of several bytes. -/
structure Pending where
  /-- How many bytes still follow the next one. -/
  more : Nat
  /-- The least value that the next byte may have. -/
  low : Nat
  /-- The greatest value that the next byte may have. -/
  high : Nat
  /-- The bits read so far. -/
  bits : Nat

/-- What a byte does at the start of a character: it is a character by itself, it opens a longer
sequence, or it can stand at no start. -/
inductive Lead where
  /-- The byte encodes a character by itself. -/
  | single (c : Char)
  /-- The byte is the first one of a longer sequence. -/
  | opens (p : Pending)
  /-- The byte starts no encoding. -/
  | stray

/-- The role of a byte at the start of a character. -/
def lead (b : UInt8) : Lead :=
  let n := b.toNat
  if n < 0x80 then .single (Char.ofNat n)
  else if n < 0xC2 then .stray
  else if n < 0xE0 then .opens ⟨0, 0x80, 0xBF, n - 0xC0⟩
  else if n = 0xE0 then .opens ⟨1, 0xA0, 0xBF, 0⟩
  else if n = 0xED then .opens ⟨1, 0x80, 0x9F, 0xD⟩
  else if n < 0xF0 then .opens ⟨1, 0x80, 0xBF, n - 0xE0⟩
  else if n = 0xF0 then .opens ⟨2, 0x90, 0xBF, 0⟩
  else if n < 0xF4 then .opens ⟨2, 0x80, 0xBF, n - 0xF0⟩
  else if n = 0xF4 then .opens ⟨2, 0x80, 0x8F, 4⟩
  else .stray

/-- The byte is one that the open sequence allows next. -/
def Pending.admits (p : Pending) (b : UInt8) : Bool := p.low ≤ b.toNat && b.toNat ≤ p.high

/-- The bits of the open sequence after a further byte. -/
def Pending.push (p : Pending) (b : UInt8) : Nat := p.bits * 64 + (b.toNat - 0x80)

/-- What is owed after a further byte that is not the last one. -/
def Pending.next (p : Pending) (b : UInt8) : Pending := ⟨p.more - 1, 0x80, 0xBF, p.push b⟩

/-- The characters that the bytes encode, inside the sequence `p` if one is open; none if the bytes
are no encoding of a text. -/
def decodeFrom? : Option Pending → List UInt8 → Option (List Char)
  | none, [] => some []
  | some _, [] => none
  | none, b :: rest =>
    match lead b with
    | .single c => (decodeFrom? none rest).map (c :: ·)
    | .opens p => decodeFrom? (some p) rest
    | .stray => none
  | some p, b :: rest =>
    if p.admits b then
      if p.more = 0 then (decodeFrom? none rest).map (Char.ofNat (p.push b) :: ·)
      else decodeFrom? (some (p.next b)) rest
    else none

/-- The text that the bytes encode, if they are an encoding of one. -/
def decode? (bytes : List UInt8) : Option String := (decodeFrom? none bytes).map String.ofList

/-- The replacement character, written for bytes that encode nothing. -/
def replacement : Char := Char.ofNat 0xFFFD

/-- The characters that the bytes encode, with a replacement character for every maximal part that
begins an encoding and does not finish it, and for every byte that begins none. -/
def decodeLossyFrom : Option Pending → List UInt8 → List Char
  | none, [] => []
  | some _, [] => [replacement]
  | none, b :: rest =>
    match lead b with
    | .single c => c :: decodeLossyFrom none rest
    | .opens p => decodeLossyFrom (some p) rest
    | .stray => replacement :: decodeLossyFrom none rest
  | some p, b :: rest =>
    if p.admits b then
      if p.more = 0 then Char.ofNat (p.push b) :: decodeLossyFrom none rest
      else decodeLossyFrom (some (p.next b)) rest
    else
      replacement ::
        match lead b with
        | .single c => c :: decodeLossyFrom none rest
        | .opens p => decodeLossyFrom (some p) rest
        | .stray => replacement :: decodeLossyFrom none rest

/-- The text that the bytes encode, with replacement characters where they encode none. -/
def decodeLossy (bytes : List UInt8) : String := String.ofList (decodeLossyFrom none bytes)

end DeployService.Text.Utf8
