import ChipEight.Picture.Screenshot
import ChipEight.Text.SmallLetters

/-!
# Picture files

The bytes of a picture in a file of either kind. Both kinds are written without compression: what
the bytes are does not matter to anyone who reads the picture back, and the plain form is the short
one to write.

## The two kinds

A PNG file is a signature and a row of chunks, each with its length in front and a checksum behind
it; the pixels are one stream of rows from the top, each with a zero in front of it. A BMP file is a
header with the place of the pixels in it and the rows from the bottom, each filled up to a multiple
of four bytes, with blue in front of green and red.

`FileFormat.library` is a library of images that has these two kinds, and `FileFormat.host` a host
with this library. They are what the program uses; what is proved of pictures holds of every library.
-/

namespace ChipEight

namespace FileFormat

/-- A number in the given count of bytes, the lowest first. -/
def little : Nat → Nat → List Byte
  | 0, _ => []
  | count + 1, v => BitVec.ofNat 8 v :: little count (v / 256)

/-- A number in the given count of bytes, the highest first. -/
def big (count v : Nat) : List Byte := (little count v).reverse

def letters (s : String) : List Byte := s.toList.map fun c ↦ BitVec.ofNat 8 c.toNat

/-! ## PNG -/

/-- One step of the checksum of chunks: division by its polynomial, one bit further. -/
def crcStep (r : BitVec 32) : BitVec 32 :=
  if r.getLsbD 0 then (r >>> 1) ^^^ 0xEDB88320 else r >>> 1

/-- The checksum of a chunk: the remainder of its bytes, all bits turned before and after. -/
def crc (bytes : List Byte) : BitVec 32 :=
  ~~~(bytes.foldl (fun r b ↦ Nat.repeat crcStep 8 (r ^^^ b.setWidth 32)) (~~~0))

/-- The checksum of a stream: two sums of its bytes, the second one a sum of the first. -/
def adler (bytes : List Byte) : Nat :=
  let (a, b) := bytes.foldl (fun (s : Nat × Nat) c ↦
    let a := (s.1 + c.toNat) % 65521
    (a, (s.2 + a) % 65521)) (1, 0)
  b * 65536 + a

def chunk (kind : String) (contents : List Byte) : List Byte :=
  let body := letters kind ++ contents
  big 4 contents.length ++ body ++ big 4 (crc body).toNat

/-- The greatest number of bytes in a block of a stream. -/
def blockSize : Nat := 65535

/-- Blocks of a stream, the given number of them before the last one. -/
def blocks : Nat → List Byte → List Byte
  | 0, bytes => block 1 bytes
  | more + 1, bytes => block 0 (bytes.take blockSize) ++ blocks more (bytes.drop blockSize)
where
  /-- One block, marked as the last one or not. -/
  block (last : Byte) (bytes : List Byte) : List Byte :=
    last :: little 2 bytes.length ++ little 2 (blockSize - bytes.length) ++ bytes

/-- A stream of bytes that are not compressed. -/
def stream (bytes : List Byte) : List Byte :=
  [0x78, 0x01] ++ blocks ((bytes.length - 1) / blockSize) bytes ++ big 4 (adler bytes)

def png (p : Picture) : List Byte :=
  let header := big 4 p.width ++ big 4 p.rows.length ++ [8, 2, 0, 0, 0]
  let line := fun row : List Colour ↦ (0 : Byte) :: row.flatMap fun c ↦ [c.red, c.green, c.blue]
  [0x89] ++ letters "PNG\r\n" ++ [0x1A, 0x0A] ++ chunk "IHDR" header ++
    chunk "IDAT" (stream (p.rows.flatMap line)) ++ chunk "IEND" []

/-! ## BMP -/

def headerSize : Nat := 54

def bmp (p : Picture) : List Byte :=
  let padding := List.replicate (p.width % 4) (0 : Byte)
  let line := fun row : List Colour ↦
    (row.flatMap fun c ↦ [c.blue, c.green, c.red]) ++ padding
  let pixels := p.rows.reverse.flatMap line
  letters "BM" ++ little 4 (headerSize + pixels.length) ++ little 4 0 ++ little 4 headerSize ++
    little 4 40 ++ little 4 p.width ++ little 4 p.rows.length ++ little 2 1 ++ little 2 24 ++
    little 4 0 ++ little 4 pixels.length ++ little 4 3780 ++ little 4 3780 ++ little 8 0 ++ pixels

/-! ## The library -/

/-- The extension of a file name: from its last dot on, in small letters. Dots at the very front
of a name belong to the name. -/
def extension (file : String) : String :=
  let base := (file.toList.reverse.takeWhile (· ≠ '/')).reverse
  let stem := base.dropWhile (· = '.')
  if stem.contains '.' then
    SmallLetters.small (String.ofList ('.' :: (stem.reverse.takeWhile (· ≠ '.')).reverse))
  else ""

def maxSide : Int := 0x7FFFFFFF

/-- The longest row of an image: four bytes for each of its pixels and for one more are counted by a
signed 32-bit number. -/
def maxRow : Int := maxSide / 4 - 1

def library : ImageLibrary where
  accepts := fun e ↦
    if maxSide < e.rows ∨ maxSide < e.columns then .error .longSide
    else if maxRow < e.columns then .error .longRow
    else .ok ()
  formatOf := fun file ↦
    let ext := extension file
    if ext = ".png" ∨ ext = ".apng" then .ok "PNG"
    else if ext = ".bmp" then .ok "BMP"
    else .error (.extension ext)
  encodes := fun _ e ↦ if e.isEmpty then .error .empty else .ok ()

/-- A host with these files, the library of the two kinds of image files, and 32 GiB of memory for
a picture. -/
def host (files : Storage) : Host where
  toStorage := files
  room := fun bytes ↦ bytes < 0x800000000
  library := library

end FileFormat

def Screenshot.bytes (s : Screenshot) : List Byte :=
  if s.format = "BMP" then FileFormat.bmp s.picture else FileFormat.png s.picture

end ChipEight
