/-!
SHA-256 (FIPS 180-4) over bytes, and the lowercase hexadecimal text of a digest. The hash state
absorbs bytes one at a time and compresses each full block of 64; absorbing a text in pieces is
absorbing it whole, because absorbing is a left fold over the bytes.
-/
namespace Migrator.Sha256

/-- The 64 round constants. -/
def roundConstants : Array UInt32 := #[
  0x428a2f98, 0x71374491, 0xb5c0fbcf, 0xe9b5dba5, 0x3956c25b, 0x59f111f1, 0x923f82a4, 0xab1c5ed5,
  0xd807aa98, 0x12835b01, 0x243185be, 0x550c7dc3, 0x72be5d74, 0x80deb1fe, 0x9bdc06a7, 0xc19bf174,
  0xe49b69c1, 0xefbe4786, 0x0fc19dc6, 0x240ca1cc, 0x2de92c6f, 0x4a7484aa, 0x5cb0a9dc, 0x76f988da,
  0x983e5152, 0xa831c66d, 0xb00327c8, 0xbf597fc7, 0xc6e00bf3, 0xd5a79147, 0x06ca6351, 0x14292967,
  0x27b70a85, 0x2e1b2138, 0x4d2c6dfc, 0x53380d13, 0x650a7354, 0x766a0abb, 0x81c2c92e, 0x92722c85,
  0xa2bfe8a1, 0xa81a664b, 0xc24b8b70, 0xc76c51a3, 0xd192e819, 0xd6990624, 0xf40e3585, 0x106aa070,
  0x19a4c116, 0x1e376c08, 0x2748774c, 0x34b0bcb5, 0x391c0cb3, 0x4ed8aa4a, 0x5b9cca4f, 0x682e6ff3,
  0x748f82ee, 0x78a5636f, 0x84c87814, 0x8cc70208, 0x90befffa, 0xa4506ceb, 0xbef9a3f7, 0xc67178f2]

/-- The initial hash value. -/
def initialHash : Array UInt32 := #[
  0x6a09e667, 0xbb67ae85, 0x3c6ef372, 0xa54ff53a, 0x510e527f, 0x9b05688c, 0x1f83d9ab, 0x5be0cd19]

/-- Rotation to the right by `n` bits, for `0 < n < 32`. -/
def rotr (x : UInt32) (n : UInt32) : UInt32 := (x >>> n) ||| (x <<< (32 - n))

/-- The big-endian word at byte `i` of a block. -/
def wordAt (block : ByteArray) (i : Nat) : UInt32 :=
  (block.get! i).toUInt32 <<< 24 ||| (block.get! (i + 1)).toUInt32 <<< 16 |||
    (block.get! (i + 2)).toUInt32 <<< 8 ||| (block.get! (i + 3)).toUInt32

/-- The 64-word message schedule of a block. -/
def schedule (block : ByteArray) : Array UInt32 := Id.run do
  let mut w : Array UInt32 := Array.mkEmpty 64
  for i in [0:16] do
    w := w.push (wordAt block (4 * i))
  for i in [16:64] do
    let x := w[i - 15]!
    let y := w[i - 2]!
    let s0 := rotr x 7 ^^^ rotr x 18 ^^^ (x >>> 3)
    let s1 := rotr y 17 ^^^ rotr y 19 ^^^ (y >>> 10)
    w := w.push (w[i - 16]! + s0 + w[i - 7]! + s1)
  return w

/-- One application of the compression function to a 64-byte block. -/
def compress (h : Array UInt32) (block : ByteArray) : Array UInt32 := Id.run do
  let w := schedule block
  let mut a := h[0]!
  let mut b := h[1]!
  let mut c := h[2]!
  let mut d := h[3]!
  let mut e := h[4]!
  let mut f := h[5]!
  let mut g := h[6]!
  let mut k := h[7]!
  for i in [0:64] do
    let s1 := rotr e 6 ^^^ rotr e 11 ^^^ rotr e 25
    let ch := (e &&& f) ^^^ ((~~~ e) &&& g)
    let t1 := k + s1 + ch + roundConstants[i]! + w[i]!
    let s0 := rotr a 2 ^^^ rotr a 13 ^^^ rotr a 22
    let maj := (a &&& b) ^^^ (a &&& c) ^^^ (b &&& c)
    let t2 := s0 + maj
    k := g
    g := f
    f := e
    e := d + t1
    d := c
    c := b
    b := a
    a := t1 + t2
  return #[h[0]! + a, h[1]! + b, h[2]! + c, h[3]! + d, h[4]! + e, h[5]! + f, h[6]! + g,
    h[7]! + k]

/-- A hash in progress: the chained value, the bytes of the unfinished block, and the count of
bytes absorbed. -/
structure State where
  hash : Array UInt32 := initialHash
  pending : ByteArray := ByteArray.empty
  length : Nat := 0

/-- Absorbs one byte, compressing when a block is full. -/
def State.push (s : State) (b : UInt8) : State :=
  let p := s.pending.push b
  if p.size = 64 then { hash := compress s.hash p, pending := ByteArray.empty, length := s.length + 1 }
  else { s with pending := p, length := s.length + 1 }

/-- Absorbs bytes in order. -/
def State.update (s : State) (bytes : List UInt8) : State := bytes.foldl State.push s

/-- The big-endian bytes of a word. -/
def wordBytes (w : UInt32) : List UInt8 :=
  [(w >>> 24).toUInt8, (w >>> 16).toUInt8, (w >>> 8).toUInt8, w.toUInt8]

/-- The padding that ends a message of `length` bytes: a one bit, zeros to 56 bytes modulo 64,
then the bit length in eight big-endian bytes. -/
def padding (length : Nat) : List UInt8 :=
  let zeros := (119 - length % 64) % 64
  let bits := 8 * length
  (0x80 : UInt8) :: List.replicate zeros (0 : UInt8) ++
    (List.range 8).reverse.map fun i => (bits >>> (8 * i)).toUInt8

/-- Pads, compresses the last blocks and gives the 32 digest bytes. -/
def State.finish (s : State) : List UInt8 :=
  ((s.update (padding s.length)).hash.toList).flatMap wordBytes

/-- The SHA-256 digest of a list of bytes. -/
def digest (bytes : List UInt8) : List UInt8 := (({} : State).update bytes).finish

/-- Lowercase hexadecimal digit of a number below 16. -/
def hexDigit (n : Nat) : Char :=
  if n < 10 then Char.ofNat (48 + n) else Char.ofNat (87 + n)

/-- Lowercase hexadecimal text of bytes, two digits a byte. -/
def hex (bytes : List UInt8) : String :=
  String.ofList (bytes.flatMap fun b => [hexDigit (b.toNat / 16), hexDigit (b.toNat % 16)])

/-- Absorbing in pieces is absorbing the pieces joined. -/
theorem State.update_append (s : State) (a b : List UInt8) :
    s.update (a ++ b) = (s.update a).update b := by
  simp [State.update, List.foldl_append]

end Migrator.Sha256
