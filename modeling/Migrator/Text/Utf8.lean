/-!
Reading text from bytes. A decoder walks the bytes once; a well-formed UTF-8 sequence gives its
character, and each maximal piece that cannot begin or finish a sequence gives one replacement
character U+FFFD, the byte that broke it starting afresh. Strict reading accepts only bytes that
decode with no replacement.
-/
namespace Migrator.Text.Utf8

/-- What the decoder has read so far. -/
structure Decoder where
  /-- Continuation bytes still expected by the current sequence. -/
  need : Nat := 0
  /-- Bits of the current sequence. -/
  acc : Nat := 0
  /-- Least and greatest byte allowed next in the current sequence. -/
  lo : UInt8 := 0x80
  hi : UInt8 := 0xBF
  /-- Characters decoded, the last first. -/
  out : List Char := []
  /-- Whether a replacement character was produced. -/
  replaced : Bool := false

namespace Decoder

/-- The replacement character. -/
def replacement : Char := '�'

/-- Starts a sequence at byte `b`, with no sequence open. -/
def start (d : Decoder) (b : UInt8) : Decoder :=
  let n := b.toNat
  if n < 0x80 then { d with out := Char.ofNat n :: d.out }
  else if 0xC2 ≤ n ∧ n ≤ 0xDF then { d with need := 1, acc := n % 0x20, lo := 0x80, hi := 0xBF }
  else if n = 0xE0 then { d with need := 2, acc := n % 0x10, lo := 0xA0, hi := 0xBF }
  else if n = 0xED then { d with need := 2, acc := n % 0x10, lo := 0x80, hi := 0x9F }
  else if 0xE1 ≤ n ∧ n ≤ 0xEF then { d with need := 2, acc := n % 0x10, lo := 0x80, hi := 0xBF }
  else if n = 0xF0 then { d with need := 3, acc := n % 0x08, lo := 0x90, hi := 0xBF }
  else if n = 0xF4 then { d with need := 3, acc := n % 0x08, lo := 0x80, hi := 0x8F }
  else if 0xF1 ≤ n ∧ n ≤ 0xF3 then { d with need := 3, acc := n % 0x08, lo := 0x80, hi := 0xBF }
  else { d with out := replacement :: d.out, replaced := true }

/-- Reads one byte. -/
def push (d : Decoder) (b : UInt8) : Decoder :=
  if d.need = 0 then d.start b
  else if d.lo ≤ b ∧ b ≤ d.hi then
    let acc := d.acc * 64 + b.toNat % 64
    if d.need = 1 then { d with need := 0, acc := 0, out := Char.ofNat acc :: d.out }
    else { d with need := d.need - 1, acc := acc, lo := 0x80, hi := 0xBF }
  else
    ({ d with need := 0, acc := 0, out := replacement :: d.out, replaced := true } : Decoder).start b

/-- Ends the input: an open sequence becomes one replacement character. -/
def finish (d : Decoder) : Decoder :=
  if d.need = 0 then d else { d with need := 0, out := replacement :: d.out, replaced := true }

/-- Decodes a list of bytes. -/
def run (bytes : List UInt8) : Decoder := (bytes.foldl push {}).finish

end Decoder

/-- The text of `bytes`, each ill-formed piece replaced by U+FFFD. -/
def decodeLossy (bytes : List UInt8) : String := String.ofList (Decoder.run bytes).out.reverse

/-- The text of `bytes`, if they are well-formed UTF-8. -/
def decode? (bytes : List UInt8) : Option String :=
  let d := Decoder.run bytes
  if d.replaced then none else some (String.ofList d.out.reverse)

example : decodeLossy [0x61, 0xFF, 0xC3, 0xA9, 0xE2, 0x82] = "a�é�" := by decide
example : decode? [0xED, 0xA0, 0x80] = none := by decide

end Migrator.Text.Utf8
