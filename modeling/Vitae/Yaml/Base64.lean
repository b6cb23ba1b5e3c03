/-!
# Base 64

Bytes written with sixty-four characters of ASCII, six bits each.  Characters that do not belong to
the format are passed over, and reading ends at the equals signs that complete a group of four.
-/

namespace Vitae.Yaml

/-- The characters that stand for six bits, in the order of their values. -/
def sixBitChars : List Char :=
  "ABCDEFGHIJKLMNOPQRSTUVWXYZabcdefghijklmnopqrstuvwxyz0123456789+/".toList

/-- Reads groups of four characters.  `bits` holds the values of the open group so far, last first,
and `pads` counts the equals signs in it.  The answer is the bytes of each group; an open group at
the end is a fault. -/
def sixBitGroups? (bits : List Nat) (pads : Nat) : List Char → Option (List (List Nat))
  | [] => if bits.isEmpty then some [] else none
  | c :: rest =>
    if c = '=' then
      if 2 ≤ bits.length && 4 ≤ bits.length + pads + 1 then some [bits.reverse]
      else sixBitGroups? bits (if 2 ≤ bits.length then pads + 1 else pads) rest
    else
      match sixBitChars.idxOf? c with
      | none => sixBitGroups? bits pads rest
      | some v =>
        if bits.length = 3 then (sixBitGroups? [] 0 rest).map ((v :: bits).reverse :: ·)
        else sixBitGroups? (v :: bits) 0 rest

/-- The bytes of a group of values of six bits each; bits that do not fill a byte are dropped. -/
def groupBytes : List Nat → List UInt8
  | [a, b, c, d] =>
    let n := ((a * 64 + b) * 64 + c) * 64 + d
    [.ofNat (n / 65536), .ofNat (n / 256), .ofNat n]
  | [a, b, c] =>
    let n := ((a * 64 + b) * 64 + c) / 4
    [.ofNat (n / 256), .ofNat n]
  | [a, b] => [.ofNat ((a * 64 + b) / 16)]
  | _ => []

/-- The bytes that a text of ASCII spells in base 64. -/
def base64? (cs : List Char) : Option (List UInt8) :=
  if cs.all (·.toNat < 128) then (sixBitGroups? [] 0 cs).map (·.flatMap groupBytes) else none

example : base64? "aGVsbG8=".toList = some "hello".toUTF8.toList := by decide +kernel
example : base64? "aGVsbG8".toList = none := by decide +kernel

end Vitae.Yaml
