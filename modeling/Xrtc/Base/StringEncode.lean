import Mathlib.Data.List.Infix
import Mathlib.Data.Nat.Digits.Defs
import Xrtc.Ice.UdpPort

/-!
# `Xrtc.Base.StringEncode`: taking texts apart

The functions of `rtc_base/string_encode.cc`, `string_to_number.cc` and
`ssl_fingerprint.cc` that the parsers of session descriptions use, and those of the
standard library. A text is a byte string. `rtc::split` is `Xrtc.Ice.split`.

`contains` stands for `find(pattern) != npos`. `substr` has no result where
`std::string::substr` throws `std::out_of_range`.
-/

set_option autoImplicit false

namespace Xrtc.Base

open Xrtc.Lib
open Xrtc.Ice (ascii)

/-- The line feed. -/
def lf : UInt8 := 0x0a

/-- The carriage return. -/
def cr : UInt8 := 0x0d

/-- The blank. -/
def space : UInt8 := 0x20

/-- The minus sign. -/
def minus : UInt8 := 0x2d

/-- `find(pattern) != npos`. -/
def contains (pattern text : Bytes) : Bool := decide (pattern <:+: text)

/-- `std::string::substr`, to the end. -/
def substr (text : Bytes) (pos : Nat) : Option Bytes :=
  if text.length < pos then none else some (text.drop pos)

/-- `rtc::tokenize`, with the bytes of the current field so far. Empty fields are left
out. -/
def tokenize (delimiter : UInt8) (field : Bytes) : Bytes → List Bytes
  | [] => if field = [] then [] else [field]
  | b :: source =>
      if b = delimiter then
        if field = [] then tokenize delimiter [] source
        else field :: tokenize delimiter [] source
      else tokenize delimiter (field ++ [b]) source

/-- `rtc::tokenize_first`. Repeated delimiters are skipped. -/
def tokenizeFirst (delimiter : UInt8) (source : Bytes) : Option (Bytes × Bytes) :=
  match source.dropWhile (· ≠ delimiter) with
  | [] => none
  | _ :: rest => some (source.takeWhile (· ≠ delimiter), rest.dropWhile (· = delimiter))

/-! ### Numbers -/

/-- `isdigit`. -/
def isDigit (b : UInt8) : Bool := 0x30 ≤ b && b ≤ 0x39

/-- The number that digits stand for. -/
def ofDigits (digits : Bytes) : Nat := digits.foldl (fun v b => 10 * v + (b.toNat - 0x30)) 0

/-- The decimal digits of a number, as a `std::ostream` writes them. -/
def decimal (n : Nat) : Bytes :=
  if n = 0 then [0x30] else (Nat.digits 10 n).reverse.map fun d => UInt8.ofNat (0x30 + d)

/-- `c_str()`: what is read of a text as far as a null character. -/
def cStr (s : Bytes) : Bytes := s.takeWhile (· ≠ 0)

/-- `rtc::FromString`, of a `uint32_t`. Of the negative numbers only zero is one. -/
def fromString (s : Bytes) : Option UInt32 :=
  let str := cStr s
  let negative := str.head? = some minus
  let digits := if negative then str.drop 1 else str
  if digits = [] ∨ ¬ digits.all isDigit then none
  else
    let value := ofDigits digits
    if 2 ^ 32 ≤ value ∨ (negative ∧ value ≠ 0) then none else some (UInt32.ofNat value)

/-- `kBase64`, the characters of `rtc::CreateRandomString`. -/
def kBase64 : Bytes := ascii "ABCDEFGHIJKLMNOPQRSTUVWXYZabcdefghijklmnopqrstuvwxyz0123456789+/"

/-! ### Fingerprints -/

/-- `hex_decode`. -/
def hexDecode (ch : UInt8) : Option UInt8 :=
  if 0x30 ≤ ch ∧ ch ≤ 0x39 then some (ch - 0x30)
  else if 0x41 ≤ ch ∧ ch ≤ 0x46 then some (ch - 0x41 + 10)
  else if 0x61 ≤ ch ∧ ch ≤ 0x66 then some (ch - 0x61 + 10)
  else none

/-- The loop of `hex_decode_with_delimiter`. The delimiter is looked for where more than
one character is left. -/
def hexDecodeLoop (delimiter : UInt8) : Bytes → Option Bytes
  | [] => some []
  | [_] => none
  | [c1, c2] => do
      let h1 ← hexDecode c1
      let h2 ← hexDecode c2
      return [h1 <<< 4 ||| h2]
  | [c1, c2, _] => do
      let _ ← hexDecode c1
      let _ ← hexDecode c2
      none
  | c1 :: c2 :: separator :: source => do
      let h1 ← hexDecode c1
      let h2 ← hexDecode c2
      if separator ≠ delimiter then none
      else
        let rest ← hexDecodeLoop delimiter source
        return (h1 <<< 4 ||| h2) :: rest

/-- `hex_decode_with_delimiter`, nothing when it returns zero. -/
def hexDecodeWithDelimiter (buflen : Nat) (source : Bytes) (delimiter : UInt8) : Option Bytes :=
  if buflen < (source.length + 1) / 3 then none
  else (hexDecodeLoop delimiter source).filter (· ≠ [])

/-- `tolower`. -/
def toLower (b : UInt8) : UInt8 := if 0x41 ≤ b ∧ b ≤ 0x5a then b + 0x20 else b

/-- `MessageDigest::kMaxSize`. -/
def kMaxSize : Nat := 64

/-- `IsFips180DigestAlgorithm`. -/
def isFips180DigestAlgorithm (alg : Bytes) : Bool :=
  [ascii "sha-1", ascii "sha-224", ascii "sha-256", ascii "sha-384", ascii "sha-512"].contains alg

end Xrtc.Base
