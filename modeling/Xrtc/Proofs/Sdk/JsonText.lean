import Xrtc.Proofs.Base.StringEncode
import Xrtc.Sdk.XrtcJson

/-!
# `Xrtc.Proofs.Sdk.JsonText`: a JSON library

A writer and a reader of JSON texts that are inverse on trees in order (`jsonText`), so that what
is said about every JSON library is said about something. The texts are those of
`FastWriter().write` for trees of integers, booleans and strings of plain characters. The reader
takes an integer for an `unsigned` one from `2 ^ 31` on, as `Reader().parse` does, returns false
for what is no JSON text, and does not look behind the end of the value.

`readValue_writeValue` is the round trip, a mutual induction over the tree and the lists in it.
The fuel of the reader counts its calls inside one another. Twice the length of the text is
enough, since every call reads a character.
-/

set_option autoImplicit false

namespace Xrtc.Proofs.Sdk.JsonText

open Xrtc.Base
open Xrtc.Ice (ascii colon)
open Xrtc.Lib
open Xrtc.Sdk
open Xrtc.Proofs.Base

def comma : UInt8 := 0x2c

def quote : UInt8 := 0x22

def backslash : UInt8 := 0x5c

def openBracket : UInt8 := 0x5b

def closeBracket : UInt8 := 0x5d

def openBrace : UInt8 := 0x7b

def closeBrace : UInt8 := 0x7d

/-! ### The writer -/

def escape (b : UInt8) : Bytes := if b = quote ∨ b = backslash then [backslash, b] else [b]

def writeString (s : Bytes) : Bytes := quote :: (s.flatMap escape ++ [quote])

def writeInt (n : Int64) : Bytes :=
  if n.toInt < 0 then minus :: decimal n.toInt.natAbs else decimal n.toInt.natAbs

/-- There is no comma in front of the first element. -/
def withoutComma : Bytes → Bytes
  | [] => []
  | b :: text => if b = comma then text else b :: text

mutual

def writeValue : Json Empty → Bytes
  | .null => ascii "null"
  | .int n => writeInt n
  | .uint n => decimal n.toNat
  | .real d => nomatch d
  | .string s => writeString s
  | .bool true => ascii "true"
  | .bool false => ascii "false"
  | .array values => openBracket :: withoutComma (writeElements values)
  | .object members => openBrace :: withoutComma (writeMembers members)

/-- The elements, each behind a comma, and the bracket. -/
def writeElements : List (Json Empty) → Bytes
  | [] => [closeBracket]
  | value :: values => comma :: (writeValue value ++ writeElements values)

/-- The members, each behind a comma, and the brace. -/
def writeMembers : List (Bytes × Json Empty) → Bytes
  | [] => [closeBrace]
  | (key, value) :: members =>
      comma :: (writeString key ++ colon :: (writeValue value ++ writeMembers members))

end

def write (value : Json Empty) : Bytes := writeValue value ++ [lf]

/-! ### The reader -/

/-- The rest of a string, behind a backslash or not. -/
def readString : Bool → Bytes → Option (Bytes × Bytes)
  | _, [] => none
  | true, b :: rest => (readString false rest).map fun (s, rest) => (b :: s, rest)
  | false, b :: rest =>
      if b = quote then some ([], rest)
      else if b = backslash then readString true rest
      else (readString false rest).map fun (s, rest) => (b :: s, rest)

/-- A string and a colon. -/
def readKey : Bytes → Option (Bytes × Bytes)
  | [] => none
  | b :: rest =>
      if b = quote then
        (readString false rest).bind fun (key, rest) =>
          if rest.head? = some colon then some (key, rest.tail) else none
      else none

/-- Without a sign, and without a fraction. -/
def readNumber (text : Bytes) : Option (Json Empty × Bytes) :=
  let n := ofDigits (text.takeWhile isDigit)
  let rest := text.dropWhile isDigit
  if n < 2 ^ 31 then some (.int (Int64.ofNat n), rest)
  else if n < 2 ^ 64 then some (.uint (UInt64.ofNat n), rest)
  else none

/-- Behind the sign. -/
def readNegative (text : Bytes) : Option (Json Empty × Bytes) :=
  let n := ofDigits (text.takeWhile isDigit)
  if n ≤ 2 ^ 63 then some (.int (Int64.ofInt (-n)), text.dropWhile isDigit) else none

/-- A value that is neither an array nor an object. -/
def readScalar : Bytes → Option (Json Empty × Bytes)
  | [] => none
  | b :: rest =>
      if b = quote then (readString false rest).map fun (s, rest) => (.string s, rest)
      else if b = minus then readNegative rest
      else if isDigit b then readNumber (b :: rest)
      else if ascii "null" <+: b :: rest then some (.null, rest.drop 3)
      else if ascii "true" <+: b :: rest then some (.bool true, rest.drop 3)
      else if ascii "false" <+: b :: rest then some (.bool false, rest.drop 4)
      else none

/-- The comma in front of the first element, if there is one. -/
def withComma (close : UInt8) (text : Bytes) : Bytes :=
  if text.head? = some close then text else comma :: text

mutual

def readValue : Nat → Bytes → Option (Json Empty × Bytes)
  | 0, _ => none
  | _, [] => none
  | fuel + 1, b :: rest =>
      if b = openBracket then
        (readElements fuel (withComma closeBracket rest)).map fun (values, rest) =>
          (.array values, rest)
      else if b = openBrace then
        (readMembers fuel (withComma closeBrace rest)).map fun (members, rest) =>
          (.object (SortedMap.ofList members), rest)
      else readScalar (b :: rest)

def readElements : Nat → Bytes → Option (List (Json Empty) × Bytes)
  | 0, _ => none
  | _, [] => none
  | fuel + 1, b :: rest =>
      if b = closeBracket then some ([], rest)
      else if b = comma then
        (readValue fuel rest).bind fun (value, rest) =>
          (readElements fuel rest).map fun (values, rest) => (value :: values, rest)
      else none

def readMembers : Nat → Bytes → Option (List (Bytes × Json Empty) × Bytes)
  | 0, _ => none
  | _, [] => none
  | fuel + 1, b :: rest =>
      if b = closeBrace then some ([], rest)
      else if b = comma then
        (readKey rest).bind fun (key, rest) =>
          (readValue fuel rest).bind fun (value, rest) =>
            (readMembers fuel rest).map fun (members, rest) => ((key, value) :: members, rest)
      else none

end

def parse (text : Bytes) : ParseResult Empty :=
  match readValue (2 * text.length) text with
  | some (value, _) => .parsed value
  | none => .failed

/-! ### Strings -/

/-- Induction on the string. What has been escaped is taken as it is. -/
theorem readString_append (s rest : Bytes) :
    readString false (s.flatMap escape ++ quote :: rest) = some (s, rest) := by
  induction s with
  | nil => rw [List.flatMap_nil, List.nil_append, readString, if_pos rfl]
  | cons b s ih =>
      rw [List.flatMap_cons, List.append_assoc, escape]
      by_cases hb : b = quote ∨ b = backslash
      · rw [if_pos hb]
        show readString false (backslash :: b :: (s.flatMap escape ++ quote :: rest)) = _
        rw [readString, if_neg (by decide), if_pos rfl, readString, ih]
        rfl
      · rw [if_neg hb]
        obtain ⟨hquote, hbackslash⟩ := not_or.mp hb
        show readString false (b :: (s.flatMap escape ++ quote :: rest)) = _
        rw [readString, if_neg hquote, if_neg hbackslash, ih]
        rfl

/-- A string in front of further text, with its closing quote split off. -/
theorem writeString_append (s rest : Bytes) :
    writeString s ++ rest = quote :: (s.flatMap escape ++ quote :: rest) := by
  rw [writeString, List.cons_append, List.append_assoc, List.singleton_append]

/-- A key is read back with its colon. -/
theorem readKey_append (key rest : Bytes) :
    readKey (writeString key ++ colon :: rest) = some (key, rest) := by
  rw [writeString_append, readKey, if_pos rfl, readString_append, Option.bind_some]
  exact if_pos rfl

/-! ### Numbers -/

/-- There is no further digit. -/
def EndsNumber (rest : Bytes) : Prop := (rest.head?.all fun b => !isDigit b) = true

/-- A number that has been taken for one of the two kinds. -/
theorem normal_of_lt {n : Nat} (h : n < 2 ^ 63) :
    (Json.uint (D := Empty) (UInt64.ofNat n)).normal = .int (Int64.ofNat n) := by
  have hn : (UInt64.ofNat n).toNat = n := UInt64.toNat_ofNat_of_lt' (h.trans (by decide))
  rw [Json.normal, hn, if_pos h, UInt64.toInt64_ofNat']

/-- A natural number below `2 ^ 64` is read back with its value. The reader may give it the signed
kind, which the normal form does not tell apart. -/
theorem readNumber_decimal {n : Nat} (h : n < 2 ^ 64) {rest : Bytes} (hrest : EndsNumber rest) :
    ∃ value', readNumber (decimal n ++ rest) = some (value', rest) ∧
      value'.normal = (Json.uint (UInt64.ofNat n)).normal := by
  unfold readNumber
  rw [takeWhile_decimal n rest hrest, dropWhile_decimal n rest hrest, ofDigits_decimal]
  dsimp only
  by_cases hsmall : n < 2 ^ 31
  · rw [if_pos hsmall]
    exact ⟨_, rfl, (normal_of_lt (hsmall.trans (by decide))).symm⟩
  · rw [if_neg hsmall, if_pos h]
    exact ⟨_, rfl, rfl⟩

/-- A printed number does not start like a value of another type. -/
theorem readScalar_decimal (n : Nat) (rest : Bytes) :
    readScalar (decimal n ++ rest) = readNumber (decimal n ++ rest) := by
  obtain ⟨b, digits, hb, hdigit⟩ := decimal_eq_cons n
  have hquote : b ≠ quote := ne_of_isDigit hdigit rfl
  have hminus : b ≠ minus := ne_of_isDigit hdigit rfl
  rw [hb, List.cons_append, readScalar, if_neg hquote, if_neg hminus, if_pos hdigit]

/-- A negative number is read back from its digits. -/
theorem readNegative_decimal {n : Int64} (h : n.toInt < 0) {rest : Bytes}
    (hrest : EndsNumber rest) :
    readNegative (decimal n.toInt.natAbs ++ rest) = some (.int n, rest) := by
  have hmin : -2 ^ 63 ≤ n.toInt := n.le_toInt
  have habs : (-(n.toInt.natAbs : Int)) = n.toInt := by omega
  unfold readNegative
  rw [takeWhile_decimal _ rest hrest, dropWhile_decimal _ rest hrest, ofDigits_decimal]
  dsimp only
  rw [if_pos (by omega), habs, Int64.ofInt_toInt]

/-! ### Values without elements -/

/-- The value is neither an array nor an object. -/
def isScalar : Json Empty → Bool
  | .array _ => false
  | .object _ => false
  | _ => true

/-- What the reader makes of the text of a value in front of another text. -/
def ReadsAs (result : Option (Json Empty × Bytes)) (value : Json Empty) (rest : Bytes) : Prop :=
  ∃ value', result = some (value', rest) ∧ value'.normal = value.normal

/-- Every value without parts is read back, by its constructors. What comes behind a number must
not go on with it, which is all that is asked of the rest. -/
theorem readScalar_append {value : Json Empty} (h : isScalar value = true) {rest : Bytes}
    (hrest : EndsNumber rest) : ReadsAs (readScalar (writeValue value ++ rest)) value rest := by
  cases value with
  | null => exact ⟨.null, rfl, rfl⟩
  | bool b =>
      cases b with
      | false => exact ⟨.bool false, rfl, rfl⟩
      | true => exact ⟨.bool true, rfl, rfl⟩
  | int n =>
      rw [writeValue, writeInt]
      -- a number that is not negative is written without a sign, and read as either kind
      by_cases hneg : n.toInt < 0
      · rw [if_pos hneg, List.cons_append, readScalar, if_neg (by decide), if_pos rfl]
        exact ⟨_, readNegative_decimal hneg hrest, rfl⟩
      · have hlt : n.toInt < 2 ^ 63 := n.toInt_lt
        have hint : Int64.ofNat n.toInt.natAbs = n := by
          rw [← Int64.ofInt_eq_ofNat, Int.natAbs_of_nonneg (not_lt.mp hneg), Int64.ofInt_toInt]
        rw [if_neg hneg, readScalar_decimal]
        obtain ⟨value', hread, hnormal⟩ := readNumber_decimal (n := n.toInt.natAbs) (by omega) hrest
        rw [normal_of_lt (by omega), hint] at hnormal
        exact ⟨value', hread, hnormal⟩
  | uint n =>
      rw [writeValue, readScalar_decimal]
      have hread := readNumber_decimal n.toNat_lt hrest
      rw [UInt64.ofNat_toNat] at hread
      exact hread
  | real d => cases d
  | string s =>
      rw [writeValue, writeString_append, readScalar, if_pos rfl, readString_append]
      exact ⟨.string s, rfl, rfl⟩
  | array values => cases h
  | object members => cases h

/-- A text does not start like a list in brackets unless it has been written for one. -/
theorem writeValue_eq_cons (value : Json Empty) :
    ∃ b text, writeValue value = b :: text ∧ b ≠ closeBracket ∧
      (isScalar value = true → b ≠ openBracket ∧ b ≠ openBrace) := by
  have hdecimal : ∀ n, ∃ b text, decimal n = b :: text ∧ b ≠ closeBracket ∧
      b ≠ openBracket ∧ b ≠ openBrace := by
    intro n
    obtain ⟨b, digits, hb, hdigit⟩ := decimal_eq_cons n
    exact ⟨b, digits, hb, ne_of_isDigit hdigit rfl, ne_of_isDigit hdigit rfl,
      ne_of_isDigit hdigit rfl⟩
  cases value with
  | null => exact ⟨_, _, rfl, by decide⟩
  | bool b => cases b <;> exact ⟨_, _, rfl, by decide⟩
  | int n =>
      rw [writeValue, writeInt]
      split
      · exact ⟨_, _, rfl, by decide, fun _ => by decide⟩
      · obtain ⟨b, text, hb, hclose, hopen⟩ := hdecimal n.toInt.natAbs
        exact ⟨b, text, hb, hclose, fun _ => hopen⟩
  | uint n =>
      obtain ⟨b, text, hb, hclose, hopen⟩ := hdecimal n.toNat
      exact ⟨b, text, hb, hclose, fun _ => hopen⟩
  | real d => cases d
  | string s => exact ⟨_, _, rfl, by decide, fun _ => by decide⟩
  | array values => exact ⟨_, _, rfl, by decide, fun h => nomatch h⟩
  | object members => exact ⟨_, _, rfl, by decide, fun h => nomatch h⟩

/-! ### Lists in brackets -/

/-- The comma that the writer leaves out in front of the first element is the one the reader puts
back. -/
theorem withComma_withoutComma {close b : UInt8} (hb : b ≠ close) (text : Bytes) :
    withComma close (withoutComma (comma :: b :: text)) = comma :: b :: text := by
  rw [withoutComma, if_pos rfl]
  exact if_neg (by rw [List.head?_cons, Option.some.injEq]; exact hb)

/-- The comma of the first element, that the reader puts back. -/
theorem withComma_writeElements (values : List (Json Empty)) (rest : Bytes) :
    withComma closeBracket (withoutComma (writeElements values) ++ rest)
      = writeElements values ++ rest := by
  cases values with
  | nil => exact if_pos rfl
  | cons value values =>
      obtain ⟨b, text, hb, hclose, -⟩ := writeValue_eq_cons value
      have htext : withoutComma (writeElements (value :: values)) ++ rest
          = withoutComma (comma :: b :: (text ++ writeElements values ++ rest)) := by
        rw [writeElements, hb, withoutComma, if_pos rfl, withoutComma, if_pos rfl]
        rfl
      rw [htext, withComma_withoutComma hclose, writeElements, hb]
      rfl

/-- So the members of an object are read as one list of `, key : value` behind one another. -/
theorem withComma_writeMembers (members : List (Bytes × Json Empty)) (rest : Bytes) :
    withComma closeBrace (withoutComma (writeMembers members) ++ rest)
      = writeMembers members ++ rest := by
  cases members with
  | nil => exact if_pos rfl
  | cons member members =>
      rw [writeMembers, withoutComma, if_pos rfl]
      exact if_neg (by rw [writeString]; exact Option.some.injEq quote closeBrace ▸ by decide)

/-- The comma left out is at most one byte, for the count of the fuel. -/
theorem length_le_withoutComma (text : Bytes) : text.length ≤ (withoutComma text).length + 1 := by
  cases text with
  | nil => exact Nat.zero_le _
  | cons b text =>
      rw [withoutComma]
      split
      · exact Nat.le_refl _
      · exact Nat.le_succ _

/-- Elements begin with a comma or the closing bracket, which ends a number in front of them. -/
theorem endsNumber_writeElements (values : List (Json Empty)) (rest : Bytes) :
    EndsNumber (writeElements values ++ rest) := by
  cases values with
  | nil => rfl
  | cons value values => rfl

/-- Members do as well. -/
theorem endsNumber_writeMembers (members : List (Bytes × Json Empty)) (rest : Bytes) :
    EndsNumber (writeMembers members ++ rest) := by
  cases members with
  | nil => rfl
  | cons member members => rfl

/-! ### The round trip -/

/-- A value without parts, through the reader of all values. -/
theorem readValue_scalar {value : Json Empty} (h : isScalar value = true) {fuel : Nat}
    (hfuel : 2 * (writeValue value).length ≤ fuel) {rest : Bytes} (hrest : EndsNumber rest) :
    ReadsAs (readValue fuel (writeValue value ++ rest)) value rest := by
  have hread := readScalar_append h hrest
  obtain ⟨b, text, hb, -, hopen⟩ := writeValue_eq_cons value
  obtain ⟨hbracket, hbrace⟩ := hopen h
  rw [hb] at hfuel hread ⊢
  obtain ⟨fuel, rfl⟩ : ∃ n, fuel = n + 1 := ⟨fuel - 1, by rw [List.length_cons] at hfuel; omega⟩
  rw [List.cons_append] at hread ⊢
  rw [readValue, if_neg hbracket, if_neg hbrace]
  exact hread

mutual

/-- The text of a value in front of another text. The fuel is twice the length, as the list of
the elements is one call further inside and has one character more. -/
theorem readValue_writeValue : ∀ value : Json Empty, value.InOrder → ∀ (fuel : Nat) (rest : Bytes),
    2 * (writeValue value).length ≤ fuel → EndsNumber rest →
      ReadsAs (readValue fuel (writeValue value ++ rest)) value rest
  | .array values, horder, fuel, rest, hfuel, _ => by
      have hlength := length_le_withoutComma (writeElements values)
      rw [writeValue, List.length_cons] at hfuel
      obtain ⟨fuel, rfl⟩ : ∃ n, fuel = n + 1 := ⟨fuel - 1, by omega⟩
      obtain ⟨values', hread, hnormal⟩ :=
        readElements_writeElements values horder fuel rest (by omega)
      rw [writeValue, List.cons_append, readValue, if_pos rfl, withComma_writeElements, hread]
      exact ⟨.array values', rfl, congrArg Json.array hnormal⟩
  | .object members, horder, fuel, rest, hfuel, _ => by
      have hlength := length_le_withoutComma (writeMembers members)
      rw [writeValue, List.length_cons] at hfuel
      obtain ⟨fuel, rfl⟩ : ∃ n, fuel = n + 1 := ⟨fuel - 1, by omega⟩
      obtain ⟨members', hread, hnormal⟩ :=
        readMembers_writeMembers members horder.2 fuel rest (by omega)
      -- the members come in order and are put into the object in order
      have hsorted : SortedMap.Sorted members' := by
        rw [← Json.sorted_normalMembers, hnormal, Json.sorted_normalMembers]
        exact horder.1
      rw [writeValue, List.cons_append, readValue, if_neg (by decide), if_pos rfl,
        withComma_writeMembers, hread]
      refine ⟨.object members', ?_, congrArg Json.object hnormal⟩
      show some (Json.object (SortedMap.ofList members'), rest) = _
      rw [SortedMap.ofList_eq hsorted]
  | .null, _, _, _, hfuel, hrest => readValue_scalar rfl hfuel hrest
  | .int _, _, _, _, hfuel, hrest => readValue_scalar rfl hfuel hrest
  | .uint _, _, _, _, hfuel, hrest => readValue_scalar rfl hfuel hrest
  | .string _, _, _, _, hfuel, hrest => readValue_scalar rfl hfuel hrest
  | .bool _, _, _, _, hfuel, hrest => readValue_scalar rfl hfuel hrest

/-- The elements of an array are read back one by one, by induction on them, with the tree below
each from the mutual induction. -/
theorem readElements_writeElements : ∀ values : List (Json Empty), Json.ValuesInOrder values →
    ∀ (fuel : Nat) (rest : Bytes), 2 * (writeElements values).length ≤ fuel + 1 →
      ∃ values', readElements fuel (writeElements values ++ rest) = some (values', rest) ∧
        Json.normalValues values' = Json.normalValues values
  | [], _, fuel, rest, hfuel => by
      rw [writeElements, List.length_singleton] at hfuel
      obtain ⟨fuel, rfl⟩ : ∃ n, fuel = n + 1 := ⟨fuel - 1, by omega⟩
      rw [writeElements, List.singleton_append, readElements, if_pos rfl]
      exact ⟨[], rfl, rfl⟩
  | value :: values, horder, fuel, rest, hfuel => by
      rw [writeElements, List.length_cons, List.length_append] at hfuel
      obtain ⟨fuel, rfl⟩ : ∃ n, fuel = n + 1 := ⟨fuel - 1, by omega⟩
      obtain ⟨value', hvalue, hfirst⟩ := readValue_writeValue value horder.1 fuel
        (writeElements values ++ rest) (by omega) (endsNumber_writeElements values rest)
      obtain ⟨values', hvalues, hrest⟩ :=
        readElements_writeElements values horder.2 fuel rest (by omega)
      rw [writeElements, List.cons_append, List.append_assoc, readElements, if_neg (by decide),
        if_pos rfl, hvalue, Option.bind_some]
      dsimp only
      rw [hvalues]
      refine ⟨value' :: values', rfl, ?_⟩
      rw [Json.normalValues, Json.normalValues, hfirst, hrest]

/-- The members of an object are read back one by one. They are in the order of their keys, so
none of them replaces another. -/
theorem readMembers_writeMembers : ∀ members : List (Bytes × Json Empty),
    Json.MembersInOrder members →
    ∀ (fuel : Nat) (rest : Bytes), 2 * (writeMembers members).length ≤ fuel + 1 →
      ∃ members', readMembers fuel (writeMembers members ++ rest) = some (members', rest) ∧
        Json.normalMembers members' = Json.normalMembers members
  | [], _, fuel, rest, hfuel => by
      rw [writeMembers, List.length_singleton] at hfuel
      obtain ⟨fuel, rfl⟩ : ∃ n, fuel = n + 1 := ⟨fuel - 1, by omega⟩
      rw [writeMembers, List.singleton_append, readMembers, if_pos rfl]
      exact ⟨[], rfl, rfl⟩
  | (key, value) :: members, horder, fuel, rest, hfuel => by
      simp only [writeMembers, List.length_cons, List.length_append] at hfuel
      obtain ⟨fuel, rfl⟩ : ∃ n, fuel = n + 1 := ⟨fuel - 1, by omega⟩
      obtain ⟨value', hvalue, hfirst⟩ := readValue_writeValue value horder.1 fuel
        (writeMembers members ++ rest) (by omega) (endsNumber_writeMembers members rest)
      obtain ⟨members', hmembers, hrest⟩ :=
        readMembers_writeMembers members horder.2 fuel rest (by omega)
      have htext : writeMembers ((key, value) :: members) ++ rest
          = comma :: (writeString key ++ colon ::
              (writeValue value ++ (writeMembers members ++ rest))) := by
        simp only [writeMembers, List.cons_append, List.append_assoc]
      rw [htext, readMembers, if_neg (by decide), if_pos rfl, readKey_append, Option.bind_some]
      dsimp only
      rw [hvalue, Option.bind_some]
      dsimp only
      rw [hmembers]
      refine ⟨(key, value') :: members', rfl, ?_⟩
      rw [Json.normalMembers, Json.normalMembers, hfirst, hrest]

end

/-- A text that was written is parsed to the same tree, up to the kind of its numbers. -/
theorem parse_write (value : Json Empty) (horder : value.InOrder) :
    ∃ value', parse (write value) = .parsed value' ∧ value'.normal = value.normal := by
  have hfuel : 2 * (writeValue value).length ≤ 2 * (write value).length := by
    rw [write, List.length_append]
    omega
  obtain ⟨value', hread, hnormal⟩ := readValue_writeValue value horder _ [lf] hfuel rfl
  refine ⟨value', ?_, hnormal⟩
  unfold parse
  rw [write] at hread ⊢
  rw [hread]

/-- The library. -/
def jsonText : JsonCpp Empty where
  write := write
  parse := parse
  parse_write := parse_write

end Xrtc.Proofs.Sdk.JsonText
