import Conveyor.Text.Basic

/-!
# Byte encodings of text

## Decoding UTF-8 bytes

Bytes decode to characters by UTF-8: a byte below `0x80` is itself; a lead byte
`0xC2`–`0xF4` opens a sequence of two to four bytes whose second byte lies in a
range fixed by the lead (so that no sequence is overlong, a surrogate or beyond
U+10FFFF) and whose further bytes are `0x80`–`0xBF`.

A refusal names the bytes at fault and why: an *invalid start byte* (one byte), an
*invalid continuation byte* (the lead and the good continuations before the bad
one), or an *unexpected end of data* (from the lead to the end).
-/

namespace Conveyor.Text

set_option autoImplicit false

/-- A sequence opened by a lead byte: how many bytes it has, the range of its second
byte, and the bits the lead contributes. -/
structure Utf8Lead where
  width : Nat
  low : Nat
  high : Nat
  bits : Nat

def utf8Lead (b : Nat) : Option Utf8Lead :=
  if 0xC2 ≤ b && b ≤ 0xDF then some ⟨2, 0x80, 0xBF, b - 0xC0⟩
  else if b == 0xE0 then some ⟨3, 0xA0, 0xBF, 0⟩
  else if b == 0xED then some ⟨3, 0x80, 0x9F, 0xD⟩
  else if 0xE1 ≤ b && b ≤ 0xEF then some ⟨3, 0x80, 0xBF, b - 0xE0⟩
  else if b == 0xF0 then some ⟨4, 0x90, 0xBF, 0⟩
  else if 0xF1 ≤ b && b ≤ 0xF3 then some ⟨4, 0x80, 0xBF, b - 0xF0⟩
  else if b == 0xF4 then some ⟨4, 0x80, 0x8F, 4⟩
  else none

def goodContinuations (lead : Utf8Lead) (rest : List Nat) : Nat :=
  go true (rest.take (lead.width - 1))
where
  go (first : Bool) : List Nat → Nat
    | [] => 0
    | b :: more =>
      let ok := if first then lead.low ≤ b && b ≤ lead.high else 0x80 ≤ b && b ≤ 0xBF
      if ok then go false more + 1 else 0

def byteHex (b : Nat) : String :=
  let digits := Nat.toDigits 16 b
  String.ofList (List.replicate (2 - digits.length) '0' ++ digits)

def utf8Refusal (first : Nat) (start stop : Nat) (reason : String) : String :=
  if start == stop then
    "'utf-8' codec can't decode byte 0x" ++ byteHex first ++ " in position " ++ toString start ++
      ": " ++ reason
  else
    "'utf-8' codec can't decode bytes in position " ++ toString start ++ "-" ++ toString stop ++
      ": " ++ reason

def decodeUtf8 (bytes : List Nat) : Except String String :=
  go 0 bytes []
where
  go (pos : Nat) (bytes : List Nat) (acc : List Char) : Except String String :=
    match bytes with
    | [] => .ok (String.ofList acc.reverse)
    | b :: rest =>
      if b < 0x80 then go (pos + 1) rest (Char.ofNat b :: acc)
      else
        match utf8Lead b with
        | none => .error (utf8Refusal b pos pos "invalid start byte")
        | some lead =>
          let good := goodContinuations lead rest
          if good + 1 == lead.width then
            let value := (rest.take good).foldl (fun v c => v * 64 + (c - 0x80)) lead.bits
            go (pos + lead.width) (rest.drop good) (Char.ofNat value :: acc)
          else if good == rest.length then
            .error (utf8Refusal b pos (pos + rest.length) "unexpected end of data")
          else .error (utf8Refusal b pos (pos + good) "invalid continuation byte")
  termination_by bytes.length
  decreasing_by all_goals simp only [List.length_cons, List.length_drop]; omega

end Conveyor.Text

/-!
## Reading base64 text

Binary data in a document is base64 text, read leniently: characters outside the
alphabet are skipped, and a pad `=` ends the data once it completes a group of four
(a pad after fewer than two characters of a group is skipped too). The data is
refused when its last group is left open: one character over a multiple of four is
no byte at all, two or three want their padding.

The text must be ASCII before it is read at all; a run of other characters is
refused at its place.
-/

namespace Conveyor.Text

set_option autoImplicit false

def sextet? (c : Char) : Option Nat :=
  if 'A' ≤ c && c ≤ 'Z' then some (c.toNat - 65)
  else if 'a' ≤ c && c ≤ 'z' then some (c.toNat - 71)
  else if c.isDigit then some (c.toNat + 4)
  else if c == '+' then some 62
  else if c == '/' then some 63
  else none

/-- Reads base64 text leniently into bytes, or says why it is refused. The walk keeps
the place in the current group of four, the pads seen since its last character, the
bits of the last character not yet in a byte, and the bytes made, last first. -/
def base64Bytes (cs : List Char) : Except String (List UInt8) :=
  go cs 0 0 0 []
where
  go : List Char → Nat → Nat → Nat → List UInt8 → Except String (List UInt8)
    | [], quad, _, _, out =>
      if quad == 0 then .ok out.reverse
      else if quad == 1 then
        .error ("Invalid base64-encoded string: number of data characters (" ++
          toString (out.length / 3 * 4 + 1) ++ ") cannot be 1 more than a multiple of 4")
      else .error "Incorrect padding"
    | '=' :: rest, quad, pads, left, out =>
      if quad ≥ 2 then
        if quad + pads + 1 ≥ 4 then .ok out.reverse else go rest quad (pads + 1) left out
      else go rest quad pads left out
    | c :: rest, quad, pads, left, out =>
      match sextet? c with
      | none => go rest quad pads left out
      | some v =>
        match quad with
        | 0 => go rest 1 0 v out
        | 1 => go rest 2 0 (v % 16) (UInt8.ofNat (left * 4 + v / 16) :: out)
        | 2 => go rest 3 0 (v % 4) (UInt8.ofNat (left * 16 + v / 4) :: out)
        | _ => go rest 0 0 0 (UInt8.ofNat (left * 64 + v) :: out)

def escapedCode (c : Char) : String :=
  let n := c.toNat
  if n ≤ 0xff then "\\x" ++ hexDigits n 2
  else if n ≤ 0xffff then "\\u" ++ hexDigits n 4
  else "\\U" ++ hexDigits n 8

/-- Why a text cannot be written in ASCII, if it cannot: the first run of characters
beyond ASCII and its place. -/
def asciiProblem? (s : String) : Option String :=
  let cs := s.toList
  let start := (cs.takeWhile fun c => c.toNat < 128).length
  match cs.drop start with
  | [] => none
  | c :: rest =>
    let width := 1 + (rest.takeWhile fun c => c.toNat ≥ 128).length
    let what := if width == 1 then "character '" ++ escapedCode c ++ "' in position " ++ toString start
      else "characters in position " ++ toString start ++ "-" ++ toString (start + width - 1)
    some ("'ascii' codec can't encode " ++ what ++ ": ordinal not in range(128)")

example : (base64Bytes "aGk=".toList).toOption = some [104, 105] := by decide
example : (base64Bytes "aGk".toList).toOption = none := by decide

end Conveyor.Text
