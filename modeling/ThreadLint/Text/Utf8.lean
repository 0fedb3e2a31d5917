import ThreadLint.Text.Quoted

/-!
This module contains the decoding of UTF-8, and what is wrong with bytes that are no text.
-/

namespace ThreadLint.Text

/--
Why bytes stand for no character.
-/
inductive DecodingReason where
  | badStart
  | badContinuation
  | endOfData
  deriving DecidableEq, Repr, Inhabited

/--
The first bytes that stand for no character: where they begin, their number, and the first of them.
-/
structure DecodingProblem where
  start : Nat
  count : Nat
  lead : UInt8
  reason : DecodingReason
  deriving DecidableEq, Repr, Inhabited

/--
The wording of a reason.
-/
def DecodingReason.message : DecodingReason → String
  | badStart => "invalid start byte"
  | badContinuation => "invalid continuation byte"
  | endOfData => "unexpected end of data"

/--
The wording of a decoding problem.
-/
def DecodingProblem.message (problem : DecodingProblem) : String :=
  let bytes :=
    if problem.count = 1 then
      "byte 0x" ++ hexadecimal 2 problem.lead.toNat ++ " in position " ++ toString problem.start
    else
      "bytes in position " ++ toString problem.start ++ "-" ++
        toString (problem.start + problem.count - 1)
  "'utf-8' codec can't decode " ++ bytes ++ ": " ++ problem.reason.message

/--
What has to follow the first byte of a character: so many bytes more, the first of them in a range.
The ranges leave out numbers that would fit into fewer bytes and those that are no code points.
-/
structure Continuation where
  count : Nat
  low : Nat
  high : Nat

/--
What has to follow a first byte, unless no character begins with it.
-/
def continuation? (lead : Nat) : Option Continuation :=
  if lead < 0x80 then some ⟨0, 0x80, 0xbf⟩
  else if lead < 0xc2 then none
  else if lead < 0xe0 then some ⟨1, 0x80, 0xbf⟩
  else if lead = 0xe0 then some ⟨2, 0xa0, 0xbf⟩
  else if lead = 0xed then some ⟨2, 0x80, 0x9f⟩
  else if lead < 0xf0 then some ⟨2, 0x80, 0xbf⟩
  else if lead = 0xf0 then some ⟨3, 0x90, 0xbf⟩
  else if lead < 0xf4 then some ⟨3, 0x80, 0xbf⟩
  else if lead = 0xf4 then some ⟨3, 0x80, 0x8f⟩
  else none

namespace Continuation

/--
The bytes at the beginning that may follow, no more of them than have to.
-/
def fitting (expected : Continuation) (bytes : List UInt8) : List UInt8 :=
  let isIn (low high : Nat) (byte : UInt8) : Bool := low ≤ byte.toNat && byte.toNat ≤ high
  match bytes.take expected.count with
  | [] => []
  | first :: others =>
    if isIn expected.low expected.high first then first :: others.takeWhile (isIn 0x80 0xbf) else []

/--
The character that a first byte stands for with those that follow it.
-/
def char (expected : Continuation) (lead : UInt8) (bytes : List UInt8) : Char :=
  let front := match expected.count with
    | 0 => lead.toNat
    | 1 => lead.toNat - 0xc0
    | 2 => lead.toNat - 0xe0
    | _ => lead.toNat - 0xf0
  Char.ofNat (bytes.foldl (fun n byte => 64 * n + (byte.toNat - 0x80)) front)

end Continuation

/--
The characters that bytes stand for, behind those that are already read in reverse.
-/
def decodeFrom (start : Nat) (read : List Char) (bytes : List UInt8) :
    Except DecodingProblem (List Char) :=
  match bytes with
  | [] => .ok read.reverse
  | lead :: rest =>
    match continuation? lead.toNat with
    | none => .error ⟨start, 1, lead, .badStart⟩
    | some expected =>
      let following := expected.fitting rest
      if following.length = expected.count then
        decodeFrom (start + expected.count + 1) (expected.char lead following :: read)
          (rest.drop expected.count)
      else
        let reason := if following.length = rest.length then .endOfData else .badContinuation
        .error ⟨start, following.length + 1, lead, reason⟩
termination_by bytes.length
decreasing_by simp only [List.length_drop, List.length_cons]; omega

/--
The text that bytes stand for.
-/
def decode (bytes : ByteArray) : Except DecodingProblem String :=
  (decodeFrom 0 [] bytes.toList).map String.ofList

/--
The bytes of a text.
-/
def encode (text : String) : ByteArray :=
  text.toUTF8

end ThreadLint.Text
