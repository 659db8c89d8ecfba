import Gatehouse.Text.Hex

/- Text as bytes. Bytes that are no text are told by the first place where decoding cannot go on: a byte that
   starts no character, one that does not continue the character begun, or the end within a character. -/
namespace Gatehouse.Utf8

inductive Reason where
  | badStart
  | badContinuation
  | unexpectedEnd
deriving DecidableEq

structure Failure where
  reason : Reason
  first : Nat
  count : Nat
  byte : UInt8
deriving DecidableEq

def isContinuation (byte : UInt8) : Bool := 0x80 ≤ byte && byte < 0xc0

-- The bytes that may follow this first byte, and how many continue the character.
def expected (lead : UInt8) : Option (UInt8 × UInt8 × Nat) :=
  if lead < 0xc2 then none
  else if lead < 0xe0 then some (0x80, 0xbf, 1)
  else if lead == 0xe0 then some (0xa0, 0xbf, 2)
  else if lead == 0xed then some (0x80, 0x9f, 2)
  else if lead < 0xf0 then some (0x80, 0xbf, 2)
  else if lead == 0xf0 then some (0x90, 0xbf, 3)
  else if lead < 0xf4 then some (0x80, 0xbf, 3)
  else if lead == 0xf4 then some (0x80, 0x8f, 3)
  else none

-- The rest of a character of which `count` bytes are read: what stops it, or nothing.
def continued (count : Nat) : Nat → List UInt8 → Option (Reason × Nat)
  | 0, _ => none
  | _ + 1, [] => some (.unexpectedEnd, count)
  | more + 1, byte :: rest =>
    if isContinuation byte then continued (count + 1) more rest else some (.badContinuation, count)

def stop? (lead : UInt8) (rest : List UInt8) : Option (Reason × Nat) :=
  match expected lead with
  | none => some (.badStart, 1)
  | some (low, high, more) =>
    match rest with
    | [] => some (.unexpectedEnd, 1)
    | second :: rest =>
      if second < low || high < second then some (.badContinuation, 1) else continued 2 (more - 1) rest

-- The first failure of bytes that are no text; `skip` bytes belong to a character already checked.
def diagnose (place skip : Nat) : List UInt8 → Failure
  | [] => ⟨.unexpectedEnd, place, 0, 0⟩
  | lead :: rest =>
    match skip with
    | skip + 1 => diagnose (place + 1) skip rest
    | 0 =>
      if lead < 0x80 then diagnose (place + 1) 0 rest
      else match stop? lead rest with
        | some (reason, count) => ⟨reason, place, count, lead⟩
        | none => diagnose (place + 1) (match expected lead with | some (_, _, more) => more | none => 0) rest

def decode (bytes : ByteArray) : Except Failure String :=
  match String.fromUTF8? bytes with
  | some text => .ok text
  | none => .error (diagnose 0 0 bytes.toList)

def encode (text : String) : ByteArray := text.toUTF8

def Reason.message : Reason → String
  | .badStart => "invalid start byte"
  | .badContinuation => "invalid continuation byte"
  | .unexpectedEnd => "unexpected end of data"

def Failure.message (failure : Failure) : String :=
  let span := if failure.count = 1 then
      "byte 0x" ++ String.ofList (Text.hex 2 failure.byte.toNat) ++ " in position " ++ toString failure.first
    else "bytes in position " ++ toString failure.first ++ "-" ++ toString (failure.first + failure.count - 1)
  "'utf-8' codec can't decode " ++ span ++ ": " ++ failure.reason.message

end Gatehouse.Utf8
