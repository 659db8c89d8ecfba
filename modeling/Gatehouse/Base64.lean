/- Base64 text. The strict reader takes exactly the alphabet with its padding at the end; the lenient one skips
   what is not of the alphabet and stops where padding completes a group. -/
namespace Gatehouse.Base64

abbrev Bytes := List UInt8

def alphabet : List Char := "ABCDEFGHIJKLMNOPQRSTUVWXYZabcdefghijklmnopqrstuvwxyz0123456789+/".toList

def letter (value : Nat) : Char := alphabet.getD value '='

def value? (c : Char) : Option Nat := alphabet.idxOf? c

def encodeList : Bytes → List Char
  | [] => []
  | [a] => [letter (a.toNat / 4), letter (a.toNat % 4 * 16), '=', '=']
  | [a, b] =>
    [letter (a.toNat / 4), letter (a.toNat % 4 * 16 + b.toNat / 16), letter (b.toNat % 16 * 4), '=']
  | a :: b :: c :: rest =>
    letter (a.toNat / 4) :: letter (a.toNat % 4 * 16 + b.toNat / 16) ::
      letter (b.toNat % 16 * 4 + c.toNat / 64) :: letter (c.toNat % 64) :: encodeList rest

def encode (bytes : Bytes) : String := String.ofList (encodeList bytes)

inductive Failure where
  | notAscii
  | leadingPadding
  | excessData
  | brokenPadding
  | foreignCharacter
  | loneCharacter (count : Nat)
  | incompletePadding
deriving DecidableEq

def Failure.message : Failure → String
  | .notAscii => "string argument should contain only ASCII characters"
  | .leadingPadding => "Leading padding not allowed"
  | .excessData => "Excess data after padding"
  | .brokenPadding => "Discontinuous padding not allowed"
  | .foreignCharacter => "Only base64 data is allowed"
  | .loneCharacter count => "Invalid base64-encoded string: number of data characters (" ++ toString count ++
      ") cannot be 1 more than a multiple of 4"
  | .incompletePadding => "Incorrect padding"

-- Where a reader stands in a group of four: how many letters it has read and the bits not yet given out.
structure Group where
  letters : Nat
  bits : Nat
  pads : Nat
  padded : Bool

def Group.start : Group := ⟨0, 0, 0, false⟩

-- The next letter, and the byte that it completes.
def Group.push (group : Group) (value : Nat) : Group × Bytes :=
  match group.letters with
  | 0 => (⟨1, value, 0, group.padded⟩, [])
  | 1 => (⟨2, value % 16, 0, group.padded⟩, [UInt8.ofNat (group.bits * 4 + value / 16)])
  | 2 => (⟨3, value % 4, 0, group.padded⟩, [UInt8.ofNat (group.bits * 16 + value / 4)])
  | _ => (⟨0, 0, 0, group.padded⟩, [UInt8.ofNat (group.bits * 64 + value)])

def Group.finish (group : Group) (output : Bytes) : Except Failure Bytes :=
  match group.letters with
  | 0 => .ok output.reverse
  | 1 => .error (.loneCharacter (output.length / 3 * 4 + 1))
  | _ => .error .incompletePadding

-- Bytes read so far are kept with the last one first.
def decodeFrom (strict : Bool) (group : Group) (output : Bytes) : List Char → Except Failure Bytes
  | [] => group.finish output
  | c :: rest =>
    if c == '=' then
      let pads := group.pads + 1
      if 2 ≤ group.letters then
        if 4 ≤ group.letters + pads then
          if strict && !rest.isEmpty then .error .excessData else .ok output.reverse
        else decodeFrom strict { group with pads := pads, padded := true } output rest
      else decodeFrom strict { group with padded := true } output rest
    else match value? c with
      | none =>
        if strict then .error .foreignCharacter else decodeFrom strict group output rest
      | some value =>
        if strict && group.padded then .error .brokenPadding
        else
          let (next, bytes) := group.push value
          decodeFrom strict next (bytes ++ output) rest

def decodeList (strict : Bool) (text : List Char) : Except Failure Bytes :=
  if text.any fun c => 128 ≤ c.toNat then .error .notAscii
  else if strict && text.head? == some '=' then .error .leadingPadding
  else decodeFrom strict .start [] text

def decode (text : String) : Except Failure Bytes := decodeList true text.toList

def decodeLenient (text : String) : Except Failure Bytes := decodeList false text.toList

end Gatehouse.Base64
