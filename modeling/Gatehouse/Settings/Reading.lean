import Gatehouse.Policy.Catalogue
import Gatehouse.Schema.Number
import Gatehouse.Settings.Machine

/- Readings of single settings. A reading gives a value or issues, unless it breaks down. -/
namespace Gatehouse

abbrev Attempt (α : Type) := Except Breakdown (Checked α)

namespace Attempt

def issue {α : Type} (fault : Fault) : Attempt α := .ok (Checked.fault fault)

def under {α : Type} (name : String) : Attempt α → Attempt α
  | .ok checked => .ok (checked.under (.key name))
  | .error cause => .error cause

-- The issues of both; the first breakdown ends the reading.
def both {α β : Type} : Attempt α → Attempt β → Attempt (α × β)
  | .error cause, _ => .error cause
  | .ok _, .error cause => .error cause
  | .ok left, .ok right => .ok (Checked.both left right)

-- Reads one item after the other; the first that is not right decides.
def each {α β : Type} (read : α → Attempt β) : List α → Attempt (List β)
  | [] => .ok (.ok [])
  | item :: rest =>
    match read item with
    | .ok (.ok first) =>
      match each read rest with
      | .ok (.ok others) => .ok (.ok (first :: others))
      | other => other
    | .ok (.error issues) => .ok (.error issues)
    | .error cause => .error cause

-- A setting that no source has keeps its default.
def setting {α : Type} (members : Members) (name : String) (absent : α) (read : Json → Attempt α) : Attempt α :=
  match lastOf members name with
  | some value => (read value).under name
  | none => .ok (.ok absent)

end Attempt

structure Port where
  number : Int
  lowest : 1 ≤ number
  highest : number ≤ 65535

def Port.read (value : Json) : Attempt Port :=
  match Format.integer.read value with
  | .error issues => .ok (.error issues)
  | .ok number =>
    if lowest : 1 ≤ number then
      if highest : number ≤ 65535 then .ok (.ok ⟨number, lowest, highest⟩) else .issue .aboveMaximum
    else .issue .belowMinimum

-- The size that the body of a request may have.
structure ByteLimit where
  bytes : Int
  positive : 0 < bytes

def ByteLimit.read (value : Json) : Attempt ByteLimit :=
  match Format.integer.read value with
  | .error issues => .ok (.error issues)
  | .ok bytes => if positive : 0 < bytes then .ok (.ok ⟨bytes, positive⟩) else .issue .notAbove

-- How many seconds open requests have to finish.
structure GracePeriod where
  seconds : Binary64
  positive : seconds.isPositive

def GracePeriod.read (value : Json) : Attempt GracePeriod :=
  match Format.number.read value with
  | .error issues => .ok (.error issues)
  | .ok seconds => if positive : seconds.isPositive then .ok (.ok ⟨seconds, positive⟩) else .issue .notAbove

def Path.read (directory : Directory) : Json → Attempt (Option Path)
  | .null => .ok (.ok none)
  | .string text =>
    let path := Path.ofText text
    match directory.lookup path with
    | .present => .ok (.ok (some path))
    | .absent => .issue (.rejected ("Path does not exist: " ++ path.text))
    | .nameTooLong => .error (.nameTooLong path)
    | .refused => .error (.accessRefused path)
  | _ => .issue .notPath

/- Namespaces -/

-- The names in a text: what stands between its commas without the blanks around, where that is not empty.
def namesOf (text : List Char) : List (List Char) :=
  ((Text.split ',' text).map Text.trim).filter fun name => !name.isEmpty

def readNames : Json → Attempt (List String)
  | .string text => .ok (.ok ((namesOf text.toList).map String.ofList))
  | .array items =>
    .ok (Checked.all (items.mapIdx fun place item => (Format.text.read item).under (.index place)))
  | _ => .issue .notList

def CloudProvider.read (value : Json) : Attempt CloudProvider :=
  match (ProviderSetting.given value).resolve with
  | .ok provider => .ok (.ok provider)
  | .error cause => .issue (.rejected cause.message)

/- Required annotations -/

-- What compiling the pattern of an annotation comes to, whose failure `shown` tells.
def Pattern.checked (key : String) (shown : PatternText.Invalid → String) :
    Except (Halt PatternText.Invalid) Pattern → Attempt Pattern
  | .ok pattern => .ok (.ok pattern)
  | .error (.exhausted message) => .error (.exhausted message)
  | .error (.failed .repeatTooLarge) => .error .repeatTooLarge
  | .error (.failed (.flawed flaw place)) =>
    .issue (.rejected ("Invalid pattern for annotation " ++ key ++ ": " ++ shown (.flawed flaw place)))
  | .error (.failed invalid) => .issue (.rejected (shown invalid))

-- A text as it is kept: of characters throughout.
def keptText (text : String) : Checked String := if Json.isWhole text then .ok text else Checked.fault .notUnicode

-- The key and the text of an annotation, as they are kept.
def keptEntry (key : String) (text : Checked String) : Checked (String × String) :=
  (Checked.both ((keptText key).under (.key "[key]")) text).under (.key key)

-- An annotation that Pods must carry: its whole value is to match the pattern.
structure RequiredAnnotation where
  key : String
  text : String
  pattern : Pattern

namespace RequiredAnnotation

section

variable (machine : Machine)

def check : String × Json → Attempt RequiredAnnotation
  | (key, .string text) =>
    (Pattern.checked key (·.message text) (machine.compile .check text)).map fun checked =>
      checked.map fun pattern => ⟨key, text, pattern⟩
  | (_, value) => .error (.notPattern value)

def kept (required : RequiredAnnotation) : Checked RequiredAnnotation :=
  (keptEntry required.key (keptText required.text)).map fun (key, text) => ⟨key, text, required.pattern⟩

-- All patterns are compiled before any text is kept.
def ofMembers (members : Members) : Attempt (List RequiredAnnotation) :=
  (Attempt.each (check machine) members).map fun checked => checked.bind fun all => Checked.all (all.map kept)

def ofValue : Json → Attempt (List RequiredAnnotation)
  | .object members => ofMembers machine members
  | value => .error (.notMembers value)

-- A text holds the annotations as JSON; a blank one holds none.
def readAll : Json → Attempt (List RequiredAnnotation)
  | .string text =>
    if (Text.trim text.toList).isEmpty then .ok (.ok [])
    else
      match machine.decode .annotations text with
      | .ok value => ofValue machine value.collapsed
      | .error (.exhausted message) => .error (.exhausted message)
      | .error (.failed failure) => .issue (.rejected (failure.message text))
  | value => ofValue machine value

end

end RequiredAnnotation
end Gatehouse
