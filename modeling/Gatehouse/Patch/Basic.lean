import Gatehouse.Base64
import Gatehouse.Schema.Document

/- JSON patches. A response carries its patch as the base64 text of the patch document; a patch may be given as
   that text or as the list of its operations. -/
namespace Gatehouse

inductive PatchAction where
  | add
  | replace
  | remove
deriving DecidableEq

def PatchAction.name : PatchAction → String
  | .add => "add"
  | .replace => "replace"
  | .remove => "remove"

structure PatchOperation where
  action : PatchAction
  path : String
  -- Null stands for no value.
  value : Json

abbrev Patch := List PatchOperation

namespace Patch

def actionFormat : Format PatchAction := Format.named [.add, .replace, .remove] PatchAction.name

def operationShape : Shape PatchOperation :=
  .plain (.cons (.required "op") (.leaf actionFormat) <| .cons (.required "path") (.leaf Format.text) <|
      .cons (.default "value" .null) (.leaf Format.anything) .nil)
    (fun (action, path, value, ()) => ⟨action, path, value⟩)
    (fun operation => (operation.action, operation.path, operation.value, ()))

def shape : Shape Patch := .list operationShape

def title : String := "JSONPatch"

def document (patch : Patch) : String := shape.encode patch

def encode (patch : Patch) : String := Base64.encode (Utf8.encode patch.document).toList

-- Why a text is not the base64 text of a patch document.
inductive Refused where
  | base64 (failure : Base64.Failure)
  | document (report : Report)

def Refused.message : Refused → String
  | .base64 failure => failure.message
  | .document report => report.text

def ofText (text : String) : Except Refused Patch :=
  match Base64.decode text with
  | .error failure => .error (.base64 failure)
  | .ok bytes =>
    match shape.decode title ⟨bytes.toArray⟩ with
    | .error report => .error (.document report)
    | .ok patch => .ok patch

-- A text is kept as it was given when it is the base64 text of a patch document.
def checkText (text : String) : Checked (Option String) :=
  match ofText text with
  | .ok _ => .ok (some text)
  | .error refused => Checked.fault (.rejected ("patch is not a base64 encoded JSON patch: " ++ refused.message))

def readCarried : Json → Checked (Option String)
  | .null => .ok none
  | .string text => checkText text
  | .array items => (shape.read (.array items)).map fun patch => some patch.encode
  | _ => Checked.fault .notText

-- The same text given as bytes.
def checkBytes (bytes : ByteArray) : Checked (Option String) :=
  match Utf8.decode bytes with
  | .error failure => Checked.fault (.rejected failure.message)
  | .ok text => checkText text

def carried (read : Json → Checked (Option String)) : Format (Option String) where
  read := read
  write
    | none => .null
    | some text => .string text

end Patch
end Gatehouse
