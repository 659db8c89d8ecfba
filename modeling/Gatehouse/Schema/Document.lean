import Gatehouse.Json.Reader
import Gatehouse.Json.Writer
import Gatehouse.Schema.Shape
import Gatehouse.Text.Utf8

/- Documents: JSON text, as bytes, of a value of some shape. Text that cannot be read at all is one issue at the
   top; otherwise a report lists every issue of the value. -/
namespace Gatehouse

-- How deep containers with content may be nested in a document.
def nestingRoom : Nat := 200

def parseDocument (bytes : ByteArray) : Except Unit Json :=
  match Utf8.decode bytes with
  | .error _ => .error ()
  | .ok text =>
    match Json.read nestingRoom text with
    | .error _ => .error ()
    | .ok value => .ok value

def titled {α : Type} (title : String) : Checked α → Except Report α
  | .ok value => .ok value
  | .error issues => .error ⟨title, issues⟩

namespace Shape

def validate {α : Type} (shape : Shape α) (title : String) (value : Json) : Except Report α :=
  titled title (shape.read value)

def decode {α : Type} (shape : Shape α) (title : String) (bytes : ByteArray) : Except Report α :=
  match parseDocument bytes with
  | .error () => .error ⟨title, [.here .malformedText]⟩
  | .ok value => shape.validate title value

def encode {α : Type} (shape : Shape α) (value : α) : String := (shape.write value).text Json.compact

end Shape
end Gatehouse
