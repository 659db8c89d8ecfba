import Gatehouse.Json.Basic

/- One value laid over another. Where both are objects their members are laid over each other, those of the lower
   one first; anything else is covered. -/
namespace Gatehouse.Json

mutual

def overlay (low : Json) : Json → Json
  | .object members =>
    match low with
    | .object lower => .object (overlayMembers lower members)
    | _ => .object members
  | other => other

def overlayMembers (low : Members) : Members → Members
  | [] => low
  | (key, value) :: rest =>
    match lastOf low key with
    | some lower => overlayMembers (put low key (overlay lower value)) rest
    | none => overlayMembers (put low key value) rest

end

end Gatehouse.Json
