import Gatehouse.Policy.Basic

/- No Ingress may be deployed outside the exempt namespaces. -/
namespace Gatehouse.Policy

def denyIngresses (ignored : Namespaces) : Decision := fun request => do
  let kind := request.kind.kind
  if kind != "Ingress" then return allowed denied
  else
    let ingress ← objectAs .ingress request
    let nameSpace := effectiveNamespace request ingress
    if ignored.contains nameSpace then
      Told.tell .debug ("Allowing Ingress " ++ ingress.name ++ " in whitelisted namespace " ++ nameSpace)
      return allowedWhitelisted nameSpace
    else Told.fail (.violation (.ingress kind))

end Gatehouse.Policy
