import Gatehouse.Policy.Ingress
import Gatehouse.Text.Blank
import Gatehouse.Text.Lower

/- Load balancers must be internal. Each cloud provider marks an internal load balancer by one annotation with one
   value; a Service of another type is never denied. -/
namespace Gatehouse

inductive CloudProvider where
  | gcp
  | azure
  | aws
  | openstack
deriving DecidableEq

namespace CloudProvider

def all : List CloudProvider := [.gcp, .azure, .aws, .openstack]

def name : CloudProvider → String
  | .gcp => "gcp"
  | .azure => "azure"
  | .aws => "aws"
  | .openstack => "openstack"

def memberName : CloudProvider → String
  | .gcp => "GCP"
  | .azure => "AZURE"
  | .aws => "AWS"
  | .openstack => "OPENSTACK"

-- A provider is named in letters of any case, with blanks around.
def parse? (text : String) : Option CloudProvider :=
  let name := String.ofList ((Text.trim text.toList).map Text.lower)
  all.find? fun provider => provider.name == name

-- The key and the value that mark an internal load balancer.
def marker : CloudProvider → String × String
  | .gcp => ("cloud.google.com/load-balancer-type", "Internal")
  | .azure => ("service.beta.kubernetes.io/azure-load-balancer-internal", "true")
  | .aws => ("service.beta.kubernetes.io/aws-load-balancer-internal", "0.0.0.0/0")
  | .openstack => ("service.beta.kubernetes.io/openstack-internal-load-balancer", "true")

end CloudProvider

-- A provider as it was configured: one of the known ones, or a value that is to name one.
inductive ProviderSetting where
  | known (provider : CloudProvider)
  | given (value : Json)

namespace ProviderSetting

def resolve : ProviderSetting → Except Misconfiguration CloudProvider
  | .known provider => .ok provider
  | .given value =>
    match CloudProvider.parse? value.plain with
    | some provider => .ok provider
    | none => .error (.unsupportedProvider value.plain)

def shown : ProviderSetting → String
  | .known provider => "<CloudProvider." ++ provider.memberName ++ ": '" ++ provider.name ++ "'>"
  | .given value => value.quotedText

end ProviderSetting

namespace Policy

def denyPublicLoadBalancers (ignored : Namespaces) (setting : ProviderSetting) : Decision := fun request => do
  let kind := request.kind.kind
  if kind != "Service" then return allowed denied
  else
    let service ← objectAs .service request
    if service.spec.type != some "LoadBalancer" then return allowed denied
    else
      let nameSpace := effectiveNamespace request service
      if ignored.contains nameSpace then return allowedWhitelisted nameSpace
      else
        match setting.resolve with
        | .error cause => Told.fail (.misconfigured cause)
        | .ok provider =>
          let (key, expected) := provider.marker
          let actual := lastOf service.annotations key
          if actual != some expected then
            let shown := match actual with
              | some value => Text.quoted value
              | none => "None"
            Told.tell .debug ("Service " ++ nameSpace ++ "/" ++ service.name ++ " has " ++ key ++ "=" ++ shown ++
              ", expected " ++ Text.quoted expected)
            Told.fail (.violation (.publicLoadBalancer kind key expected))
          else return allowed denied

-- Neither Ingresses nor public load balancers, in any namespace.
def denyPublicServices : Decision := fun request =>
  if request.kind.kind == "Ingress" then denyIngresses [] request
  else denyPublicLoadBalancers [] (.known .gcp) request

end Policy
end Gatehouse
