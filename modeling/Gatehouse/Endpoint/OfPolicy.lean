import Gatehouse.Endpoint.Basic
import Gatehouse.Policy.Catalogue

/- Endpoints of the policies that come with the library. -/
namespace Gatehouse

def Policy.judge (codec : Codec) (policy : Policy) : Review → Told Refusal Verdict := fun review => do
  let response ← policy.decide codec (some review)
  return .response response

def Endpoint.ofPolicy (codec : Codec) (policy : Policy) (limit : Nat) : Endpoint :=
  ⟨policy.judge codec, policy.shown, limit⟩

end Gatehouse
