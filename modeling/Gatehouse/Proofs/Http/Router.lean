import Gatehouse.Http.Router
import Mathlib.Data.List.Forall2
import Mathlib.Data.List.Nodup

/- A request is answered by the one route that has its path, whatever the other routes are. -/
namespace Gatehouse.Http

-- Two routes that cannot be told apart by what answers the request.
def Route.Alike (request : Request) (mine theirs : Route) : Prop :=
  mine.path = theirs.path ∧ (mine.path = request.path → mine = theirs)

namespace Router

section

variable (routes : Router) (request : Request) (route : Route)

theorem takes_path (takes : route.takes request = true) : route.path = request.path := by
  simp only [Route.takes, Bool.and_eq_true, beq_iff_eq] at takes
  exact takes.1

theorem find_alone (wanted : Route → Bool) (member : route ∈ routes) (holds : wanted route = true)
    (alone : ∀ other ∈ routes, wanted other = true → other = route) : routes.find? wanted = some route := by
  cases found : routes.find? wanted with
  | none => exact absurd holds (List.find?_eq_none.mp found route member)
  | some other =>
    exact congrArg some (alone other (List.mem_of_find?_eq_some found) (List.find?_some found))

theorem respond_alone (distinct : (routes.map Route.path).Nodup) (member : route ∈ routes)
    (path : route.path = request.path) :
    routes.respond request =
      if route.methods.contains request.method then route.respond request.delivery
      else pure (.notAllowed (sortedMethods route.methods)) := by
  have alone : ∀ other ∈ routes, other.path = request.path → other = route := fun other among same =>
    List.inj_on_of_nodup_map distinct among member (same.trans path.symm)
  cases takes : route.methods.contains request.method with
  | true =>
    have found : routes.find? (·.takes request) = some route := by
      refine find_alone routes route _ member ?_ fun other among holds => ?_
      · simp only [Route.takes, path, takes, beq_self_eq_true, Bool.and_self]
      · exact alone other among (takes_path request other holds)
    simp only [respond, found, if_true]
  | false =>
    have unfound : routes.find? (·.takes request) = none := by
      refine List.find?_eq_none.mpr fun other among holds => ?_
      have same := alone other among (takes_path request other holds)
      simp only [same, Route.takes, takes, Bool.and_false, Bool.false_eq_true] at holds
    have found : routes.find? (fun route => route.path == request.path) = some route := by
      refine find_alone routes route _ member (beq_iff_eq.mpr path) fun other among holds => ?_
      exact alone other among (beq_iff_eq.mp holds)
    simp only [respond, unfound, found, Bool.false_eq_true, if_false]

end

section

variable (mine theirs : Router) (request : Request) (alike : List.Forall₂ (Route.Alike request) mine theirs)

include alike

theorem find_alike (wanted : Route → Bool) (own : ∀ route, wanted route = true → route.path = request.path) :
    mine.find? wanted = theirs.find? wanted := by
  induction alike with
  | nil => rfl
  | @cons first other rest others same _ ih =>
    by_cases here : first.path = request.path
    · rw [same.2 here, List.find?_cons, List.find?_cons, ih]
    · have passes : wanted first = false := Bool.eq_false_iff.mpr fun holds => here (own first holds)
      have skips : wanted other = false :=
        Bool.eq_false_iff.mpr fun holds => here (same.1.trans (own other holds))
      rw [List.find?_cons_of_neg (by simp [passes]), List.find?_cons_of_neg (by simp [skips]), ih]

theorem hasPath_alike (path : String) : mine.hasPath path = theirs.hasPath path := by
  induction alike with
  | nil => rfl
  | cons same _ ih =>
    simp only [hasPath, List.any_cons, same.1] at ih ⊢
    rw [ih]

theorem handle_alike : mine.handle request = theirs.handle request := by
  have taken := find_alike mine theirs request alike (·.takes request) (takes_path request)
  have pathed := find_alike mine theirs request alike (fun route => route.path == request.path)
    fun _ => beq_iff_eq.mp
  have same : mine.respond request = theirs.respond request := by
    simp only [respond, taken, pathed, hasPath_alike mine theirs request alike]
  simp only [handle, same]

end

end Router
end Gatehouse.Http
