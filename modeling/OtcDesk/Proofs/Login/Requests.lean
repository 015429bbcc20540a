import OtcDesk.Proofs.Backend.Requests
import OtcDesk.Proofs.Login.Interleaving
import OtcDesk.Submission

namespace OtcDesk

/-- A request goes out on its errand, by what the store yields and a clock reads then. -/
structure Request.KeepsTo (request : Request) (base : String) (store : SessionStore)
    (clock : Option Clock) (errand : Errand) : Prop where
  address : ∀ other : Errand, request.url = base ++ other.path ↔ other = errand
  openly : errand.isOpen = true → request.authorization? = none
  stored : errand.isOpen = false → ∃ stored, store.load.value = .ok stored ∧
    request.authorization? = bearer? (stored.map (·.accessToken))
  trade : errand = .trade → request.authorization? ≠ none
  live : errand = .identity ∨ errand = .trade → ∃ session reading,
    store.load.value = .ok (some session) ∧ clock = some reading ∧
      isExpired session.expiresAt reading = .ok false

/-- All requests made since went out by the store and the clock. -/
def Remote.MakesBy (before after : Remote) (store : SessionStore) (clock : Option Clock) : Prop :=
  ∃ made, before.Makes after made ∧
    ∀ request ∈ made, ∃ errand, request.KeepsTo before.baseUrl store clock errand

namespace Remote

variable {remote after : Remote} {store : SessionStore} {clock : Option Clock}

theorem MakesBy.none (same : after = remote) : remote.MakesBy after store clock :=
  ⟨[], same ▸ .refl remote, by simp⟩

theorem MakesBy.one {request : Request} {errand : Errand} (makes : remote.Makes after [request])
    (keeps : request.KeepsTo remote.baseUrl store clock errand) :
    remote.MakesBy after store clock := by
  refine ⟨[request], makes, ?_⟩
  intro other member
  rw [List.mem_singleton.mp member]
  exact ⟨errand, keeps⟩

end Remote

namespace LoginTraffic

end LoginTraffic

namespace Submission

end Submission

end OtcDesk
