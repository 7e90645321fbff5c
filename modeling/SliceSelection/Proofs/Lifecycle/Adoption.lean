import SliceSelection.Lifecycle.Exchange
import SliceSelection.Proofs.Lifecycle.Addressing
import SliceSelection.Proofs.Registry.Location

/-!
# Adopted identities

The instance adopts the identity that it reads from the address of its new record. Such an identity
is read back from its own address, so it stays for as long as the registry names the address that
was asked, however often the instance is registered again.
-/

namespace SliceSelection.Lifecycle

open Registry

/-- A call of a history is answered with the address that it asked. -/
def ConfirmsAddress (history : List Moment) (h : Happening) : Prop :=
  ∃ k ∈ callsIn history, ∃ r : Http.Response,
    h = .event (.answer (k.answer (.ok r))) ∧ r.location = some k.request.uri

variable {s s₀ : System} {history : List Moment} {i j : Identity} {k : Call} {r : Http.Response}

lemma Call.uri_request (k : Call) : k.request.uri = k.identity.uri := by
  cases k <;> rfl

/-- An answer that gives an identity read it from the address it names. -/
lemma Call.location_of_created
    (h : (Happening.event (.answer (k.answer (.ok r)))).created? = some i) :
    ∃ uri, r.location = some uri ∧ Identity.ofUri? uri = some i := by
  cases k with
  | update | deregister => cases h
  | register =>
    simp only [Call.answer, RegisterOutcome.ofExchange] at h
    split_ifs at h with replaced made
    · cases h
    · split at h
      · cases h
      · next uri location =>
        split at h
        · cases h
        · next read =>
          cases h
          exact ⟨uri, location, read⟩
    · cases h

namespace Run

/-- A legible identity stays while the registry names the addresses that were asked. -/
lemma identity_of_confirmed (run : Run s₀ history s) (legible : s₀.self.identity.IsLegible)
    (confirmed : ∀ newer m older, history = newer ++ m :: older →
      m.happening.created?.isSome = true → ConfirmsAddress older m.happening) :
    s.self.identity = s₀.self.identity ∧
      ∀ k ∈ callsIn history, k.identity = s₀.self.identity := by
  induction run with
  | start => exact ⟨rfl, nofun⟩
  | @next history s s' h calls run step ih =>
    have change := Change.of_step step
    obtain ⟨e, rule⟩ := change.rule
    obtain ⟨identity, addressed⟩ := ih fun newer m older same =>
      confirmed (_ :: newer) m older (congrArg _ same)
    constructor
    · rw [change.identity, identity]
      cases created : h.created? with
      | none => rfl
      | some j =>
        obtain ⟨k, mem, r, rfl, location⟩ :=
          confirmed [] _ history rfl (Option.isSome_of_eq_some created)
        obtain ⟨uri, same, read⟩ := Call.location_of_created created
        obtain rfl := Option.some.inj (location.symm.trans same)
        rw [k.uri_request, addressed k mem, Identity.ofUri?_uri_iff.mpr legible] at read
        exact (Option.some.inj read).symm
    · intro k mem
      rw [callsIn_cons, List.mem_append] at mem
      rcases mem with mem | mem
      · exact (rule.identity_calls mem).trans identity
      · exact addressed k mem

end Run

/-- What holds of an identity and the addresses that it is read from. -/
structure Adoption (i : Identity) : Prop where
  readBack_iff : Identity.ofUri? i.uri = some i ↔ i.IsLegible
  legible : ∀ uri, Identity.ofUri? uri = some i → i.IsLegible
  /-- The address that it was read from begins with the base address and the marker, and ends with
  a slash and the identifier. -/
  bounds : ∀ uri, Identity.ofUri? uri = some i →
    (i.registry ++ "/nnrf-nfm/").toList <+: uri.toList ∧
      ("/" ++ i.instanceId).toList <:+ uri.toList
  readAgain : ∀ uri, Identity.ofUri? uri = some i → Identity.ofUri? i.uri = some i
  /-- A registration that was answered with its address gives it once more. -/
  confirmed : ∀ uri, Identity.ofUri? uri = some i → ∀ p r, r.status = 201 →
    r.location = some (Call.register i p).request.uri →
    (Call.register i p).answer (.ok r) = .register (.created (echoedProfile r) i)
  /-- It stays, and every call uses it, while new records are answered like this. -/
  stays : ∀ uri, Identity.ofUri? uri = some i → ∀ s₀ history s, s₀.self.identity = i →
    Run s₀ history s →
    (∀ newer m older, history = newer ++ m :: older → m.happening.created?.isSome = true →
      ConfirmsAddress older m.happening) →
    s.self.identity = i ∧ ∀ k ∈ callsIn history, k.identity = i

/-- Reading the identity of an address undoes writing the address of an identity. -/
theorem adoption (i : Identity) : Adoption i := by
  have again {uri : String} (read : Identity.ofUri? uri = some i) :
      Identity.ofUri? i.uri = some i :=
    Identity.ofUri?_uri_iff.mpr (Identity.isLegible_of_ofUri? read)
  constructor
  case readBack_iff => exact Identity.ofUri?_uri_iff
  case legible =>
    intro uri read
    exact Identity.isLegible_of_ofUri? read
  case bounds =>
    intro uri read
    exact ⟨Identity.prefix_of_ofUri? read, Identity.suffix_of_ofUri? read⟩
  case readAgain =>
    intro uri read
    exact again read
  case confirmed =>
    intro uri read p r made location
    have location : r.location = some i.uri := location
    simp [Call.answer, RegisterOutcome.ofExchange, made, location, again read]
  case stays =>
    rintro uri read s₀ history s rfl run confirmed
    exact run.identity_of_confirmed (Identity.isLegible_of_ofUri? read) confirmed

end SliceSelection.Lifecycle
