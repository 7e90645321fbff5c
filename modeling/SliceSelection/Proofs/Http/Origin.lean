import Mathlib.Tactic.Common
import SliceSelection.Http.Client

/-!
# Addresses that can be asked

A request is sent to its address only if the address names a scheme and an authority, has a path
that can be written, and is not too long. Otherwise it is refused before anything is sent, whoever
the peer is, and nothing but the address is ever the cause of that refusal.
-/

namespace SliceSelection.Http

namespace Uri

/-- Whom an address asks: the peer with an authority, by a scheme. -/
structure Origin where
  scheme : String
  authority : List Char
deriving DecidableEq, Repr

/-- The origin that a text names at its beginning, and what follows it. -/
def origin? (cs : List Char) : Option (Origin × List Char) :=
  match splitScheme cs with
  | .ok (some (scheme, behind)) =>
    match splitAuthority behind with
    | .ok ([], _) => none
    | .ok (authority, rest) => some (⟨scheme, authority⟩, rest)
    | .error _ => none
  | _ => none

/-- A request can be sent to an address. -/
def CanBeAsked (s : String) : Prop := ∃ u, parse s = .ok u ∧ u.isAbsolute = true

variable {cs : List Char} {s : String}

lemma splitScheme_slash : splitScheme ('/' :: cs) = .ok none := by
  have none : isSchemeChar '/' = false := by decide
  simp [splitScheme, sameLetters, none]

/-- A text that begins with a slash is at most a path. -/
lemma origin?_slash : origin? ('/' :: cs) = none := by
  rw [origin?, splitScheme_slash]

lemma parseAuthority_isAbsolute {u : Uri} (parsed : parseAuthority cs = .ok u) :
    u.isAbsolute = false := by
  unfold parseAuthority at parsed
  cases authority : splitAuthority cs with
  | error => simp [authority, bind, Except.bind] at parsed
  | ok found =>
    obtain ⟨authority', _ | ⟨c, rest⟩⟩ := found
    · simp [authority, bind, Except.bind, pure, Except.pure] at parsed
      rw [← parsed]
      rfl
    · simp [authority, bind, Except.bind] at parsed

lemma parseFull_iff :
    (∃ u, parseFull cs = .ok u ∧ u.isAbsolute = true) ↔
      ∃ o rest path, origin? cs = some (o, rest) ∧ parsePath rest = .ok path := by
  unfold parseFull origin?
  cases scheme : splitScheme cs with
  | error => simp [bind, Except.bind]
  | ok found =>
    rcases found with _ | ⟨name, behind⟩
    · refine iff_of_false ?_ (by simp)
      rintro ⟨u, parsed, absolute⟩
      exact Bool.false_ne_true ((parseAuthority_isAbsolute parsed).symm.trans absolute)
    · cases authority : splitAuthority behind with
      | error => simp [bind, Except.bind, authority]
      | ok found =>
        obtain ⟨_ | ⟨c, authority⟩, rest⟩ := found
        · simp [bind, Except.bind, authority]
        · cases path : parsePath rest <;>
            simp [bind, Except.bind, pure, Except.pure, authority, path, isAbsolute]

lemma canBeAsked_iff :
    CanBeAsked s ↔ s.utf8ByteSize ≤ maxBytes ∧
      ∃ o rest path, origin? s.toList = some (o, rest) ∧ parsePath rest = .ok path := by
  unfold CanBeAsked parse
  split
  · next long => simp [Nat.not_le_of_lt long]
  · next short =>
    rw [and_iff_right (Nat.le_of_not_lt short)]
    split
    · next empty =>
      have nothing : origin? [] = none := by decide
      simp [empty, nothing]
    · next star =>
      have nothing : origin? ['*'] = none := by decide
      simp [star, nothing, isAbsolute]
    · next cs slash =>
      rw [slash, origin?_slash]
      cases parsePath ('/' :: cs) <;> simp [Except.map, isAbsolute]
    · next => exact parseFull_iff

end Uri

/-! ### Sending -/

variable {r : Request}

lemma Request.address_of_canBeAsked (can : Uri.CanBeAsked r.uri) : ∃ u, r.address = .ok u := by
  obtain ⟨u, parsed, absolute⟩ := can
  refine ⟨u, ?_⟩
  rw [address, parsed]
  exact if_pos absolute

lemma Request.address_of_not_canBeAsked (cannot : ¬ Uri.CanBeAsked r.uri) :
    ∃ fault, r.address = .error (.invalidUri r.uri fault) := by
  unfold address
  cases parsed : Uri.parse r.uri with
  | error fault => exact ⟨some fault, rfl⟩
  | ok u => exact ⟨none, if_neg fun absolute => cannot ⟨u, parsed, absolute⟩⟩

/-- What is wrong with a request that can be sent to its address is something else. -/
lemma Request.check_ne_invalidUri {uri : String} {fault : Option UriFault}
    (can : Uri.CanBeAsked r.uri) : r.check ≠ .error (.invalidUri uri fault) := by
  obtain ⟨u, address⟩ := address_of_canBeAsked can
  unfold check Method.ofText
  rw [address]
  cases Method.all.find? (·.name == Text.uppercase r.method) with
  | none => simp [bind, Except.bind]
  | some m =>
    simp only [bind, Except.bind]
    split <;> [skip; split] <;> simp [throw, throwThe, MonadExceptOf.throw, pure, Except.pure]

lemma Reply.toResponse_ne_invalidUri {reply : Reply} {uri : String} {fault : Option UriFault} :
    reply.toResponse ≠ .error (.invalidUri uri fault) := by
  cases reply with
  | broken | silent | truncated => simp [toResponse]
  | answer a =>
    have body : a.readBody ≠ .error (.invalidUri uri fault) := by
      unfold Answer.readBody
      split <;> [skip; split] <;> simp
    cases read : a.readBody with
    | error e =>
      rw [toResponse, read]
      rintro ⟨⟩
      exact body read
    | ok content =>
      rw [toResponse, read]
      exact nofun

lemma Request.check_eq {u : Uri} {m : Method} (address : r.address = .ok u)
    (method : Method.ofText r.method = .ok m)
    (names : r.headers.toList.all (isHeaderName ·.1) = true)
    (values : r.headers.toList.all (isHeaderValue ·.2) = true) :
    r.check = .ok ⟨m, u, r.headers, r.content.getD ""⟩ := by
  simp [check, address, method, names, values, bind, Except.bind, pure, Except.pure]

lemma send_of_address_error {peer : Outgoing → Reply} {e : Error} (wrong : r.address = .error e) :
    send peer r = .error e := by
  unfold send Request.check
  rw [wrong]
  rfl

/-- Whoever the peer is, a request is refused for its address if it can not be sent there. -/
lemma send_refused_iff {peer : Outgoing → Reply} :
    (∃ fault, send peer r = .error (.invalidUri r.uri fault)) ↔ ¬ Uri.CanBeAsked r.uri := by
  constructor
  · rintro ⟨fault, refused⟩ can
    unfold send at refused
    cases checked : r.check with
    | error e =>
      rw [checked] at refused
      cases refused
      exact Request.check_ne_invalidUri can checked
    | ok out =>
      rw [checked] at refused
      exact Reply.toResponse_ne_invalidUri refused
  · intro cannot
    obtain ⟨fault, wrong⟩ := Request.address_of_not_canBeAsked cannot
    exact ⟨fault, send_of_address_error wrong⟩

end SliceSelection.Http
