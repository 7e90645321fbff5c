import SliceSelection.Proofs.Http.Origin
import SliceSelection.Proofs.Registry.Location

/-!
# Identities that can be asked

The registry names the address of a new record, and the instance goes on under the identity that is
read from it. Whom its address asks is decided in front of the marker, so it is whom the address of
the record asked: a record that is named by a path alone gives an identity that nobody can be asked
for.
-/

namespace SliceSelection

/-! ### Texts that agree up to the marker -/

namespace Http.Uri

open Registry.Identity (marker)

variable {p : Char → Bool} {c : Char} {front behind base rest : List Char}

lemma takeWhile_append_of_mem (mem : c ∈ front) (stops : p c = false) :
    (front ++ behind).takeWhile p = front.takeWhile p := by
  induction front with
  | nil => cases mem
  | cons d front ih =>
    rw [List.cons_append, List.takeWhile_cons, List.takeWhile_cons]
    split
    · next goes =>
      have other : c ≠ d := by
        rintro rfl
        exact Bool.false_ne_true (stops.symm.trans goes)
      rw [ih ((List.mem_cons.mp mem).resolve_left other)]
    · rfl

lemma dropWhile_append_of_mem (mem : c ∈ front) (stops : p c = false) :
    (front ++ behind).dropWhile p = front.dropWhile p ++ behind := by
  have begins : (front ++ behind).takeWhile p = front.takeWhile p :=
    takeWhile_append_of_mem mem stops
  apply List.append_cancel_left
  calc front.takeWhile p ++ (front ++ behind).dropWhile p
      = (front ++ behind).takeWhile p ++ (front ++ behind).dropWhile p := by rw [begins]
    _ = front ++ behind := List.takeWhile_append_dropWhile
    _ = front.takeWhile p ++ front.dropWhile p ++ behind := by
      rw [List.takeWhile_append_dropWhile]
    _ = front.takeWhile p ++ (front.dropWhile p ++ behind) := List.append_assoc ..

lemma splitAuthority_append (slash : '/' ∈ front) :
    splitAuthority (front ++ behind) =
      (splitAuthority front).map fun split => (split.1, split.2 ++ behind) := by
  have ends : (!endsAuthority '/') = false := by decide
  unfold splitAuthority
  rw [takeWhile_append_of_mem slash ends, dropWhile_append_of_mem slash ends]
  cases scanned : (front.takeWhile (!endsAuthority ·)).foldlM AuthorityScan.step .start with
  | error e => simp [scanned, bind, Except.bind, Except.map]
  | ok scan =>
    simp only [scanned, bind, Except.bind]
    split <;> rfl

lemma splitScheme_eq (cs : List Char) :
    splitScheme cs =
      if sameLetters (cs.take 7) "http://".toList then .ok (some ("http", cs.drop 7))
      else if sameLetters (cs.take 8) "https://".toList then .ok (some ("https", cs.drop 8))
      else if "://".toList <+: cs.dropWhile isSchemeChar then
        if cs.length ≤ 3 then .ok none
        else if maxScheme < (cs.takeWhile isSchemeChar).length then .error .schemeTooLong
        else .ok (some (String.ofList (cs.takeWhile isSchemeChar),
          (cs.dropWhile isSchemeChar).drop 3))
      else .ok none := by
  unfold splitScheme
  generalize cs.dropWhile isSchemeChar = rest
  simp only
  congr 2
  split
  · next rest => simp
  · next other =>
    refine (if_neg ?_).symm
    rintro ⟨rest, rfl⟩
    exact other rest rfl

lemma splitScheme_suffix {cs : List Char} {scheme : String}
    (split : splitScheme cs = .ok (some (scheme, rest))) : rest <:+ cs := by
  rw [splitScheme_eq] at split
  split_ifs at split <;> cases split
  · exact List.drop_suffix ..
  · exact List.drop_suffix ..
  · exact (List.drop_suffix ..).trans (List.dropWhile_suffix _)

lemma splitAuthority_suffix {cs authority : List Char}
    (split : splitAuthority cs = .ok (authority, rest)) : rest <:+ cs := by
  unfold splitAuthority at split
  simp only [bind, Except.bind] at split
  split at split
  · cases split
  · split at split
    · cases split
      exact List.dropWhile_suffix _
    · cases split

/-- What follows the origin is the end of the text. -/
lemma origin?_suffix {cs : List Char} {o : Origin} (named : origin? cs = some (o, rest)) :
    rest <:+ cs := by
  unfold origin? at named
  split at named
  · next scheme =>
    split at named
    · cases named
    · next authority =>
      cases named
      exact (splitAuthority_suffix authority).trans (splitScheme_suffix scheme)
    · cases named
  · cases named

section Marked

lemma slash_mem_drop {n : Nat} (few : n ≤ 8) : '/' ∈ (base ++ marker.toList).drop n := by
  have within : ∀ k ≤ 8, '/' ∈ marker.toList.drop k := by decide
  rw [List.drop_append]
  exact List.mem_append_right _ (within _ (by omega))

lemma exists_dropWhile_eq (base : List Char) :
    ∃ base', (base ++ marker.toList).dropWhile isSchemeChar = base' ++ marker.toList := by
  have kept : marker.toList.dropWhile isSchemeChar = marker.toList := by decide
  rw [List.dropWhile_append, kept]
  split
  · exact ⟨[], rfl⟩
  · exact ⟨_, rfl⟩

lemma prefix_append_iff {needle : List Char} (short : needle.length ≤ front.length) :
    needle <+: front ++ behind ↔ needle <+: front :=
  ⟨fun starts => List.prefix_of_prefix_length_le starts (List.prefix_append ..) short,
    fun starts => starts.trans (List.prefix_append ..)⟩

/-- Whether a text names a scheme shows in front of the marker, and so does which one. -/
lemma splitScheme_append :
    splitScheme (base ++ marker.toList ++ behind) =
      (splitScheme (base ++ marker.toList)).map
        (·.map fun split => (split.1, split.2 ++ behind)) := by
  obtain ⟨base', behindScheme⟩ := exists_dropWhile_eq base
  have slash : '/' ∈ base ++ marker.toList := List.mem_append_right _ (by decide)
  have stops : isSchemeChar '/' = false := by decide
  have long : 10 ≤ (base ++ marker.toList).length := by simp [marker]
  have long' : 10 ≤ (base' ++ marker.toList).length := by simp [marker]
  generalize base ++ marker.toList = front at *
  have length : ¬ front.length ≤ 3 := by omega
  have length' : ¬ (front ++ behind).length ≤ 3 := by
    rw [List.length_append]
    omega
  have take {n : Nat} (few : n ≤ 10) : (front ++ behind).take n = front.take n :=
    List.take_append_of_le_length (few.trans long)
  have drop {n : Nat} (few : n ≤ 10) : (front ++ behind).drop n = front.drop n ++ behind :=
    List.drop_append_of_le_length (few.trans long)
  have drop' : (base' ++ marker.toList ++ behind).drop 3 =
      (base' ++ marker.toList).drop 3 ++ behind :=
    List.drop_append_of_le_length (by omega)
  have starts : "://".toList <+: base' ++ marker.toList ++ behind ↔
      "://".toList <+: base' ++ marker.toList := prefix_append_iff (le_trans (by decide) long')
  rw [splitScheme_eq, splitScheme_eq, take (by decide), take (by decide), drop (by decide),
    drop (by decide), takeWhile_append_of_mem slash stops, dropWhile_append_of_mem slash stops,
    behindScheme, drop', if_neg length, if_neg length']
  simp only [starts]
  split_ifs <;> rfl

/-- Behind the scheme the marker is still found. -/
lemma slash_mem_of_splitScheme {scheme : String}
    (split : splitScheme (base ++ marker.toList) = .ok (some (scheme, rest))) : '/' ∈ rest := by
  obtain ⟨base', behindScheme⟩ := exists_dropWhile_eq base
  rw [splitScheme_eq, behindScheme] at split
  split_ifs at split <;> cases split <;> exact slash_mem_drop (by decide)

lemma origin?_append :
    origin? (base ++ marker.toList ++ behind) =
      (origin? (base ++ marker.toList)).map fun found => (found.1, found.2 ++ behind) := by
  unfold origin?
  rw [splitScheme_append]
  cases scheme : splitScheme (base ++ marker.toList) with
  | error => rfl
  | ok found =>
    rcases found with _ | ⟨name, rest⟩
    · rfl
    · simp only [Except.map, Option.map]
      rw [splitAuthority_append (slash_mem_of_splitScheme scheme)]
      cases splitAuthority rest with
      | error => rfl
      | ok split =>
        obtain ⟨_ | ⟨c, authority⟩, path⟩ := split <;> rfl

end Marked

/-! ### Paths -/

/-- The path behind the origin of an address can be written. -/
def HasPath (s : String) : Prop :=
  ∀ o rest, origin? s.toList = some (o, rest) → ∃ path, parsePath rest = .ok path

variable {s : String}

lemma canBeAsked_iff_hasPath :
    CanBeAsked s ↔ (origin? s.toList).isSome ∧ HasPath s ∧ s.utf8ByteSize ≤ maxBytes := by
  rw [canBeAsked_iff]
  cases named : origin? s.toList with
  | none => simp
  | some found =>
    obtain ⟨o, rest⟩ := found
    simp [HasPath, named, and_comm]

/-- A path without query and fragment can be written if every character may stand in it. -/
lemma parsePath_iff {cs : List Char} (unasked : '?' ∉ cs) (whole : '#' ∉ cs) :
    (∃ path, parsePath cs = .ok path) ↔ cs.all isPathChar = true := by
  have goes : ∀ c ∈ cs, (c != '?' && c != '#') = true := by
    intro c mem
    rw [Bool.and_eq_true, bne_iff_ne, bne_iff_ne]
    exact ⟨fun same => unasked (same ▸ mem), fun same => whole (same ▸ mem)⟩
  have path : cs.takeWhile (fun c => c != '?' && c != '#') = cs :=
    List.takeWhile_eq_self_iff.mpr goes
  have query : cs.dropWhile (fun c => c != '?' && c != '#') = [] :=
    List.dropWhile_eq_nil_iff.mpr goes
  unfold parsePath
  rw [path, query]
  cases fits : cs.all isPathChar <;> simp [fits]

lemma exists_parsePath {cs : List Char} (fits : cs.all isPathChar = true) :
    ∃ path, parsePath cs = .ok path := by
  have stands : ∀ c ∈ cs, isPathChar c = true := List.all_eq_true.mp fits
  have unasked : '?' ∉ cs := fun mem => absurd (stands _ mem) (by decide)
  have whole : '#' ∉ cs := fun mem => absurd (stands _ mem) (by decide)
  exact (parsePath_iff unasked whole).mpr fits

end Http.Uri

/-! ### Adopted identities -/

namespace Registry.Identity

open Http.Uri

variable {i : Identity} {location : String}

/-- An identity can be asked for something: its address is one that a request can be sent to. -/
def CanBeAsked (i : Identity) : Prop := Http.Uri.CanBeAsked i.uri

/-- Whom the address of an adopted identity asks is whom the address asked that it was read from. -/
lemma origin?_uri (read : ofUri? location = some i) :
    (origin? i.uri.toList).map Prod.fst = (origin? location.toList).map Prod.fst := by
  obtain ⟨behind, whole⟩ := Text.append_prefix_of_before? (ofUri?_eq_some_iff.mp read).1
  rw [toList_uri, ← List.append_assoc, ← whole, origin?_append, origin?_append, Option.map_map,
    Option.map_map]
  rfl

/-- An adopted identity can be asked if and only if the address of the record names a scheme and an
authority, and the address of the identity has a path and is not too long. -/
lemma canBeAsked_iff (read : ofUri? location = some i) :
    i.CanBeAsked ↔ (origin? location.toList).isSome ∧ HasPath i.uri ∧
      i.uri.utf8ByteSize ≤ maxBytes := by
  have same := congrArg Option.isSome (origin?_uri read)
  rw [Option.isSome_map, Option.isSome_map] at same
  rw [CanBeAsked, canBeAsked_iff_hasPath, same]

/-- A record that is named by a path alone gives an identity that nobody can be asked for. -/
lemma not_canBeAsked_of_slash (read : ofUri? location = some i)
    (slash : location.toList.head? = some '/') : ¬ i.CanBeAsked := by
  rw [canBeAsked_iff read]
  cases cs : location.toList with
  | nil => simp [cs] at slash
  | cons c cs' =>
    rw [cs] at slash
    cases slash
    simp [origin?_slash]

/-- The identifier stands behind the marker. -/
lemma subset_of_ofUri? {back : List Char} (read : ofUri? location = some i)
    (whole : location.toList = i.registry.toList ++ marker.toList ++ back) :
    i.instanceId.toList ⊆ back := by
  obtain ⟨-, last, -⟩ := ofUri?_eq_some_iff.mp read
  have undivided : '/' ∉ i.instanceId.toList := last ▸ Text.not_mem_afterLast
  have ends : '/' :: i.instanceId.toList <:+ location.toList := by
    simpa using suffix_of_ofUri? read
  have ends' : '/' :: back <:+ location.toList :=
    ⟨i.registry.toList ++ "/nnrf-nfm".toList, by rw [whole]; simp [marker]⟩
  rcases List.suffix_or_suffix_of_suffix ends ends' with within | within
  · rcases List.suffix_cons_iff.mp within with same | within
    · exact (List.cons.inj same).2 ▸ List.Subset.refl _
    · exact fun c mem => within.subset (List.mem_cons_of_mem _ mem)
  · rcases List.suffix_cons_iff.mp within with same | within
    · exact (List.cons.inj same).2 ▸ List.Subset.refl _
    · exact absurd (within.subset List.mem_cons_self) undivided

/-- A record whose address can be asked itself, without a query and a fragment, gives an identity
that can be asked, unless its address is too long. -/
lemma canBeAsked_of_location (read : ofUri? location = some i)
    (can : Http.Uri.CanBeAsked location) (unasked : '?' ∉ location.toList)
    (unmarked : '#' ∉ location.toList) (short : i.uri.utf8ByteSize ≤ maxBytes) : i.CanBeAsked := by
  obtain ⟨back, whole⟩ := Text.append_prefix_of_before? (ofUri?_eq_some_iff.mp read).1
  obtain ⟨named, path, -⟩ := canBeAsked_iff_hasPath.mp can
  refine (canBeAsked_iff read).mpr ⟨named, ?_, short⟩
  have identifier : i.instanceId.toList ⊆ back := subset_of_ofUri? read whole.symm
  rintro o rest found
  rw [toList_uri, ← List.append_assoc, origin?_append, Option.map_eq_some_iff] at found
  obtain ⟨⟨o, between⟩, found, same⟩ := found
  cases same
  -- The address of the record has the same path up to the marker, and there it can be written.
  have found' : origin? location.toList = some (o, between ++ back) := by
    rw [← whole, origin?_append, found]
    rfl
  have within := (origin?_suffix found').subset
  have fits := (parsePath_iff (fun mem => unasked (within mem))
    (fun mem => unmarked (within mem))).mp (path o _ found')
  rw [List.all_append, Bool.and_eq_true] at fits
  have identifier : i.instanceId.toList.all isPathChar = true :=
    List.all_eq_true.mpr fun c mem => List.all_eq_true.mp fits.2 c (identifier mem)
  refine exists_parsePath ?_
  rw [List.all_append, List.all_append, fits.1, identifier]
  rfl

end Registry.Identity

end SliceSelection
