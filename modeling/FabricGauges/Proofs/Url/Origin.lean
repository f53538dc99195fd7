import FabricGauges.Proofs.Url.Authority
import FabricGauges.Url.Basic

/-!
# The origin of a URL

A URL begins with its origin: a scheme of the manager, a colon, slashes and an authority. What is
written behind the origin decides about the path and the query and about nothing else, so that URLs
with one origin have the same scheme, host and port.
-/

namespace FabricGauges

namespace Url

/-! ## Schemes -/

/-- A scheme is read up to its colon, whatever follows. -/
theorem scheme?_eq_some {s name rest : List Char} (h : scheme? s = some (name, rest)) :
    ∃ written, s = written ++ ':' :: rest ∧ (∀ c ∈ written, isSchemeChar c = true) ∧
      ∀ more, scheme? (written ++ ':' :: more) = some (name, more) := by
  have hsplit := List.takeWhile_append_dropWhile (p := isSchemeChar) (l := s)
  unfold scheme? at h
  split at h
  · rename_i c letters rest' hwritten hrest
    split_ifs at h with halpha
    obtain ⟨rfl, rfl⟩ := Prod.mk.inj (Option.some.inj h)
    have hall : ∀ d ∈ c :: letters, isSchemeChar d = true := by
      intro d hd
      rw [← hwritten] at hd
      exact List.mem_takeWhile_imp hd
    refine ⟨c :: letters, by rw [← hsplit, hwritten, hrest], hall, fun more => ?_⟩
    have hcolon : ¬ isSchemeChar ':' = true := by decide
    rw [scheme?, List.takeWhile_append_of_pos hall, List.dropWhile_append_of_pos hall,
      List.takeWhile_cons_of_neg hcolon, List.dropWhile_cons_of_neg hcolon, List.append_nil]
    simp [halpha]
  · cases h

/-- The URL of a text of which all is seen. -/
def ofVisible (s : List Char) : Except UrlFault Url :=
  match scheme? s with
  | none => .error .relative
  | some (scheme, rest) =>
    match String.ofList scheme with
    | "http" => ofScheme .http rest
    | "https" => ofScheme .https rest
    | foreign =>
      match checkForeign foreign rest with
      | .error fault => .error fault
      | .ok () => .error .foreignScheme

theorem ofText_eq (text : String) : ofText text = ofVisible (visible text.toList) := rfl

/-- A text with a scheme is parsed by that scheme. -/
theorem ofVisible_of_scheme? {s rest : List Char} {scheme : Scheme}
    (h : scheme? s = some (scheme.name.toList, rest)) : ofVisible s = ofScheme scheme rest := by
  rw [ofVisible, h]
  cases scheme <;> simp [Scheme.name]

/-- Only a text with a scheme of the manager is a URL of it. -/
theorem scheme?_of_ofVisible {s : List Char} {u : Url} (h : ofVisible s = .ok u) :
    ∃ (scheme : Scheme) (rest : List Char), scheme? s = some (scheme.name.toList, rest) := by
  unfold ofVisible at h
  split at h
  · cases h
  · rename_i name rest hname
    split at h
    · rename_i hhttp
      exact ⟨.http, rest, by rw [hname, ← String.toList_ofList (l := name), hhttp]; rfl⟩
    · rename_i hhttps
      exact ⟨.https, rest, by rw [hname, ← String.toList_ofList (l := name), hhttps]; rfl⟩
    · split at h <;> cases h

/-! ## Origins -/

/-- A text that is a URL up to its path: a scheme of the manager, a colon, slashes and an
authority. -/
structure Origin where
  scheme : Scheme
  /-- The scheme as it is written. -/
  written : List Char
  slashes : List Char
  authority : List Char
  letters : ∀ c ∈ written, isSchemeChar c = true
  reads : ∀ more, scheme? (written ++ ':' :: more) = some (scheme.name.toList, more)
  onlySlashes : ∀ c ∈ slashes, isSlash c = true
  nonempty : authority ≠ []
  inside : ∀ c ∈ authority, endsAuthority c = false

namespace Origin

/-- The text of an origin. -/
def text (o : Origin) : List Char := o.written ++ ':' :: (o.slashes ++ o.authority)

/-- The origin with more written behind its authority. -/
def append (o : Origin) (more : List Char) (h : ∀ c ∈ more, endsAuthority c = false) : Origin :=
  { o with
    authority := o.authority ++ more
    nonempty := by simp [o.nonempty]
    inside := by
      intro c hc
      exact (List.mem_append.1 hc).elim (o.inside c) (h c) }

theorem text_ne_nil (o : Origin) : o.text ≠ [] := by simp [text]

/-- Nothing in an origin ends a path. -/
theorem endsPath_of_mem_text {o : Origin} {c : Char} (h : c ∈ o.text) : endsPath c = false := by
  by_contra hends
  have hcases : c = '?' ∨ c = '#' := by simpa [endsPath, or_iff_not_imp_left] using hends
  have hslash : isSlash c = false := by rcases hcases with rfl | rfl <;> decide
  have hscheme : isSchemeChar c = false := by rcases hcases with rfl | rfl <;> decide
  have hcolon : c ≠ ':' := by rcases hcases with rfl | rfl <;> decide
  simp only [text, List.mem_append, List.mem_cons] at h
  rcases h with h | h | h | h
  · simp [o.letters c h] at hscheme
  · exact hcolon h
  · simp [o.onlySlashes c h] at hslash
  · have hinside := o.inside c h
    simp [endsAuthority, hslash, hends] at hinside

/-- An origin ends in its authority. -/
theorem getLast?_text (o : Origin) : o.text.getLast? = o.authority.getLast? := by
  have htext : o.text = (o.written ++ ':' :: o.slashes) ++ o.authority := by simp [text]
  rw [htext, List.getLast?_append_of_ne_nil _ o.nonempty]

@[simp] theorem text_append (o : Origin) (more : List Char)
    (h : ∀ c ∈ more, endsAuthority c = false) : (o.append more h).text = o.text ++ more := by
  simp [text, append]

end Origin

/-- A text that is written behind an authority. -/
def IsTail (s : List Char) : Prop := ∀ c ∈ s.head?, endsAuthority c = true

/-- The URL of an origin and what is written behind it. -/
def Origin.url (o : Origin) (tail : List Char) : Except UrlFault Url :=
  (readAuthority o.authority).map fun (host, port) =>
    { scheme := o.scheme, host
      port := port.filter (· ≠ o.scheme.defaultPort)
      path := readPath (tail.takeWhile (!endsPath ·))
      query := readQuery (tail.dropWhile (!endsPath ·)) }

/-- What is written behind the origin of a text. -/
def behindOrigin (s : List Char) : List Char :=
  match scheme? s with
  | none => []
  | some (_, rest) => (rest.dropWhile isSlash).dropWhile (!endsAuthority ·)

namespace Origin

variable (o : Origin) {tail : List Char}

/-- The scheme of an origin is found in front of any text. -/
theorem scheme?_append (tail : List Char) : scheme? (o.text ++ tail) =
    some (o.scheme.name.toList, o.slashes ++ (o.authority ++ tail)) := by
  simpa [text] using o.reads (o.slashes ++ (o.authority ++ tail))

theorem dropWhile_isSlash (tail : List Char) :
    (o.slashes ++ (o.authority ++ tail)).dropWhile isSlash = o.authority ++ tail := by
  obtain ⟨c, rest, hauthority⟩ := List.exists_cons_of_ne_nil o.nonempty
  have hc : endsAuthority c = false := o.inside c (by simp [hauthority])
  have hslash : ¬ isSlash c = true := by
    intro hslash
    simp [endsAuthority, hslash] at hc
  rw [List.dropWhile_append_of_pos o.onlySlashes, hauthority, List.cons_append,
    List.dropWhile_cons_of_neg hslash]

/-- An authority ends where what is written behind it begins. -/
theorem split_authority (htail : IsTail tail) :
    (o.authority ++ tail).takeWhile (!endsAuthority ·) = o.authority ∧
      (o.authority ++ tail).dropWhile (!endsAuthority ·) = tail := by
  have hinside : ∀ c ∈ o.authority, (!endsAuthority c) = true := by
    intro c hc
    simp [o.inside c hc]
  rw [List.takeWhile_append_of_pos hinside, List.dropWhile_append_of_pos hinside]
  cases tail with
  | nil => simp
  | cons c tail => simp [htail c rfl]

/-- What is behind an origin is what was put there. -/
theorem behindOrigin_append (htail : IsTail tail) : behindOrigin (o.text ++ tail) = tail := by
  rw [behindOrigin, o.scheme?_append]
  simp only [o.dropWhile_isSlash, o.split_authority htail]

/-- What is written behind an origin is the path and the query. -/
theorem ofVisible_append (htail : IsTail tail) : ofVisible (o.text ++ tail) = o.url tail := by
  rw [ofVisible_of_scheme? (o.scheme?_append tail), ofScheme, url]
  simp only [o.dropWhile_isSlash, o.split_authority htail]
  cases readAuthority o.authority <;> rfl

end Origin

/-- URLs of one origin differ in their paths and queries alone. -/
theorem Origin.exists_url {o : Origin} {tail : List Char} {u : Url} (h : o.url tail = .ok u)
    (other : List Char) :
    ∃ v, o.url other = .ok v ∧ v.scheme = u.scheme ∧ v.host = u.host ∧ v.port = u.port := by
  unfold url at h ⊢
  cases hauthority : readAuthority o.authority with
  | error fault => simp [hauthority, Except.map] at h
  | ok parts =>
    rw [hauthority] at h
    cases h
    exact ⟨_, rfl, rfl, rfl, rfl⟩

/-- A URL has the path and the query that are written behind its origin. -/
theorem Origin.path_query_of_url {o : Origin} {tail : List Char} {u : Url} (h : o.url tail = .ok u) :
    u.path = readPath (tail.takeWhile (!endsPath ·)) ∧
      u.query = readQuery (tail.dropWhile (!endsPath ·)) := by
  unfold url at h
  cases hauthority : readAuthority o.authority with
  | error fault => simp [hauthority, Except.map] at h
  | ok parts =>
    rw [hauthority] at h
    cases h
    exact ⟨rfl, rfl⟩

/-- A URL begins with an origin. -/
theorem exists_origin {s : List Char} {u : Url} (h : ofVisible s = .ok u) :
    ∃ (o : Origin) (tail : List Char), s = o.text ++ tail ∧ IsTail tail := by
  obtain ⟨scheme, rest, hscheme⟩ := scheme?_of_ofVisible h
  obtain ⟨written, rfl, hletters, hreads⟩ := scheme?_eq_some hscheme
  rw [ofVisible_of_scheme? hscheme, ofScheme] at h
  have hslashes := List.takeWhile_append_dropWhile (p := isSlash) (l := rest)
  generalize rest.dropWhile isSlash = behind at h hslashes
  have hbehind := List.takeWhile_append_dropWhile (p := (!endsAuthority ·)) (l := behind)
  refine ⟨⟨scheme, written, rest.takeWhile isSlash, behind.takeWhile (!endsAuthority ·),
    hletters, hreads, fun c hc => List.mem_takeWhile_imp hc, ?_, ?_⟩,
    behind.dropWhile (!endsAuthority ·), ?_, ?_⟩
  · intro hempty
    rw [hempty] at h
    cases h
  · intro c hc
    simpa using List.mem_takeWhile_imp hc
  · simp [Origin.text, hbehind, hslashes]
  · intro c hc
    have hends := List.head?_dropWhile_not (!endsAuthority ·) behind
    rw [Option.mem_def.1 hc] at hends
    simpa using hends

/-- An origin that ends in a blank is not one of any URL. -/
theorem Origin.url_ne_ok_of_isFaint (o : Origin) {c : Char} (hc : c ∈ o.text.getLast?)
    (hfaint : isFaint c = true) (tail : List Char) (u : Url) : o.url tail ≠ .ok u := by
  intro h
  rw [o.getLast?_text] at hc
  unfold url at h
  cases hauthority : readAuthority o.authority with
  | error fault => simp [hauthority, Except.map] at h
  | ok parts => exact readAuthority_ne_ok hc hfaint parts hauthority

end Url

end FabricGauges
