import FabricGauges.Client.Addressing
import FabricGauges.Proofs.Settings.Validity
import FabricGauges.Proofs.Url.Origin
import FabricGauges.Proofs.Url.Path

/-!
# The base of requests

Requests are written behind the text of the configured URL without the slashes at its end. What that
text is seen to be has the origin of the URL, and then what is written behind the origin of the URL,
without slashes at the end but with the blanks that are not seen where the URL stands alone.
-/

namespace FabricGauges

open Text Url

namespace Client

/-- A client comes from settings that pass their check, and takes its base and its policy from
them. -/
theorem parts_of_make {files : Files} {c : Connection} {client : Client}
    (h : make files c = .ok client) :
    c.check = .ok () ∧ client.baseUrl = withoutSlashes c.url ∧ client.policy = .ofConnection c := by
  rw [make, bind_eq_ok] at h
  obtain ⟨_, hcheck, h⟩ := h
  refine ⟨mapError_eq_ok.1 hcheck, ?_⟩
  split at h
  all_goals
    simp only [bind_eq_ok] at h
    obtain ⟨trust, -, credentials, -, h⟩ := h
    split at h
    all_goals
      simp only [bind_eq_ok, check_bind_eq_ok, pure, Except.pure] at h
      obtain ⟨login, -, -, hclient⟩ := h
      rw [← Except.ok.inj hclient]
      exact ⟨rfl, rfl⟩

/-- A client comes from settings whose URL is good, and puts its requests behind that. -/
theorem of_make {files : Files} {c : Connection} {client : Client} (h : make files c = .ok client) :
    ∃ u, c.manager = .ok u ∧ Url.ofText c.url = .ok u ∧ client.baseUrl = withoutSlashes c.url := by
  obtain ⟨hcheck, hbase, -⟩ := parts_of_make h
  obtain ⟨hne, u, hurl⟩ := (Connection.check_eq_ok_iff.1 hcheck).url
  exact ⟨u, Connection.manager_eq_ok_iff.2 ⟨hne, hurl⟩, hurl, hbase⟩

/-- What is written of a URL without the slashes at its end, and the parts that it is seen to
have. -/
structure Base (url : String) (u : Url) where
  origin : Origin
  /-- What is written behind the origin, without slashes at the end. -/
  tail : List Char
  /-- How many slashes are at the end. -/
  slashes : Nat
  /-- The blanks at the end, if there are no slashes. -/
  blanks : List Char
  isTail : IsTail tail
  isFaint : ∀ c ∈ blanks, isFaint c = true
  url_eq : origin.url (tail ++ List.replicate slashes '/') = .ok u
  begun_eq : begun (withoutSlashes url).toList = origin.text ++ (tail ++ blanks)
  blanks_eq_nil : blanks = [] ↔ endsFaint url.toList = false

/-- A text without the slashes at its end, and the slashes. -/
theorem exists_slashes (url : String) :
    ∃ n, url.toList = (withoutSlashes url).toList ++ List.replicate n '/' := by
  have hslashes : url.toList.rtakeWhile (· = '/') =
      List.replicate (url.toList.rtakeWhile (· = '/')).length '/' :=
    List.eq_replicate_of_mem fun c hc => by simpa using List.mem_rtakeWhile_imp hc
  refine ⟨(url.toList.rtakeWhile (· = '/')).length, ?_⟩
  rw [← hslashes, withoutSlashes, String.toList_ofList]
  exact List.rdropWhile_append_rtakeWhile.symm

/-- Slashes at the end of a URL are behind its origin. -/
theorem exists_rest_of_slashes {o : Origin} {s tail : List Char} {n : Nat}
    (h : s ++ List.replicate n '/' = o.text ++ tail) :
    ∃ rest, s = o.text ++ rest ∧ tail = rest ++ List.replicate n '/' := by
  rcases List.append_eq_append_iff.1 h with ⟨more, htext, hslashes⟩ | ⟨rest, hs, htail⟩
  · cases List.eq_nil_or_concat' more with
    | inl hnil => exact ⟨[], by simp [htext, hnil], by simpa [hnil] using hslashes.symm⟩
    | inr hconcat =>
      -- The last character of the origin would be a slash.
      obtain ⟨init, last, rfl⟩ := hconcat
      have hmem : last ∈ List.replicate n '/' := by simp [hslashes]
      have hslash : last = '/' := List.eq_of_mem_replicate hmem
      have hlast : last ∈ o.authority.getLast? := by
        rw [← o.getLast?_text, htext]
        simp
      have hinside := o.inside last (List.mem_of_getLast? hlast)
      rw [hslash] at hinside
      exact absurd hinside (by decide)
  · exact ⟨rest, hs, htail⟩

/-- Slashes at the end of a URL are all seen. -/
theorem ended_slashes (n : Nat) : ended (List.replicate n '/') = List.replicate n '/' := by
  refine ended_eq_self ?_ ?_
  · intro c hc
    rw [List.eq_of_mem_replicate hc]
    decide
  · intro c hc
    rw [List.eq_of_mem_replicate (List.mem_of_getLast? hc)]
    decide

theorem isTail_of_append_slashes {tail : List Char} {n : Nat}
    (h : IsTail (tail ++ List.replicate n '/')) : IsTail tail := by
  cases tail with
  | nil => simp [IsTail]
  | cons c tail => simpa [IsTail] using h

/-- The URL of settings is the base of requests. -/
theorem exists_base {url : String} {u : Url} (h : Url.ofText url = .ok u) :
    Nonempty (Base url u) := by
  obtain ⟨n, hn⟩ := exists_slashes url
  rw [ofText_eq] at h
  obtain ⟨o, tail, hvisible, htail⟩ := exists_origin h
  rw [hvisible, o.ofVisible_append htail] at h
  -- without slashes at the end there may be blanks; a slash at the end shows that there are none
  cases n with
  | zero =>
    rw [List.replicate_zero, List.append_nil] at hn
    have hne : visible url.toList ≠ [] := by simp [hvisible, o.text_ne_nil]
    exact ⟨{
      origin := o, tail, slashes := 0, blanks := blanks url.toList, isTail := htail
      isFaint := fun c hc => isFaint_of_mem_blanks hc
      url_eq := by simpa using h
      begun_eq := by rw [← hn, Url.begun_eq, hvisible, List.append_assoc]
      blanks_eq_nil := blanks_eq_nil_iff hne }⟩
  | succ n =>
    have hslash : Url.isFaint '/' = false := by decide
    have hlast : endsFaint url.toList = false := by
      rw [hn, endsFaint, List.replicate_succ', ← List.append_assoc, List.filter_append]
      simp [isSeen, hslash]
    rw [hn, List.replicate_succ, visible_append hslash, ← List.replicate_succ,
      ended_slashes] at hvisible
    obtain ⟨rest, hbegun, rfl⟩ := exists_rest_of_slashes hvisible
    exact ⟨{
      origin := o, tail := rest, slashes := n + 1, blanks := []
      isTail := isTail_of_append_slashes htail
      isFaint := by simp
      url_eq := h
      begun_eq := by rw [hbegun, List.append_nil]
      blanks_eq_nil := by simp [hlast] }⟩

namespace Base

variable {url : String} {u : Url} (B : Base url u)

/-- A character that ends a path is in a URL only where it is in what is written behind its
origin. -/
theorem mem_tail_iff {c : Char} (hc : endsPath c = true) : c ∈ url.toList ↔ c ∈ B.tail := by
  have hseen : Url.isFaint c = false := isFaint_of_endsAuthority (by simp [endsAuthority, hc])
  obtain ⟨n, hn⟩ := exists_slashes url
  have hbegun : c ∈ (withoutSlashes url).toList ↔ c ∈ begun (withoutSlashes url).toList := by
    rw [begun, List.mem_filter, and_iff_left (isSeen_of_not_isFaint hseen), mem_dropWhile_iff hseen]
  have hslash : c ∉ List.replicate n '/' := by
    intro hmem
    rw [List.eq_of_mem_replicate hmem] at hc
    exact absurd hc (by decide)
  have horigin : c ∉ B.origin.text := by
    intro hmem
    simp [Origin.endsPath_of_mem_text hmem] at hc
  have hblanks : c ∉ B.blanks := by
    intro hmem
    simp [B.isFaint c hmem] at hseen
  rw [hn, List.mem_append, or_iff_left hslash, hbegun, B.begun_eq, List.mem_append,
    List.mem_append, or_iff_right horigin, or_iff_left hblanks]

/-- What is asked for where a path is written behind the base. -/
theorem ofText_append (path : String) {p : List Char} (hpath : path.toList = '/' :: p) :
    Url.ofText (withoutSlashes url ++ path) =
      ofVisible (B.origin.text ++ (B.tail ++ B.blanks ++ ended path.toList)) := by
  have hslash : Url.isFaint '/' = false := by decide
  rw [ofText_eq, String.toList_append, hpath, visible_append hslash, B.begun_eq]
  simp

/-- The path goes on behind the base unless blanks have come to be a part of its authority. -/
theorem ofText_eq_url (h : B.tail ≠ [] ∨ B.blanks = []) (path : String) {p : List Char}
    (hpath : path.toList = '/' :: p) :
    Url.ofText (withoutSlashes url ++ path) =
      B.origin.url (B.tail ++ B.blanks ++ ended path.toList) := by
  have htail : IsTail (B.tail ++ B.blanks ++ ended path.toList) := by
    rw [hpath, ended_slash, IsTail]
    cases htail : B.tail with
    | cons c tail => simpa [htail, IsTail] using B.isTail
    | nil =>
      rw [h.resolve_left (fun hne => hne htail)]
      simp [endsAuthority, isSlash]
  rw [B.ofText_append path hpath, B.origin.ofVisible_append htail]

/-- Where blanks have come to be a part of the authority, nothing can be asked for. -/
theorem ofText_ne_ok (htail : B.tail = []) (hblanks : B.blanks ≠ []) (path : String) {p : List Char}
    (hpath : path.toList = '/' :: p) (v : Url) :
    Url.ofText (withoutSlashes url ++ path) ≠ .ok v := by
  have hinside : ∀ c ∈ B.blanks, endsAuthority c = false := by
    intro c hc
    by_contra hends
    have hseen := isFaint_of_endsAuthority (eq_true_of_ne_false hends)
    simp [B.isFaint c hc] at hseen
  have hends : IsTail (ended path.toList) := by
    rw [hpath, ended_slash]
    simp [IsTail, endsAuthority, isSlash]
  have htext : B.origin.text ++ (B.tail ++ B.blanks ++ ended path.toList) =
      (B.origin.append B.blanks hinside).text ++ ended path.toList := by
    simp [htail]
  obtain ⟨init, last, hlast⟩ := (List.eq_nil_or_concat' B.blanks).resolve_left hblanks
  rw [B.ofText_append path hpath, htext, Origin.ofVisible_append _ hends]
  refine Origin.url_ne_ok_of_isFaint _ (c := last) ?_ (B.isFaint last (by simp [hlast])) _ v
  rw [Origin.text_append, hlast, ← List.append_assoc]
  simp

/-- Whatever is asked for goes on behind the base. -/
theorem goes_on {path : String} {p : List Char} (hpath : path.toList = '/' :: p) {v : Url}
    (h : Url.ofText (withoutSlashes url ++ path) = .ok v) :
    (B.tail ≠ [] ∨ B.blanks = []) ∧
      B.origin.url (B.tail ++ B.blanks ++ ended path.toList) = .ok v := by
  have hon : B.tail ≠ [] ∨ B.blanks = [] := by
    by_contra hnot
    obtain ⟨htail, hblanks⟩ := not_or.1 hnot
    exact B.ofText_ne_ok (not_not.1 htail) hblanks path hpath v h
  exact ⟨hon, B.ofText_eq_url hon path hpath ▸ h⟩

section

variable (hplain : ∀ c ∈ url.toList, endsPath c = false)
include hplain

/-- Where a URL has no query and no fragment, what is written behind its origin is a path. -/
theorem endsPath_of_mem_tail : ∀ c ∈ B.tail ++ B.blanks, endsPath c = false := by
  intro c hc
  by_contra hends
  have hends := eq_true_of_ne_false hends
  rcases List.mem_append.1 hc with htail | hblanks
  · simp [hplain c ((B.mem_tail_iff hends).2 htail)] at hends
  · have hseen := isFaint_of_endsAuthority (c := c) (by simp [endsAuthority, hends])
    simp [B.isFaint c hblanks] at hseen

theorem isPath (hon : B.tail ≠ [] ∨ B.blanks = []) : IsPath (B.tail ++ B.blanks) := by
  intro c hc
  have hends := B.endsPath_of_mem_tail hplain c (List.mem_of_mem_head? hc)
  have hhead : c ∈ B.tail.head? := by
    cases htail : B.tail with
    | nil => simp [htail, hon.resolve_left (fun hne => hne htail)] at hc
    | cons d tail => simpa [htail] using hc
  simpa [endsAuthority, hends] using B.isTail c hhead

/-- What a path is read as behind the base, up to where it ends. -/
theorem path_eq {path : String} {p : List Char} (hpath : path.toList = '/' :: p) {v : Url}
    (h : Url.ofText (withoutSlashes url ++ path) = .ok v) :
    v.path = readPath (B.tail ++ B.blanks ++ (ended path.toList).takeWhile (!endsPath ·)) ∧
      v.query = readQuery ((ended path.toList).dropWhile (!endsPath ·)) := by
  have hinside : ∀ c ∈ B.tail ++ B.blanks, (!endsPath c) = true := by
    intro c hc
    simp [B.endsPath_of_mem_tail hplain c hc]
  have hparts := Origin.path_query_of_url (B.goes_on hpath h).2
  rwa [List.takeWhile_append_of_pos hinside, List.dropWhile_append_of_pos hinside] at hparts

end

end Base

end Client

end FabricGauges
