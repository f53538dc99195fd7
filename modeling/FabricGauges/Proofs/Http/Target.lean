import FabricGauges.Endpoint.Response
import FabricGauges.Http.Message
import FabricGauges.Proofs.Text.Pieces
import Mathlib.Data.List.TakeWhile

/-!
# Requests for a path

A request asks for a path if that is what its target begins with, up to a query or a fragment. Not
every text can be asked for: a request line is cut at its blanks, a target holds none of the
characters that a URL has to escape, and it is not too long. Beyond that nothing is in the way,
since the request that has the path as its target is read as it was written.
-/

namespace FabricGauges.Http

open Text (utf8)

/-- The bytes of a request ask for a path. -/
def AsksFor (request : List UInt8) (method path : String) : Prop :=
  ∃ target, asked? request = some (method, target) ∧ requestPath target = path

/-- Whether a path can be asked for. -/
structure IsPath (path : String) : Prop where
  chars : ∀ c ∈ path.toList, isPathChar c
  short : (utf8 path.toList).length ≤ targetLimit

/-! ## Targets -/

theorem toList_requestPath (target : String) :
    (requestPath target).toList = target.toList.takeWhile fun c => c ≠ '?' ∧ c ≠ '#' :=
  String.toList_ofList

/-- The path of a target is one that can be asked for. -/
theorem isPath_of_isTarget {target : String} (h : isTarget target.toList) :
    IsPath (requestPath target) := by
  simp only [isTarget, Bool.and_eq_true, decide_eq_true_eq, List.all_eq_true] at h
  obtain ⟨⟨⟨-, hshort⟩, hchars⟩, -⟩ := h
  refine ⟨by rwa [toList_requestPath], ?_⟩
  rw [toList_requestPath]
  exact Nat.le_trans (Text.length_utf8_le_of_sublist (List.takeWhile_sublist _)) hshort

/-- No character of a path ends it. -/
theorem ne_of_isPathChar {c : Char} (h : isPathChar c) : c ≠ '?' ∧ c ≠ '#' ∧ c ≠ ' ' ∧ c ≠ '\r' := by
  refine ⟨?_, ?_, ?_, ?_⟩ <;> rintro rfl <;> exact absurd h (by decide)

theorem IsPath.takeWhile_eq {path : String} (h : IsPath path) :
    path.toList.takeWhile (fun c => c ≠ '?' ∧ c ≠ '#') = path.toList := by
  rw [List.takeWhile_eq_self_iff]
  intro c hc
  obtain ⟨hquery, hfragment, -⟩ := ne_of_isPathChar (h.chars c hc)
  simp [hquery, hfragment]

/-- A path that can be asked for is a target, and its own path. -/
theorem IsPath.isTarget {path : String} (h : IsPath path) (habsolute : path.toList.head? = some '/') :
    isTarget path.toList := by
  have hrest : path.toList.dropWhile (fun c => c ≠ '?' ∧ c ≠ '#') = [] := by
    rw [List.dropWhile_eq_nil_iff, ← List.takeWhile_eq_self_iff]
    exact h.takeWhile_eq
  unfold Http.isTarget
  rw [h.takeWhile_eq, hrest, habsolute]
  simp only [beq_self_eq_true, Bool.true_and, List.all_nil, Bool.and_true, Bool.and_eq_true,
    decide_eq_true_eq, List.all_eq_true]
  exact ⟨h.short, h.chars⟩

theorem IsPath.requestPath_eq {path : String} (h : IsPath path) : requestPath path = path :=
  String.toList_injective <| by rw [toList_requestPath, h.takeWhile_eq]

/-! ## Request lines -/

/-- A head without line ends is what comes before the first empty line. -/
theorem splitHead_append {head : List UInt8} (h : 13 ∉ head) (rest : List UInt8) :
    splitHead (head ++ [13, 10, 13, 10] ++ rest) = some (head, rest) := by
  induction head with
  | nil => rfl
  | cons b head ih =>
    obtain ⟨hb, hhead⟩ := not_or.1 (List.mem_cons.not.1 h)
    rw [List.cons_append, List.cons_append, splitHead, ih hhead]
    · rfl
    · intro rest' hcr
      exact absurd hcr.symm hb

/-- A request line that is cut into three words is read as its method and its target. -/
theorem asked?_requestLine {method target version : List Char}
    (hmethod : ∀ c ∈ method, c ≠ ' ' ∧ c ≠ '\r') (htarget : ∀ c ∈ target, c ≠ ' ' ∧ c ≠ '\r')
    (hversion : ∀ c ∈ version, c ≠ ' ' ∧ c ≠ '\r') (h : isTarget target) (rest : List UInt8) :
    asked? (utf8 (method ++ ' ' :: (target ++ ' ' :: version)) ++ [13, 10, 13, 10] ++ rest) =
      some (String.ofList method, String.ofList target) := by
  set line := method ++ ' ' :: (target ++ ' ' :: version) with hline
  have hchars : ∀ c ∈ line, c ≠ '\r' := by
    intro c hc
    simp only [hline, List.mem_append, List.mem_cons] at hc
    rcases hc with hc | rfl | hc | rfl | hc
    · exact (hmethod c hc).2
    · decide
    · exact (htarget c hc).2
    · decide
    · exact (hversion c hc).2
  -- the line holds no line end, so the head is cut behind it
  have hbytes : 13 ∉ utf8 line := by
    intro hmem
    obtain ⟨c, hc, hcr⟩ := Text.mem_of_mem_utf8 hmem (by decide)
    refine hchars c hc ?_
    rw [← Char.ofNat_toNat c, hcr]
    rfl
  have hfirst : (utf8 line).takeWhile (· ≠ 13) = utf8 line := by
    rw [List.takeWhile_eq_self_iff]
    intro b hb
    simpa using fun e : b = 13 => hbytes (e ▸ hb)
  have htext : Text.ofUtf8? (utf8 line) = some (String.ofList line) := by
    have h := Text.ofUtf8?_utf8 (String.ofList line)
    rwa [String.toList_ofList] at h
  -- none of the three words holds a space
  have huncut : ∀ word : List Char, (∀ c ∈ word, c ≠ ' ' ∧ c ≠ '\r') →
      Text.pieces (· = ' ') word = [word] :=
    fun word hword => Text.pieces_of_uncut fun c hc => by simpa using (hword c hc).1
  have hwords : Text.pieces (· = ' ') line = [method, target, version] := by
    rw [hline, Text.pieces_append_cut (by decide), Text.pieces_append_cut (by decide),
      huncut method hmethod, huncut target htarget, huncut version hversion]
    rfl
  rw [asked?, splitHead_append hbytes]
  simp only [bind, Option.bind, hfirst, htext, String.toList_ofList, hwords, h, if_true]

/-! ## Paths that can be asked for -/

/-- A path of a request is one that can be asked for. -/
theorem AsksFor.isPath {request : List UInt8} {method path : String}
    (h : AsksFor request method path) : IsPath path := by
  obtain ⟨target, hasked, rfl⟩ := h
  simp only [asked?, bind, Option.bind_eq_some_iff] at hasked
  obtain ⟨head, -, line, -, hasked⟩ := hasked
  split at hasked
  · next words method' target' version hwords =>
    obtain ⟨htarget, heq⟩ := Option.ite_none_right_eq_some.1 hasked
    obtain ⟨-, rfl⟩ := Prod.mk.inj (Option.some.inj heq)
    exact isPath_of_isTarget (by rwa [String.toList_ofList])
  · cases hasked

/-- An absolute path is that of some request if, and only if, it can be asked for. -/
theorem exists_asksFor_iff {method path : String} (hmethod : ∀ c ∈ method.toList, c ≠ ' ' ∧ c ≠ '\r')
    (habsolute : path.toList.head? = some '/') :
    (∃ request, AsksFor request method path) ↔ IsPath path := by
  refine ⟨fun ⟨request, h⟩ => h.isPath, fun h => ?_⟩
  have htarget : ∀ c ∈ path.toList, c ≠ ' ' ∧ c ≠ '\r' := fun c hc =>
    (ne_of_isPathChar (h.chars c hc)).2.2
  have hversion : ∀ c ∈ "HTTP/1.1".toList, c ≠ ' ' ∧ c ≠ '\r' := by simp
  have hasked := asked?_requestLine hmethod htarget hversion (h.isTarget habsolute) []
  rw [String.ofList_toList, String.ofList_toList] at hasked
  exact ⟨_, path, hasked, h.requestPath_eq⟩

end FabricGauges.Http
