import FabricGauges.Certificate.Chain
import FabricGauges.Proofs.Text.Pieces
import Mathlib.Data.List.DropRight

/-!
# What is read of a chain

A block of a chain is read from its own lines: whatever stands behind them stays for the next block.
So a chain that breaks can be cut off before the break, and then it is read to its end with the same
certificates. These are numbered from zero in the order in which they stand.
-/

namespace FabricGauges

/-! ## Lines -/

namespace Pem

variable {ls rest : List Line} {line header : Line}

/-- The lines of a text are its pieces between line feeds. -/
theorem lines_eq_pieces (s : List Char) : lines s = Text.pieces (· = '\n') s := by
  induction s with
  | nil => rfl
  | cons c s ih =>
    rw [lines, Text.pieces, ih]
    simp only [decide_eq_true_eq]
    rfl

theorem lineFeed_notMem {s : List Char} (h : line ∈ lines s) : '\n' ∉ line := by
  rw [lines_eq_pieces] at h
  intro hmem
  have hcut := Text.not_cut_of_mem_pieces h hmem
  exact absurd hcut (by decide)

/-- Lines are those of some text. -/
theorem exists_lines_eq (first : Line) (more : List Line)
    (h : ∀ line ∈ first :: more, '\n' ∉ line) : ∃ s, lines s = first :: more := by
  refine ⟨first ++ more.flatMap ('\n' :: ·), ?_⟩
  rw [lines_eq_pieces]
  refine Text.pieces_joined (by decide) fun piece hpiece c hc => ?_
  exact decide_eq_false fun heq => h piece hpiece (heq ▸ hc)

/-- A line on which reading begins is one on which it can begin whatever follows. -/
theorem trimStart_cons_of_trimStart (h : trimStart ls = line :: rest) (more : List Line) :
    trimStart (line :: more) = line :: more := by
  induction ls with
  | nil => cases h
  | cons first ls ih =>
    rw [trimStart] at h
    split at h
    · exact ih h
    · next hvisible =>
      obtain ⟨htrimmed, -⟩ := List.cons.inj h
      have htwice : line.dropWhile Text.isAsciiBlank = line := by
        rw [← htrimmed, List.dropWhile_idempotent]
      rw [trimStart, htwice]
      cases line with
      | nil => exact absurd htrimmed hvisible
      | cons c line => rfl

theorem mem_of_mem_trimStart (h : line ∈ trimStart ls) :
    ∃ whole ∈ ls, line ⊆ whole := by
  induction ls with
  | nil => cases h
  | cons first ls ih =>
    rw [trimStart] at h
    split at h
    · obtain ⟨whole, hwhole, hsub⟩ := ih h
      exact ⟨whole, List.mem_cons_of_mem _ hwhole, hsub⟩
    · rcases List.mem_cons.1 h with rfl | h
      · exact ⟨first, List.mem_cons_self, (List.dropWhile_suffix _).subset⟩
      · exact ⟨line, List.mem_cons_of_mem _ h, List.Subset.refl _⟩

/-! ## Blocks -/

/-- Lines are skipped up to a header, whatever follows it. -/
theorem exists_skipped (h : fromHeader ls = header :: rest) :
    ∃ skipped, ls = skipped ++ header :: rest ∧
      ∀ more, fromHeader (skipped ++ header :: more) = header :: more := by
  induction ls with
  | nil => cases h
  | cons first ls ih =>
    rw [fromHeader] at h
    split at h
    · next hopens =>
      obtain ⟨rfl, rfl⟩ := List.cons.inj h
      exact ⟨[], rfl, fun more => by rw [List.nil_append, fromHeader, if_pos hopens]⟩
    · next hopens =>
      obtain ⟨skipped, rfl, hskips⟩ := ih h
      exact ⟨first :: skipped, rfl, fun more => by
        rw [List.cons_append, fromHeader, if_neg hopens, hskips]⟩

/-- A body is read from its own lines, whatever follows them. -/
theorem exists_used_of_body {text : List Char} (h : body ls = some (text, rest)) :
    ∃ used, ls = used ++ rest ∧ ∀ more, body (used ++ more) = some (text, more) := by
  -- the lines used are those up to the end mark, so they grow by one with each line before it
  induction ls generalizing text with
  | nil => cases h
  | cons first ls ih =>
    rw [body] at h
    split at h
    · next hcloses =>
      obtain ⟨rfl, rfl⟩ := Prod.mk.inj (Option.some.inj h)
      exact ⟨[first], rfl, fun more => by rw [List.singleton_append, body, if_pos hcloses]⟩
    · next hcloses =>
      cases hbody : body ls with
      | none => simp [hbody] at h
      | some found =>
        obtain ⟨inner, after⟩ := found
        simp only [hbody, Option.bind_eq_bind, Option.bind_some, Option.some.injEq,
          Prod.mk.injEq] at h
        obtain ⟨rfl, rfl⟩ := h
        obtain ⟨used, rfl, hreads⟩ := ih hbody
        refine ⟨first :: used, rfl, fun more => ?_⟩
        rw [List.cons_append, body, if_neg hcloses, hreads]
        rfl

/-- A block is read from its own lines, whatever follows them. -/
theorem exists_used_of_read {block : Block} (h : read ls = .ok block) :
    ∃ first used, ls = first :: used ++ block.rest ∧
      ∀ more, read (first :: used ++ more) = .ok ⟨block.content, more⟩ := by
  unfold read at h
  split at h
  · cases h
  · next header inner hheader =>
    split at h
    · cases h
    · next hisHeader =>
      split at h
      · cases h
      · next text after hbody =>
        split at h
        · cases h
        · next content hcontent =>
          obtain rfl := Except.ok.inj h
          obtain ⟨skipped, rfl, hskips⟩ := exists_skipped hheader
          obtain ⟨used, rfl, hreads⟩ := exists_used_of_body hbody
          have hread : ∀ more, read (skipped ++ header :: (used ++ more)) =
              .ok ⟨content, more⟩ := by
            intro more
            rw [read, hskips]
            simp only [hisHeader, hreads, hcontent]
            rfl
          -- the lines of a block are those skipped, its header, and those of its body
          cases skipped with
          | nil => exact ⟨header, used, rfl, hread⟩
          | cons first skipped =>
            refine ⟨first, skipped ++ header :: used, ?_, fun more => ?_⟩
            · simp only [List.cons_append, List.append_assoc]
            · have hmore := hread more
              simp only [List.cons_append, List.append_assoc] at hmore ⊢
              exact hmore

end Pem

namespace Chain

/-! ## Chains -/

variable {ls : List Pem.Line} {parsed : List Expiry}

/-- The certificates that were read of a chain, whether or not it is broken. -/
def readable : Except BrokenChain (List Expiry) → List Expiry
  | .ok expiries => expiries
  | .error broken => broken.parsed

theorem decodeLines_of_blank (h : Pem.trimStart ls = []) : decodeLines ls parsed = .ok parsed := by
  rw [decodeLines]
  split
  · rfl
  · next hne => exact absurd h hne

theorem decodeLines_of_fault {fault : PemFault} (hne : Pem.trimStart ls ≠ [])
    (h : Pem.read (Pem.trimStart ls) = .error fault) :
    decodeLines ls parsed = .error ⟨parsed.length, .pem fault, parsed⟩ := by
  rw [decodeLines]
  split
  · next hnil => exact absurd hnil hne
  · split
    · next found hfound =>
      rw [h] at hfound
      rw [Except.error.inj hfound]
    · next block hblock =>
      rw [h] at hblock
      cases hblock

/-- A block is read as a certificate, and the lines behind it are read on. -/
theorem decodeLines_of_block {block : Pem.Block} (h : Pem.read (Pem.trimStart ls) = .ok block) :
    decodeLines ls parsed =
      match Certificate.notAfter? block.content with
      | none => .error ⟨parsed.length, .notCertificate, parsed⟩
      | some notAfter => decodeLines block.rest (parsed ++ [⟨parsed.length, notAfter⟩]) := by
  rw [decodeLines]
  split
  · next hnil =>
    rw [hnil] at h
    cases h
  · split
    · next fault hfault =>
      rw [h] at hfault
      cases hfault
    · next found hfound =>
      rw [h] at hfound
      obtain rfl := Except.ok.inj hfound
      rfl

/-- The certificates that are read of lines are numbered on from those before. -/
theorem index_readable (h : parsed.map (·.index) = List.range parsed.length) :
    (readable (decodeLines ls parsed)).map (·.index) =
      List.range (readable (decodeLines ls parsed)).length := by
  induction ls, parsed using decodeLines.induct with
  | case1 ls parsed hblank =>
    rw [decodeLines_of_blank hblank]
    exact h
  | case2 ls parsed fault hread hne =>
    rw [decodeLines_of_fault hne hread]
    exact h
  | case3 ls parsed block hread hnone hne =>
    rw [decodeLines_of_block hread, hnone]
    exact h
  | case4 ls parsed block hread notAfter hsome hlt hne ih =>
    rw [decodeLines_of_block hread, hsome]
    refine ih ?_
    rw [List.map_append, h, List.length_append]
    exact List.range_succ.symm

/-- The certificates of a chain are numbered from zero. -/
theorem index_eq_of_getElem? {pem : String} {i : Nat} {e : Expiry}
    (h : (readable (decode pem))[i]? = some e) : e.index = i := by
  have hindex : (readable (decode pem)).map (·.index) = List.range (readable (decode pem)).length :=
    index_readable rfl
  obtain ⟨hlt, rfl⟩ := List.getElem?_eq_some_iff.1 h
  have hget := congrArg (·[i]?) hindex
  simpa [hlt] using hget

/-- Lines can be replaced by lines that are read to their end with the same certificates. -/
theorem exists_repaired_lines (hls : ∀ line ∈ ls, '\n' ∉ line) :
    ∃ ls', (∀ line ∈ ls', '\n' ∉ line) ∧
      decodeLines ls' parsed = .ok (readable (decodeLines ls parsed)) := by
  -- what breaks is left out, and what is read before it is kept
  have hnothing : ∀ parsed, decodeLines [] parsed = .ok parsed := fun _ => decodeLines_of_blank rfl
  induction ls, parsed using decodeLines.induct with
  | case1 ls parsed hblank =>
    rw [decodeLines_of_blank hblank]
    exact ⟨[], by simp, hnothing parsed⟩
  | case2 ls parsed fault hread hne =>
    rw [decodeLines_of_fault hne hread]
    exact ⟨[], by simp, hnothing parsed⟩
  | case3 ls parsed block hread hnone hne =>
    rw [decodeLines_of_block hread, hnone]
    exact ⟨[], by simp, hnothing parsed⟩
  | case4 ls parsed block hread notAfter hsome hlt hne ih =>
    obtain ⟨first, used, htrim, hreads⟩ := Pem.exists_used_of_read hread
    have hfree : ∀ line ∈ first :: used ++ block.rest, '\n' ∉ line := by
      intro line hline hmem
      rw [← htrim] at hline
      obtain ⟨whole, hwhole, hsub⟩ := Pem.mem_of_mem_trimStart hline
      exact hls whole hwhole (hsub hmem)
    obtain ⟨more, hmore, hdecode⟩ := ih fun line hline =>
      hfree line (List.mem_append_right _ hline)
    have hstart : Pem.trimStart (first :: used ++ more) = first :: used ++ more :=
      Pem.trimStart_cons_of_trimStart htrim (used ++ more)
    have hreadMore : Pem.read (Pem.trimStart (first :: used ++ more)) =
        .ok ⟨block.content, more⟩ := by
      rw [hstart]
      exact hreads more
    refine ⟨first :: used ++ more, fun line hline => ?_, ?_⟩
    · rcases List.mem_append.1 hline with hline | hline
      · exact hfree line (List.mem_append_left _ hline)
      · exact hmore line hline
    · rw [decodeLines_of_block hreadMore, decodeLines_of_block hread]
      simp only [hsome]
      exact hdecode

/-- Every text can be replaced by one that is read to its end with the same certificates. -/
theorem exists_repaired (pem : String) : ∃ pem', decode pem' = .ok (readable (decode pem)) := by
  have hfree : ∀ line ∈ Pem.lines pem.toList, '\n' ∉ line := fun line => Pem.lineFeed_notMem
  obtain ⟨ls, hls, hdecode⟩ : ∃ ls, (∀ line ∈ ls, '\n' ∉ line) ∧
      decodeLines ls [] = .ok (readable (decode pem)) := exists_repaired_lines hfree
  cases ls with
  | nil =>
    have hempty : decode "" = .ok [] := decodeLines_of_blank rfl
    rw [decodeLines_of_blank rfl] at hdecode
    exact ⟨"", hempty.trans hdecode⟩
  | cons first more =>
    obtain ⟨s, hs⟩ := Pem.exists_lines_eq first more hls
    refine ⟨String.ofList s, ?_⟩
    rw [decode, String.toList_ofList, hs]
    exact hdecode

end Chain

end FabricGauges
