import FabricGauges.Proofs.Certificate.Chain

/-!
# Chains one behind the other

A chain is read in rounds. Each takes the next block off the lines that are left, so there are no
more rounds than lines, and none looks at lines behind its own block. A chain that is read to its
end is therefore read in the same rounds when another one follows on a new line, and then the rounds
of that one come, with its certificates numbered on.
-/

namespace FabricGauges

namespace Pem

variable {ls : List Line}

theorem trimStart_append_of_blank (h : trimStart ls = []) (more : List Line) :
    trimStart (ls ++ more) = trimStart more := by
  induction ls with
  | nil => rfl
  | cons line ls ih =>
    rw [trimStart] at h
    split at h
    · next hblank =>
      rw [List.cons_append, trimStart, hblank]
      exact ih h
    · cases h

theorem trimStart_append (h : trimStart ls ≠ []) (more : List Line) :
    trimStart (ls ++ more) = trimStart ls ++ more := by
  induction ls with
  | nil => exact absurd rfl h
  | cons line ls ih =>
    rw [List.cons_append, trimStart, trimStart]
    rw [trimStart] at h
    split
    · next hblank =>
      rw [hblank] at h
      exact ih h
    · rfl

/-- A block is read whatever follows, and what follows stays behind it. -/
theorem read_append {block : Block} (h : read ls = .ok block) (more : List Line) :
    read (ls ++ more) = .ok ⟨block.content, block.rest ++ more⟩ := by
  obtain ⟨first, used, rfl, hreads⟩ := exists_used_of_read h
  rw [List.append_assoc]
  exact hreads (block.rest ++ more)

/-- The lines of two texts with a line feed between them are those of the one and then those of the
other. -/
theorem lines_append (s t : List Char) : lines (s ++ '\n' :: t) = lines s ++ lines t := by
  simp only [lines_eq_pieces]
  exact Text.pieces_append_cut (by decide) s t

end Pem

namespace Chain

variable {ls : List Pem.Line} {parsed es : List Expiry}

/-! ## Rounds -/

/-- Where the reading of a chain stands: the lines that are left, and the certificates so far. -/
structure Reading where
  rest : List Pem.Line
  parsed : List Expiry

namespace Reading

/-- Before the first block of a text. -/
def start (pem : String) : Reading := ⟨Pem.lines pem.toList, []⟩

/-- One more round, if it reads a certificate. -/
def next? (r : Reading) : Option Reading :=
  match Pem.read (Pem.trimStart r.rest) with
  | .error _ => none
  | .ok block => (Certificate.notAfter? block.content).map fun notAfter =>
      ⟨block.rest, r.parsed ++ [⟨r.parsed.length, notAfter⟩]⟩

/-- Some rounds, if each reads a certificate. -/
def rounds : Nat → Reading → Option Reading
  | 0, r => some r
  | k + 1, r => r.next?.bind (rounds k)

/-- What is read in the end. -/
def result (r : Reading) : Except BrokenChain (List Expiry) := decodeLines r.rest r.parsed

variable {r r' : Reading}

theorem next?_eq_some_iff : r.next? = some r' ↔ ∃ block notAfter,
    Pem.read (Pem.trimStart r.rest) = .ok block ∧
      Certificate.notAfter? block.content = some notAfter ∧
      r' = ⟨block.rest, r.parsed ++ [⟨r.parsed.length, notAfter⟩]⟩ := by
  unfold next?
  cases Pem.read (Pem.trimStart r.rest) with
  | error fault => simp
  | ok block =>
    simp only [Option.map_eq_some_iff, Except.ok.injEq]
    constructor
    · rintro ⟨notAfter, hsome, rfl⟩
      exact ⟨block, notAfter, rfl, hsome, rfl⟩
    · rintro ⟨_, notAfter, rfl, hsome, rfl⟩
      exact ⟨notAfter, hsome, rfl⟩

/-- A round takes at least one line. -/
theorem length_rest_next? (h : r.next? = some r') : r'.rest.length < r.rest.length := by
  obtain ⟨block, notAfter, hread, -, rfl⟩ := next?_eq_some_iff.1 h
  exact Nat.lt_of_lt_of_le (Pem.length_rest_lt hread) (Pem.length_trimStart_le r.rest)

/-- A round does not change what is read in the end. -/
theorem result_next? (h : r.next? = some r') : r'.result = r.result := by
  obtain ⟨block, notAfter, hread, hsome, rfl⟩ := next?_eq_some_iff.1 h
  rw [result, result, decodeLines_of_block hread, hsome]

/-- When there is no round any more, reading ends with the certificates so far. -/
theorem parsed_of_next?_eq_none (h : r.next? = none) : r.parsed = readable r.result := by
  unfold next? at h
  rw [result]
  by_cases hblank : Pem.trimStart r.rest = []
  · rw [decodeLines_of_blank hblank]
    rfl
  · cases hread : Pem.read (Pem.trimStart r.rest) with
    | error fault =>
      rw [decodeLines_of_fault hblank hread]
      rfl
    | ok block =>
      rw [hread] at h
      rw [decodeLines_of_block hread, Option.map_eq_none_iff.1 h]
      rfl

/-- Reading comes to its end: after some rounds, not more than there are lines, there is none any
more, and the certificates so far are those that are read in the end. -/
theorem exists_rounds (r : Reading) : ∃ k ≤ r.rest.length, ∃ r',
    rounds k r = some r' ∧ r'.next? = none ∧ r'.parsed = readable r.result := by
  induction hlength : r.rest.length using Nat.strongRecOn generalizing r with
  | ind n ih =>
    cases hnext : r.next? with
    | none => exact ⟨0, Nat.zero_le _, r, rfl, hnext, parsed_of_next?_eq_none hnext⟩
    | some r₁ =>
      have hshorter := length_rest_next? hnext
      obtain ⟨k, hk, r', hrounds, hends, hparsed⟩ := ih _ (hlength ▸ hshorter) r₁ rfl
      rw [result_next? hnext] at hparsed
      refine ⟨k + 1, by omega, r', ?_, hends, hparsed⟩
      rw [rounds, hnext]
      exact hrounds

/-- One round after another is one round more. -/
theorem rounds_succ (k : Nat) (r : Reading) : rounds (k + 1) r = (rounds k r).bind next? := by
  induction k generalizing r with
  | zero => cases h : r.next? <;> simp [rounds, h]
  | succ k ih =>
    rw [rounds, rounds]
    cases r.next? with
    | none => rfl
    | some r' => exact ih r'

/-- Every round numbers its certificate with the number of those before it. -/
theorem exists_parsed_next? (h : r.next? = some r') :
    ∃ notAfter, r'.parsed = r.parsed ++ [⟨r.parsed.length, notAfter⟩] := by
  obtain ⟨-, notAfter, -, -, rfl⟩ := next?_eq_some_iff.1 h
  exact ⟨notAfter, rfl⟩

theorem length_parsed_rounds {k : Nat} (h : rounds k r = some r') :
    r'.parsed.length = r.parsed.length + k := by
  induction k generalizing r' with
  | zero =>
    obtain rfl := Option.some.inj h
    rfl
  | succ k ih =>
    rw [rounds_succ] at h
    obtain ⟨before, hbefore, hnext⟩ := Option.bind_eq_some_iff.1 h
    obtain ⟨notAfter, hparsed⟩ := exists_parsed_next? hnext
    rw [hparsed, List.length_append, ih hbefore]
    rfl

/-- Each certificate behind the first ones is that of a round of its own. -/
theorem exists_round_of_getElem? {k i : Nat} {e : Expiry} (h : rounds k r = some r')
    (he : r'.parsed[r.parsed.length + i]? = some e) :
    ∃ before after, rounds i r = some before ∧ before.next? = some after ∧
      after.parsed = before.parsed ++ [e] := by
  induction k generalizing r' with
  | zero =>
    obtain rfl := Option.some.inj h
    simp at he
  | succ k ih =>
    rw [rounds_succ] at h
    obtain ⟨last, hlast, hnext⟩ := Option.bind_eq_some_iff.1 h
    obtain ⟨notAfter, hparsed⟩ := exists_parsed_next? hnext
    have hlength := length_parsed_rounds hlast
    rw [hparsed, List.getElem?_append] at he
    split at he
    · exact ih hlast he
    · next hbehind =>
      -- the certificate is the one that the last round appends
      obtain rfl : i = k := by
        have hone := (List.getElem?_eq_some_iff.1 he).1
        simp only [List.length_singleton] at hone
        omega
      rw [hlength, Nat.sub_self] at he
      obtain rfl := Option.some.inj he
      exact ⟨last, r', hlast, hnext, hlength ▸ hparsed⟩

end Reading

/-! ## What follows a chain -/

/-- What is read depends on the lines only from their first character that is not blank. -/
theorem decodeLines_congr {ls' : List Pem.Line} (h : Pem.trimStart ls = Pem.trimStart ls') :
    decodeLines ls parsed = decodeLines ls' parsed := by
  by_cases hblank : Pem.trimStart ls = []
  · rw [decodeLines_of_blank hblank, decodeLines_of_blank (h ▸ hblank)]
  · cases hread : Pem.read (Pem.trimStart ls) with
    | error fault =>
      rw [decodeLines_of_fault hblank hread, decodeLines_of_fault (h ▸ hblank) (h ▸ hread)]
    | ok block => rw [decodeLines_of_block hread, decodeLines_of_block (h ▸ hread)]

/-- Lines that are read to their end are read in the same way before others, and these are read on
with what they gave. -/
theorem decodeLines_append (h : decodeLines ls parsed = .ok es) (more : List Pem.Line) :
    decodeLines (ls ++ more) parsed = decodeLines more es := by
  -- the rounds of the decoder; only the last case goes on to another round
  induction ls, parsed using decodeLines.induct with
  | case1 ls parsed hblank =>
    rw [decodeLines_of_blank hblank] at h
    obtain rfl := Except.ok.inj h
    exact decodeLines_congr (Pem.trimStart_append_of_blank hblank more)
  | case2 ls parsed fault hread hne =>
    rw [decodeLines_of_fault hne hread] at h
    cases h
  | case3 ls parsed block hread hnone hne =>
    rw [decodeLines_of_block hread, hnone] at h
    cases h
  | case4 ls parsed block hread notAfter hsome hlt hne ih =>
    have hreadMore : Pem.read (Pem.trimStart (ls ++ more)) =
        .ok ⟨block.content, block.rest ++ more⟩ := by
      rw [Pem.trimStart_append hne]
      exact Pem.read_append hread more
    rw [decodeLines_of_block hread] at h
    rw [decodeLines_of_block hreadMore]
    simp only [hsome] at h ⊢
    exact ih h

/-! ## Counting on -/

end Chain

/-- A certificate at a later place. -/
def Expiry.shift (n : Nat) (e : Expiry) : Expiry := { e with index := n + e.index }

/-- The break of a chain behind other certificates. -/
def BrokenChain.behind (es : List Expiry) (broken : BrokenChain) : BrokenChain :=
  ⟨es.length + broken.index, broken.fault, es ++ broken.parsed.map (·.shift es.length)⟩

namespace Chain

/-- What is read of a chain behind other certificates. -/
def behind (es : List Expiry) : Except BrokenChain (List Expiry) → Except BrokenChain (List Expiry)
  | .ok fs => .ok (es ++ fs.map (·.shift es.length))
  | .error broken => .error (broken.behind es)

/-- Lines are read behind other certificates as they are read alone, with their certificates counted
on. -/
theorem decodeLines_behind (ls : List Pem.Line) (parsed es : List Expiry) :
    decodeLines ls (es ++ parsed.map (·.shift es.length)) = behind es (decodeLines ls parsed) := by
  have hlength : ∀ parsed : List Expiry,
      (es ++ parsed.map (·.shift es.length)).length = es.length + parsed.length := by simp
  induction ls, parsed using decodeLines.induct with
  | case1 ls parsed hblank =>
    rw [decodeLines_of_blank hblank, decodeLines_of_blank hblank]
    rfl
  | case2 ls parsed fault hread hne =>
    rw [decodeLines_of_fault hne hread, decodeLines_of_fault hne hread, hlength]
    rfl
  | case3 ls parsed block hread hnone hne =>
    rw [decodeLines_of_block hread, decodeLines_of_block hread, hnone, hlength]
    rfl
  | case4 ls parsed block hread notAfter hsome hlt hne ih =>
    rw [decodeLines_of_block hread, decodeLines_of_block hread, hsome, ← ih, hlength]
    simp only [List.map_append, List.append_assoc]
    rfl

/-- A broken chain counts the certificates before its break. -/
theorem index_of_broken {broken : BrokenChain} (h : decodeLines ls parsed = .error broken) :
    broken.index = broken.parsed.length := by
  induction ls, parsed using decodeLines.induct with
  | case1 ls parsed hblank =>
    rw [decodeLines_of_blank hblank] at h
    cases h
  | case2 ls parsed fault hread hne =>
    rw [decodeLines_of_fault hne hread] at h
    obtain rfl := Except.error.inj h
    rfl
  | case3 ls parsed block hread hnone hne =>
    rw [decodeLines_of_block hread, hnone] at h
    obtain rfl := Except.error.inj h
    rfl
  | case4 ls parsed block hread notAfter hsome hlt hne ih =>
    rw [decodeLines_of_block hread, hsome] at h
    exact ih h

/-- A chain that is read to its end is read in the same way when another one follows on a new line,
and then that one is read as it would be alone, with its places counted on: its certificates follow
when it is whole, and otherwise its error counts and keeps those before it. Reading any text comes
to its end after no more rounds than the text has lines. The certificates it gives are numbered from
zero in the order of the rounds that read them, and an error is at the place behind them. -/
theorem chains_are_read_one_after_the_other :
    (∀ (a b : String) (es : List Expiry), decode a = .ok es →
      decode (a ++ "\n" ++ b) = behind es (decode b)) ∧
    ∀ pem : String,
      (∃ last, Reading.rounds (readable (decode pem)).length (.start pem) = some last ∧
        last.next? = none ∧ last.parsed = readable (decode pem)) ∧
      (readable (decode pem)).length ≤ (Pem.lines pem.toList).length ∧
      (∀ (i : Nat) (e : Expiry), (readable (decode pem))[i]? = some e →
        e.index = i ∧ ∃ before after, Reading.rounds i (.start pem) = some before ∧
          before.next? = some after ∧ after.parsed = before.parsed ++ [e]) ∧
      ∀ broken, decode pem = .error broken → broken.index = broken.parsed.length := by
  refine ⟨fun a b es ha => ?_, fun pem => ?_⟩
  -- the text is cut between two lines, so the rounds of the first part come first
  · have hlines : Pem.lines (a ++ "\n" ++ b).toList =
        Pem.lines a.toList ++ Pem.lines b.toList := by
      rw [String.append_assoc, String.toList_append, String.toList_append]
      exact Pem.lines_append a.toList b.toList
    have hbehind := decodeLines_behind (Pem.lines b.toList) [] es
    rw [List.map_nil, List.append_nil] at hbehind
    rw [decode, hlines, decodeLines_append ha, hbehind, decode]
  -- the rounds that are counted are as many as the certificates that were read
  · obtain ⟨k, hk, last, hrounds, hends, hparsed⟩ := (Reading.start pem).exists_rounds
    have hread : last.parsed = readable (decode pem) := hparsed
    obtain rfl : (readable (decode pem)).length = k := by
      rw [← hread, Reading.length_parsed_rounds hrounds]
      exact Nat.zero_add k
    refine ⟨⟨last, hrounds, hends, hread⟩, hk, fun i e he => ⟨index_eq_of_getElem? he, ?_⟩,
      fun broken hbroken => index_of_broken hbroken⟩
    refine Reading.exists_round_of_getElem? hrounds ?_
    rw [hread]
    exact (Nat.zero_add i).symm ▸ he

/-- A certificate twice, and then rubble: the second one has the place behind the first, and the
rubble the place behind both. -/
theorem rubble_is_placed_behind_two_certificates :
    let pem := "-----BEGIN C-----\nMEMwOAIBATAEBgIqAzAAMB4XDTI2MDEwMTAwMDAwMFoXDTM2MDEwMTAwMDAwMFow" ++
      "ADAJMAQGAioDAwEAMAQGAioDAwEA\n-----END C-----"
    decode (pem ++ "\n" ++ pem) = .ok [⟨0, 2082758400⟩, ⟨1, 2082758400⟩] ∧
      decode (pem ++ "\n" ++ pem ++ "\n" ++ "rubble") =
        .error ⟨2, .pem .missingHeader, [⟨0, 2082758400⟩, ⟨1, 2082758400⟩]⟩ ∧
      ∃ before after, Reading.rounds 1 (.start (pem ++ "\n" ++ pem)) = some before ∧
        before.next? = some after ∧ after.parsed = before.parsed ++ [⟨1, 2082758400⟩] := by
  intro pem
  have hone : decode pem = .ok [⟨0, 2082758400⟩] := by decide +kernel
  have hrubble : decode "rubble" = .error ⟨0, .pem .missingHeader, []⟩ := by decide +kernel
  have htwo : decode (pem ++ "\n" ++ pem) = .ok [⟨0, 2082758400⟩, ⟨1, 2082758400⟩] := by
    rw [chains_are_read_one_after_the_other.1 pem pem _ hone, hone]
    rfl
  refine ⟨htwo, ?_, ?_⟩
  · rw [chains_are_read_one_after_the_other.1 _ "rubble" _ htwo, hrubble]
    rfl
  · refine ((chains_are_read_one_after_the_other.2 (pem ++ "\n" ++ pem)).2.2.1 1 _ ?_).2
    rw [htwo]
    rfl

end Chain

end FabricGauges
