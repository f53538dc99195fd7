import FabricGauges.Client.Exchange
import FabricGauges.Proofs.Client.Base
import Mathlib.Order.Bounds.Basic
import Mathlib.Order.Lattice.Nat

/-!
# Repeated requests

A reaction is transient if the request could not be sent or was throttled. An exchange goes on as
long as the reactions are transient and the policy allows it, so it ends with the first reaction
that lasts or with the one that nothing is allowed after. `Exchange.run_eq` gives the whole exchange
from the place of that reaction; everything else is read off it.

The counts of an exchange are words of 32 bits and its delays are drawn from ranges of words.
`Exchange.runWords` is the exchange in which a count can overflow and a range can be blank.
-/

namespace FabricGauges

/-! ## Reactions -/

namespace Reaction

/-- Whether a request is sent again after a reaction, if that is allowed. -/
def isTransient : Reaction → Bool
  | unsent => true
  | answered status _ => RetryPolicy.isThrottled status

/-- What an exchange comes to that ends with a reaction. -/
def outcome {α : Type} [Document α] (url : String) : Reaction → Except ApiError α
  | unsent => .error (.transport url)
  | answered status body =>
    if isSuccess status then
      match body with
      | none => .error (.transport url)
      | some bytes => (Document.ofBytes α bytes).mapError (.decode url)
    else .error (.status status url (String.ofList (Text.ofBytes (body.getD []))))

/-- What is logged about the reaction that an exchange ends with. -/
def received (url : String) : Reaction → List Event
  | answered status (some bytes) =>
    if isSuccess status then [.responseReceived url bytes.length] else []
  | _ => []

/-- What is logged before a request is sent again. -/
def repeated (url : String) (attempt delayMs : Nat) : Reaction → Event
  | unsent => .requestRetried url attempt delayMs
  | answered status _ => .requestThrottled url status attempt delayMs

/-- A document comes of an answer that succeeded and whose body reads as the document. -/
theorem answered_of_outcome {α : Type} [Document α] {url : String} {r : Reaction} {answer : α}
    (h : r.outcome url = .ok answer) :
    ∃ status body, r = .answered status (some body) ∧ isSuccess status = true ∧
      Document.ofBytes α body = .ok answer := by
  unfold outcome at h
  split at h
  · cases h
  · next status body =>
    split_ifs at h with hsuccess
    cases body with
    | none => cases h
    | some body => exact ⟨status, body, rfl, hsuccess, mapError_eq_ok.1 h⟩

end Reaction

namespace RetryPolicy

variable {α : Type} [Document α]

theorem not_isSuccess_of_isThrottled {status : Nat} (h : isThrottled status = true) :
    isSuccess status = false := by
  simp only [isThrottled, Bool.or_eq_true, beq_iff_eq] at h
  obtain rfl | rfl := h <;> decide

/-- A verdict depends on the kind of the reaction and on what is allowed, and on nothing else. -/
theorem judge_eq (p : RetryPolicy) (url : String) (attempt delayMs : Nat) (r : Reaction) :
    (p.judge url attempt delayMs r : Verdict α) =
      if r.isTransient ∧ p.allows attempt then .again (r.repeated url (attempt + 1) delayMs)
      else .over (r.received url) (r.outcome url) := by
  unfold judge
  cases r with
  | unsent =>
    by_cases hallows : p.allows attempt = true
    · simp [Reaction.isTransient, Reaction.repeated, hallows]
    · simp [Reaction.isTransient, Reaction.received, Reaction.outcome, hallows]
  | answered status body =>
    by_cases hthrottled : isThrottled status = true
    · have hsuccess := not_isSuccess_of_isThrottled hthrottled
      by_cases hallows : p.allows attempt = true
      · simp [Reaction.isTransient, Reaction.repeated, hsuccess, hthrottled, hallows]
      · cases body <;>
          simp [Reaction.isTransient, Reaction.received, Reaction.outcome, hsuccess, hthrottled,
            hallows]
    · by_cases hsuccess : isSuccess status = true
      · cases body <;>
          simp [Reaction.isTransient, Reaction.received, Reaction.outcome, hsuccess, hthrottled]
      · cases body <;>
          simp [Reaction.isTransient, Reaction.received, Reaction.outcome, hsuccess, hthrottled]

/-! ## Where an exchange ends -/

/-- An exchange ends with this reaction: it is the first one that lasts or that nothing is allowed
after. -/
def EndsAt (p : RetryPolicy) (react : Nat → Reaction) (k : Nat) : Prop :=
  IsLeast {i | i = p.maxRetries ∨ (react i).isTransient = false} k

/-- Every call ends at some attempt, since the retries run out. -/
theorem exists_endsAt (p : RetryPolicy) (react : Nat → Reaction) : ∃ k, p.EndsAt react k := by
  have hlast : p.maxRetries ∈ {i | i = p.maxRetries ∨ (react i).isTransient = false} := .inl rfl
  exact ⟨_, Nat.sInf_mem ⟨_, hlast⟩, fun _ hi => Nat.sInf_le hi⟩

variable {p : RetryPolicy} {react : Nat → Reaction} {k : Nat}

/-- A call ends within its retries. -/
theorem EndsAt.le (h : p.EndsAt react k) : k ≤ p.maxRetries := h.2 (.inl rfl)

/-- Before its end, an exchange goes on. -/
theorem EndsAt.goes_on (h : p.EndsAt react k) {i : Nat} (hi : i < k) :
    (react i).isTransient ∧ p.allows i := by
  have hnot : ¬(i = p.maxRetries ∨ (react i).isTransient = false) := fun hmem =>
    absurd (h.2 hmem) (Nat.not_le.2 hi)
  rw [not_or, Bool.not_eq_false] at hnot
  have hlt : i < p.maxRetries := Nat.lt_of_lt_of_le hi h.le
  exact ⟨hnot.2, decide_eq_true hlt⟩

theorem EndsAt.ends (h : p.EndsAt react k) : ¬((react k).isTransient ∧ p.allows k) := by
  rintro ⟨htransient, hallows⟩
  have hlt : k < p.maxRetries := of_decide_eq_true hallows
  rcases h.1 with heq | hlasts
  · omega
  · rw [htransient] at hlasts
    cases hlasts

/-! ## Delays -/

theorem le_delayMs (p : RetryPolicy) (draw : Nat) : p.minDelayMs ≤ p.delayMs draw := by
  unfold delayMs
  split
  · exact Nat.le_add_right _ _
  · exact Nat.le_refl _

theorem delayMs_lt (h : p.minDelayMs < p.maxDelayMs) (draw : Nat) :
    p.delayMs draw < p.maxDelayMs := by
  have hrange : p.hasRange = true := decide_eq_true h
  have hmod : draw % (p.maxDelayMs - p.minDelayMs) < p.maxDelayMs - p.minDelayMs :=
    Nat.mod_lt _ (by omega)
  rw [delayMs, if_pos hrange]
  omega

theorem delayMs_le (h : p.minDelayMs ≤ p.maxDelayMs) (draw : Nat) :
    p.delayMs draw ≤ p.maxDelayMs := by
  rcases Nat.lt_or_eq_of_le h with hlt | heq
  · exact Nat.le_of_lt (delayMs_lt hlt draw)
  · have hrange : p.hasRange = false := decide_eq_false (by omega)
    rw [delayMs, hrange]
    exact h

end RetryPolicy

namespace Exchange

variable {α : Type} [Document α] {p : RetryPolicy} {url : String} {react : Nat → Reaction}
  {draw : Nat → Nat}

/-! ## The whole exchange -/

/-- An exchange that goes on from some attempt for some more, each after its delay, and then
ends. -/
def throughout (p : RetryPolicy) (url : String) (react : Nat → Reaction) (draw : Nat → Nat)
    (attempt more : Nat) : Exchange α :=
  let delay (i : Nat) : Nat := p.delayMs (draw i)
  let last := react (attempt + more)
  ⟨more + 1, (List.range' attempt more).map delay,
    (List.range' attempt more).map (fun i => (react i).repeated url (i + 1) (delay i)) ++
      last.received url,
    last.outcome url⟩

/-- One turn of an exchange. -/
theorem run_turn (p : RetryPolicy) (url : String) (react : Nat → Reaction) (draw : Nat → Nat)
    (attempt : Nat) :
    (run p url react draw attempt : Exchange α) =
      let delayMs := p.delayMs (draw attempt)
      if (react attempt).isTransient ∧ p.allows attempt then
        (run p url react draw (attempt + 1)).precededBy
          ((react attempt).repeated url (attempt + 1) delayMs) delayMs
      else ⟨1, [], (react attempt).received url, (react attempt).outcome url⟩ := by
  rw [run]
  split
  · next events result hjudge =>
    rw [RetryPolicy.judge_eq] at hjudge
    split_ifs at hjudge with hagain
    cases hjudge
    exact (if_neg hagain).symm
  · next event hjudge =>
    rw [RetryPolicy.judge_eq] at hjudge
    split_ifs at hjudge with hagain
    cases hjudge
    exact (if_pos hagain).symm

/-- Attempts go on as long as they are transient and allowed. -/
theorem run_eq_throughout {attempt more : Nat}
    (hon : ∀ i, attempt ≤ i → i < attempt + more → (react i).isTransient ∧ p.allows i)
    (hend : ¬((react (attempt + more)).isTransient ∧ p.allows (attempt + more))) :
    (run p url react draw attempt : Exchange α) = throughout p url react draw attempt more := by
  -- after a turn the exchange is one that starts an attempt later, with one turn less to go
  induction more generalizing attempt with
  | zero =>
    rw [run_turn]
    exact if_neg hend
  | succ more ih =>
    have hfirst := hon attempt (Nat.le_refl _) (by omega)
    have hnext : attempt + (more + 1) = attempt + 1 + more := by omega
    have hrest : (run p url react draw (attempt + 1) : Exchange α) =
        throughout p url react draw (attempt + 1) more :=
      ih (fun i hle hlt => hon i (by omega) (by omega)) (hnext ▸ hend)
    rw [run_turn, if_pos hfirst, hrest, throughout, throughout, precededBy, hnext, List.range'_succ]
    rfl

/-- An exchange is told by the place where it ends. -/
theorem run_eq {k : Nat} (h : p.EndsAt react k) :
    (run p url react draw 0 : Exchange α) = throughout p url react draw 0 k := by
  refine run_eq_throughout (fun i _ hi => h.goes_on (by omega)) ?_
  rw [Nat.zero_add]
  exact h.ends

@[simp]
theorem sent_throughout (attempt more : Nat) :
    (throughout p url react draw attempt more : Exchange α).sent = more + 1 := rfl

@[simp]
theorem length_delays_throughout (attempt more : Nat) :
    (throughout p url react draw attempt more : Exchange α).delays.length = more := by
  rw [throughout, List.length_map, List.length_range']

@[simp]
theorem result_throughout (attempt more : Nat) :
    (throughout p url react draw attempt more : Exchange α).result =
      (react (attempt + more)).outcome url := rfl

/-- Each delay is one that the policy picks. -/
theorem exists_draw_of_mem_delays {k d : Nat} (h : p.EndsAt react k)
    (hd : d ∈ (run p url react draw 0 : Exchange α).delays) : ∃ i, p.delayMs (draw i) = d := by
  rw [run_eq h] at hd
  obtain ⟨i, -, hi⟩ := List.mem_map.1 hd
  exact ⟨i, hi⟩

/-- Reactions after the end of an exchange do not matter. -/
theorem run_congr {react' : Nat → Reaction} {k : Nat} (h : p.EndsAt react k)
    (hreact : ∀ i ≤ k, react' i = react i) :
    (run p url react' draw 0 : Exchange α) = run p url react draw 0 := by
  -- an earlier end would be one of the other reactions as well, since they agree so far
  have hends : p.EndsAt react' k := by
    refine ⟨?_, fun i hi => ?_⟩
    · show k = p.maxRetries ∨ (react' k).isTransient = false
      rw [hreact k (Nat.le_refl k)]
      exact h.1
    · by_contra hlt
      have hle : i ≤ k := by omega
      have hmem : i = p.maxRetries ∨ (react' i).isTransient = false := hi
      rw [hreact i hle] at hmem
      exact hlt (h.2 hmem)
  have hmap : (List.range' 0 k).map (fun i => (react' i).repeated url (i + 1) (p.delayMs (draw i))) =
      (List.range' 0 k).map fun i => (react i).repeated url (i + 1) (p.delayMs (draw i)) := by
    refine List.map_congr_left fun i hi => ?_
    have hlt : i < k := by simpa using hi
    rw [hreact i (by omega)]
  rw [run_eq h, run_eq hends, throughout, throughout, Nat.zero_add, hreact k (Nat.le_refl k), hmap]

/-! ## In words -/

/-- The next count of words; counts do not wrap around. -/
def next? (attempt : UInt32) : Option {next : UInt32 // next.toNat = attempt.toNat + 1} :=
  if h : attempt.toNat + 1 < UInt32.size then
    some ⟨attempt + 1, (UInt32.toNat_add attempt 1).trans (Nat.mod_eq_of_lt h)⟩
  else none

/-- A count that some word is above has a next one. -/
theorem exists_next? {attempt limit : UInt32} (h : attempt < limit) :
    ∃ next, next? attempt = some next := by
  have hlt : attempt.toNat < limit.toNat := UInt32.lt_iff_toNat_lt.1 h
  have hlimit : limit.toNat < UInt32.size := limit.toNat_lt_size
  exact ⟨_, dif_pos (by omega)⟩

/-- The word of a range that a draw picks; nothing can be picked from a blank range. -/
def pick? (low high : UInt64) (draw : Nat) : Option UInt64 :=
  if low < high then some (low + .ofNat (draw % (high - low).toNat)) else none

/-- The delay that a draw picks for settings. -/
def delay? (c : Connection) (draw : Nat) : Option UInt64 :=
  if c.maxDelayMs ≤ c.minDelayMs then some c.minDelayMs else pick? c.minDelayMs c.maxDelayMs draw

theorem delay?_eq (c : Connection) (draw : Nat) :
    (delay? c draw).map UInt64.toNat = some ((RetryPolicy.ofConnection c).delayMs draw) := by
  by_cases hle : c.maxDelayMs ≤ c.minDelayMs
  · have hnat : c.maxDelayMs.toNat ≤ c.minDelayMs.toNat := UInt64.le_iff_toNat_le.1 hle
    have hrange : (RetryPolicy.ofConnection c).hasRange = false :=
      decide_eq_false (Nat.not_lt.2 hnat)
    rw [delay?, if_pos hle, RetryPolicy.delayMs, hrange]
    rfl
  · have hlt : c.minDelayMs < c.maxDelayMs := UInt64.not_le.1 hle
    have hnat : c.minDelayMs.toNat < c.maxDelayMs.toNat := UInt64.lt_iff_toNat_lt.1 hlt
    have hrange : (RetryPolicy.ofConnection c).hasRange = true := decide_eq_true hnat
    have hwidth : (c.maxDelayMs - c.minDelayMs).toNat = c.maxDelayMs.toNat - c.minDelayMs.toNat :=
      UInt64.toNat_sub_of_le _ _ (UInt64.le_of_lt hlt)
    have hmax : c.maxDelayMs.toNat < 2 ^ 64 := c.maxDelayMs.toNat_lt
    have hmod : draw % (c.maxDelayMs.toNat - c.minDelayMs.toNat) <
        c.maxDelayMs.toNat - c.minDelayMs.toNat := Nat.mod_lt _ (by omega)
    rw [delay?, if_neg hle, pick?, if_pos hlt, RetryPolicy.delayMs, hrange, hwidth]
    simp only [Option.map_some, Option.some.injEq, if_true]
    -- what is drawn is below the upper limit, so that neither the draw nor the sum wraps around
    rw [UInt64.toNat_add, UInt64.toNat_ofNat', Nat.mod_eq_of_lt (Nat.lt_trans hmod (by omega))]
    exact Nat.mod_eq_of_lt (by omega)

/-- The exchange in words; there is none if a count overflows or nothing can be picked. -/
def runWords (c : Connection) (url : String) (react : Nat → Reaction) (draw : Nat → Nat)
    (attempt : UInt32) : Option (Exchange α) :=
  let r := react attempt.toNat
  if r.isTransient ∧ attempt < c.maxRetries then do
    let next ← next? attempt
    let delay ← delay? c (draw attempt.toNat)
    let rest ← runWords c url react draw next.1
    return rest.precededBy (r.repeated url next.1.toNat delay.toNat) delay.toNat
  else some ⟨1, [], r.received url, r.outcome url⟩
termination_by UInt32.size - attempt.toNat
decreasing_by
  have hlt : next.1.toNat < UInt32.size := next.1.toNat_lt_size
  rw [next.2] at hlt ⊢
  omega

/-- No count of an exchange overflows, and there is always a delay. -/
theorem runWords_eq (c : Connection) (url : String) (react : Nat → Reaction) (draw : Nat → Nat)
    (attempt : UInt32) :
    (runWords c url react draw attempt : Option (Exchange α)) =
      some (run (.ofConnection c) url react draw attempt.toNat) := by
  have hallows : (RetryPolicy.ofConnection c).allows attempt.toNat = true ↔
      attempt < c.maxRetries := by
    rw [UInt32.lt_iff_toNat_lt]
    exact decide_eq_true_iff
  -- one repetition takes the attempt to the next word, which exists below the greatest number of
  -- retries
  by_cases hagain : (react attempt.toNat).isTransient ∧ attempt < c.maxRetries
  · obtain ⟨next, hnext⟩ := exists_next? hagain.2
    obtain ⟨delay, hdelay, hms⟩ := Option.map_eq_some_iff.1 (delay?_eq c (draw attempt.toNat))
    have hrest := runWords_eq c url react draw next.1
    rw [runWords, if_pos hagain, run_turn, if_pos ⟨hagain.1, hallows.2 hagain.2⟩, hnext, hdelay,
      ← hms]
    simp only [Option.bind_eq_bind, Option.bind_some, hrest, Option.pure_def, next.2]
  · have hover : ¬((react attempt.toNat).isTransient ∧
        (RetryPolicy.ofConnection c).allows attempt.toNat) := fun hon =>
      hagain ⟨hon.1, hallows.1 hon.2⟩
    rw [runWords, if_neg hagain, run_turn, if_neg hover]
termination_by UInt32.size - attempt.toNat
decreasing_by
  have hlt : next.1.toNat < UInt32.size := next.1.toNat_lt_size
  rw [next.2] at hlt ⊢
  omega

end Exchange

namespace Client

/-! ## Requests of a client -/

/-- What comes of each repetition of a request over a network. -/
def reaction (c : Client) (network : Network) (r : Request) (attempt : Nat) : Reaction :=
  match c.location r with
  | .ok url => network url attempt
  | .error _ => .unsent

theorem exchange_eq (c : Client) (network : Network) (draw : Nat → Nat) (r : Request) :
    c.exchange network draw r = Exchange.run c.policy (c.url r) (c.reaction network r) draw 0 :=
  rfl

/-- An exchange consists of its attempts up to the one where it ends. -/
theorem exchange_eq_throughout {c : Client} {network : Network} {r : Request} {k : Nat}
    (hk : c.policy.EndsAt (c.reaction network r) k) (draw : Nat → Nat) :
    c.exchange network draw r =
      Exchange.throughout c.policy (c.url r) (c.reaction network r) draw 0 k := by
  rw [exchange_eq, Exchange.run_eq hk]

/-- What comes of a request depends on the one URL that it asks for. -/
theorem reaction_congr {c : Client} {network network' : Network} {r : Request} {attempt : Nat}
    (h : ∀ v, c.location r = .ok v → network' v attempt = network v attempt) :
    c.reaction network' r attempt = c.reaction network r attempt := by
  unfold reaction
  cases hv : c.location r with
  | ok v => exact h v hv
  | error fault => rfl

/-- A client that is made from settings sends a request until a reaction lasts or the repetitions
are used up. It waits before each repetition, for a delay in the range of the settings; the last
reaction tells the result. Each time it asks for the same: a network that answers alike up to that
reaction makes no difference. No count overflows and no blank range is drawn from. -/
theorem requests_are_repeated_to_first_lasting {files : Files} {c : Connection} {client : Client}
    (h : make files c = .ok client) (network : Network) (draw : Nat → Nat) (r : Request) :
    ∃ k, IsLeast {i | i = c.maxRetries.toNat ∨
        (client.reaction network r i).isTransient = false} k ∧
      let e := client.exchange network draw r
      e.sent = k + 1 ∧ e.delays.length = k ∧
        (∀ d ∈ e.delays, c.minDelayMs.toNat ≤ d ∧ d ≤ c.maxDelayMs.toNat ∧
          (c.minDelayMs ≠ c.maxDelayMs → d < c.maxDelayMs.toNat)) ∧
        e.result = (client.reaction network r k).outcome (client.url r) ∧
        (∀ network' : Network,
          (∀ v, client.location r = .ok v → ∀ i ≤ k, network' v i = network v i) →
            client.exchange network' draw r = e) ∧
        Exchange.runWords c (client.url r) (client.reaction network r) draw 0 = some e := by
  obtain ⟨hcheck, -, hpolicy⟩ := parts_of_make h
  have hdelays : c.minDelayMs ≤ c.maxDelayMs := (Connection.check_eq_ok_iff.1 hcheck).delays
  have hle : c.minDelayMs.toNat ≤ c.maxDelayMs.toNat := UInt64.le_iff_toNat_le.1 hdelays
  -- the attempt where the exchange ends, by which all else is counted
  obtain ⟨k, hk⟩ := client.policy.exists_endsAt (client.reaction network r)
  have hrun := exchange_eq_throughout hk draw
  refine ⟨k, ?_, ?_, ?_, ?_, ?_, ?_, ?_⟩
  · rw [hpolicy] at hk
    exact hk
  · rw [hrun, Exchange.sent_throughout]
  · rw [hrun, Exchange.length_delays_throughout]
  · intro d hd
    obtain ⟨i, rfl⟩ := Exchange.exists_draw_of_mem_delays hk hd
    rw [hpolicy]
    have hmin := (RetryPolicy.ofConnection c).le_delayMs (draw i)
    have hmax := RetryPolicy.delayMs_le (p := .ofConnection c) hle (draw i)
    refine ⟨hmin, hmax, fun hne => ?_⟩
    have hlt : c.minDelayMs.toNat < c.maxDelayMs.toNat :=
      Nat.lt_of_le_of_ne hle fun heq => hne (UInt64.toNat_inj.1 heq)
    exact RetryPolicy.delayMs_lt (p := .ofConnection c) hlt (draw i)
  · rw [hrun, Exchange.result_throughout, Nat.zero_add]
  -- the exchange looks at the network only up to that attempt
  · intro network' hnetwork
    rw [exchange_eq, exchange_eq]
    exact Exchange.run_congr hk fun i hi => reaction_congr fun v hv => hnetwork v hv i hi
  · rw [Exchange.runWords_eq, exchange_eq, hpolicy]
    rfl

/-- A request that could not be sent, was throttled, and was then refused. -/
theorem throttled_request_is_repeated :
    let c := { Connection.blank with
      url := "http://nsx.test", username := some "admin", password := some "secret",
      minDelayMs := 10, maxDelayMs := 20 }
    let network : Network := fun _ attempt =>
      if attempt = 0 then .unsent
      else if attempt = 1 then .answered 503 none
      else .answered 404 (some (Text.utf8 "no".toList))
    ∃ client, make (fun _ => .error .missing) c = .ok client ∧
      let e := client.exchange network id .clusterStatus
      e.sent = 3 ∧ e.delays.length = 2 ∧ (∀ d ∈ e.delays, 10 ≤ d ∧ d < 20) ∧
        e.result = .error (.status 404 "http://nsx.test/api/v1/cluster/status" "no") := by
  intro c network
  have hclient : make (fun _ => .error .missing) c =
      .ok ⟨withoutSlashes c.url, some ("admin", "secret"), .ofConnection c⟩ := by decide +kernel
  refine ⟨_, hclient, ?_⟩
  obtain ⟨k, hk, hsent, hlength, hdelays, hresult, -⟩ :=
    requests_are_repeated_to_first_lasting hclient network id .clusterStatus
  -- the first two reactions are transient, so the exchange ends with the third
  have hlast : IsLeast {i | i = c.maxRetries.toNat ∨
      (reaction ⟨withoutSlashes c.url, some ("admin", "secret"), .ofConnection c⟩ network
        .clusterStatus i).isTransient = false} 2 := by
    refine ⟨.inr (by decide +kernel), fun i hi => ?_⟩
    by_contra hlt
    obtain rfl | rfl : i = 0 ∨ i = 1 := by omega
    · exact absurd hi (by decide +kernel)
    · exact absurd hi (by decide +kernel)
  obtain rfl := hk.unique hlast
  refine ⟨hsent, hlength, fun d hd => ?_, ?_⟩
  · obtain ⟨hmin, -, hmax⟩ := hdelays d hd
    exact ⟨hmin, hmax (by decide)⟩
  · have hreaction : reaction ⟨withoutSlashes c.url, some ("admin", "secret"), .ofConnection c⟩
        network .clusterStatus 2 = .answered 404 (some (Text.utf8 "no".toList)) := by decide +kernel
    have hurl : url ⟨withoutSlashes c.url, some ("admin", "secret"), .ofConnection c⟩
        .clusterStatus = "http://nsx.test/api/v1/cluster/status" := by decide +kernel
    have hbody : String.ofList (Text.ofBytes (Text.utf8 "no".toList)) = "no" := by decide +kernel
    rw [hresult, hreaction, hurl, Reaction.outcome, if_neg (by decide), Option.getD_some, hbody]

/-! ## Failed transports -/

/-- A transport error is a request that is not sent, or a good answer whose body is not read. -/
theorem outcome_eq_transport_iff {α : Type} [Document α] {url : String} {reaction : Reaction} :
    (∃ shown, (reaction.outcome url : Except ApiError α) = .error (.transport shown)) ↔
      reaction = .unsent ∨
        ∃ status, isSuccess status = true ∧ reaction = .answered status none := by
  unfold Reaction.outcome
  cases reaction with
  | unsent => simp
  | answered status body =>
    by_cases hsuccess : isSuccess status = true
    · cases body with
      | none => simp [hsuccess]
      | some bytes => simp [hsuccess, mapError_eq_error]
    · simp [hsuccess]

/-- An exchange fails for want of an answer if the request could not be sent even after all
repetitions, or if it succeeded and the body of the answer could not be read. The latter is not
repeated. -/
theorem transport_fails_iff (c : Client) (network : Network) (draw : Nat → Nat) (r : Request) :
    let e := c.exchange network draw r
    (∃ url, e.result = .error (.transport url)) ↔
      (e.sent = c.policy.maxRetries + 1 ∧
        c.reaction network r c.policy.maxRetries = .unsent) ∨
      ∃ status, isSuccess status = true ∧
        c.reaction network r (e.sent - 1) = .answered status none := by
  obtain ⟨k, hk⟩ := c.policy.exists_endsAt (c.reaction network r)
  simp only [exchange_eq_throughout hk draw, Exchange.sent_throughout, Exchange.result_throughout,
    Nat.zero_add, outcome_eq_transport_iff, Nat.add_sub_cancel, Nat.add_right_cancel_iff]
  -- an exchange that ends with a failure to send has nothing left that would be allowed
  refine or_congr_left ⟨fun hunsent => ?_, ?_⟩
  · have htransient : (c.reaction network r k).isTransient = true := by
      rw [hunsent]
      rfl
    have hused : k = c.policy.maxRetries := hk.1.resolve_right (by simp [htransient])
    exact ⟨hused, hused ▸ hunsent⟩
  · rintro ⟨rfl, hunsent⟩
    exact hunsent

/-- An answer that is cut short is not asked for again, though that is allowed. -/
theorem unreadable_body_is_not_asked_for_again :
    let c := { Connection.blank with
      url := "http://nsx.test", username := some "admin", password := some "secret",
      maxRetries := 1 }
    let network : Network := fun _ _ => .answered 200 none
    ∃ client, make (fun _ => .error .missing) c = .ok client ∧
      let e := client.exchange network id .clusterStatus
      e.result = .error (.transport "http://nsx.test/api/v1/cluster/status") ∧ e.sent = 1 ∧
        e.sent ≠ c.maxRetries.toNat + 1 := by
  intro c network
  have hclient : make (fun _ => .error .missing) c =
      .ok ⟨withoutSlashes c.url, some ("admin", "secret"), .ofConnection c⟩ := by decide +kernel
  have hreaction : reaction ⟨withoutSlashes c.url, some ("admin", "secret"), .ofConnection c⟩
      network .clusterStatus 0 = .answered 200 none := by decide +kernel
  have hurl : url ⟨withoutSlashes c.url, some ("admin", "secret"), .ofConnection c⟩
      .clusterStatus = "http://nsx.test/api/v1/cluster/status" := by decide +kernel
  refine ⟨_, hclient, ?_⟩
  rw [exchange_eq, Exchange.run_turn, hreaction, hurl, if_neg (by decide)]
  exact ⟨rfl, rfl, by decide⟩

end Client

end FabricGauges
