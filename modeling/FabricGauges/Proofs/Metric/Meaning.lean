import FabricGauges.Cycle.Basic
import FabricGauges.Proofs.Decimal.Natural

/-!
# What the values of a family say

Some families do not measure anything. Their values say whether the status in the label beside them
is the expected one, that something is there, yes or no, or how many there are of something. The
label and the value of a status come from the document apart from each other, and the label of a
status that is not known is a word that no status is expected to be.
-/

namespace FabricGauges

/-- What the values of a family say. -/
inductive Meaning where
  /-- Whether the status in the label for it is the expected one. -/
  | status (expected : String)
  /-- That something is there. -/
  | presence
  /-- Yes or no. -/
  | flag
  /-- How many there are. -/
  | count
  /-- A quantity. -/
  | measure
deriving DecidableEq, Repr

/-- What the values of a family say. -/
def Metric.meaning : Metric → Meaning
  | cluster _ => .status stableStatus
  | balancer .status | virtualServer .status | pool .status | member .status => .status upStatus
  | node .version | node .interface | balancer .info | balancer .error | balancer .alarm |
    virtualServer .info | virtualServer .alarm | pool .info | pool .alarm | member .failure |
    gateway _ .info | gateway _ .failure | gateway _ .edge => .presence
  | node .status | balancer .enable | virtualServer .enable | gateway _ .status => .flag
  | balancer .virtualServer | pool .member | gateway _ .transport => .count
  | _ => .measure

example : (Metric.all.filter fun m => m.meaning = .presence).map (·.family.name) =
    ["cluster_node_version", "cluster_node_interface", "load_balancer_info", "load_balancer_error",
      "load_balancer_alarm", "virtual_server_info", "virtual_server_alarm", "pool_info",
      "pool_alarm", "pool_member_failure", "tier0_info", "tier0_failure", "tier0_edge",
      "tier1_info", "tier1_failure", "tier1_edge"] := by decide

/-- A value says what it is meant to say under these labels with their names. -/
def Meaning.Holds (labels : List (String × String)) (value : Double) : Meaning → Prop
  | status expected => ∃ shown, labels.lookup "status" = some shown ∧
      value = if shown = expected then .one else .zero
  | presence => value = .one
  | flag => value = .zero ∨ value = .one
  | count => value.IsNatural
  | measure => True

/-- The value of a sample says what the values of its family say. -/
def Sample.Coherent (s : Sample) : Prop :=
  s.metric.meaning.Holds (s.metric.family.labels.zip s.labels) s.value

/-! ## Values -/

/-- The value of a status says whether the label shows the expected status, which is never that of
an unknown one. -/
theorem statusValue_eq {expected : String} (h : expected ≠ unknownStatus)
    (status : Option String) :
    statusValue status expected = if statusLabel status = expected then .one else .zero := by
  cases status with
  | none => rw [statusLabel, Option.getD_none, if_neg h.symm, statusValue, if_neg nofun]
  | some status =>
    have hiff : some status = some expected ↔ statusLabel (some status) = expected :=
      Option.some_inj
    unfold statusValue
    simp only [hiff]

/-- The value of a status is zero or one. -/
theorem statusValue_zero_or_one (status : Option String) (expected : String) :
    statusValue status expected = .zero ∨ statusValue status expected = .one := by
  unfold statusValue
  split
  · exact .inr rfl
  · exact .inl rfl

/-- The value of a flag is zero or one. -/
theorem flagValue_zero_or_one (flag : Option Bool) :
    flagValue flag = .zero ∨ flagValue flag = .one := by
  unfold flagValue
  split
  · exact .inr rfl
  · exact .inl rfl

/-! ## Samples -/

/-- All samples of a list say what they are meant to say. -/
def Coherent (samples : List Sample) : Prop := ∀ s ∈ samples, s.Coherent

namespace Sample.Coherent

variable {s : Sample}

theorem of_measure (h : s.metric.meaning = .measure) : s.Coherent := by
  unfold Sample.Coherent
  rw [h]
  trivial

/-- A sample of presence is one. -/
theorem of_presence (h : s.metric.meaning = .presence) (hvalue : s.value = .one) : s.Coherent := by
  unfold Sample.Coherent
  rw [h]
  exact hvalue

theorem of_flag (h : s.metric.meaning = .flag) (hvalue : s.value = .zero ∨ s.value = .one) :
    s.Coherent := by
  unfold Sample.Coherent
  rw [h]
  exact hvalue

/-- A count is a natural number. -/
theorem of_count (h : s.metric.meaning = .count) (hvalue : s.value.IsNatural) : s.Coherent := by
  unfold Sample.Coherent
  rw [h]
  exact hvalue

/-- A status is shown as the last label of its family. -/
theorem of_status {m : Metric} {names labels : List String} {expected : String}
    (h : m.meaning = .status expected) (hexpected : expected ≠ unknownStatus)
    (hnames : m.family.labels = names ++ ["status"]) (hlength : names.length = labels.length)
    (hname : "status" ∉ names) (status : Option String) :
    (⟨m, labels ++ [statusLabel status], statusValue status expected⟩ : Sample).Coherent := by
  unfold Sample.Coherent
  rw [h, hnames, List.zip_append hlength]
  refine ⟨statusLabel status, ?_, statusValue_eq hexpected status⟩
  have hbefore : (names.zip labels).lookup "status" = none := by
    refine List.lookup_eq_none_iff.2 fun entry hentry => ?_
    have hne : entry.1 ≠ "status" := fun heq => hname (heq ▸ (List.of_mem_zip hentry).1)
    simpa using hne.symm
  rw [List.lookup_append, hbefore]
  rfl

end Sample.Coherent

end FabricGauges
