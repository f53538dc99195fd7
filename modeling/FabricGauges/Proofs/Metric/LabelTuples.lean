import FabricGauges.Proofs.Cycle.Members
import FabricGauges.Proofs.Metric.Series

/-!
# Label tuples

The families that measure nothing show the label tuples that the entries give. A tuple is given as a
whole or not at all, and only three things stand in for a label: the identifier for a name, nothing
for the address of a node, and a word of its own for a status. The members of pools have their
addresses and ports, since without them they are not joined.
-/

namespace FabricGauges

open Document (toJson)

variable {m : Metric} {p : Provenance} {r : Records} {entry : Json} {labels : List String}
  {manager : Manager} {allowed : AllowList}

/-! ## Labels that are given -/

namespace LabelSource

/-- What may stand in for a label that is not given. -/
def standIn (s : LabelSource) : Option Substitute :=
  if s.path = ["config", "display_name"] then some (.other ["config", "id"])
  else if s.path = ["config", "appliance_mgmt_listen_addr"] then some (.word "")
  else if s.name = "status" then some (.word unknownStatus)
  else none

/-- The label that an entry gives, or what may stand in for it. -/
def givenOr? (s : LabelSource) (entry : Json) : Option String :=
  (s.given? entry).or (s.standIn.bind fun substitute => substitute.read? entry)

end LabelSource

namespace Provenance

/-- An entry gives these labels, as far as nothing may stand in for them. -/
def Gives (p : Provenance) (entry : Json) (labels : List String) : Prop :=
  (p.labels.map fun s => s.givenOr? entry) = labels.map some

/-- The last of the entries that give these labels gives this value. -/
def LastGives (p : Provenance) (entries : List Json) (labels : List String) (value : Double) :
    Prop :=
  ∃ before entry after, entries = before ++ entry :: after ∧ p.Gives entry labels ∧
    p.value.read? entry = some value ∧ ∀ other ∈ after, ¬p.Gives other labels

end Provenance

/-! ## Joined records -/

namespace Records

/-- The load balancers among the records are joined from what a manager says. -/
def JoinedFrom (manager : Manager) (allowed : AllowList) : Records → Prop
  | balancers records => ∀ b ∈ records, ∃ h id, b.JoinedFrom manager h allowed id
  | _ => True

/-- A member has an address and a port. -/
theorem JoinedFrom.member (hr : r.JoinedFrom manager allowed) (h : entry ∈ r.entries .member) :
    ((entry.at? ["status", "ip_address"]).bind Json.text?).isSome ∧
      ((entry.at? ["status", "port"]).bind Json.text?).isSome := by
  cases r.hasEntry h with
  | member b p q hb hp hq =>
    obtain ⟨_, _, statistics, -, -, -, -, -, hpools⟩ := hr b hb
    obtain ⟨_, found, -, -, -, -, hmembers⟩ := hpools p hp
    obtain ⟨key, hkey, -⟩ := hmembers q hq
    obtain ⟨address, port, haddress, hport, -⟩ := memberKey_eq_some.1 hkey
    have haddress' : (q.entry p).at? ["status", "ip_address"] =
        some (toJson q.status.address) := rfl
    have hport' : (q.entry p).at? ["status", "port"] = some (toJson q.status.port) := rfl
    rw [haddress', hport', haddress, hport]
    exact ⟨rfl, rfl⟩

/-- A load balancer has the status that the manager says, whatever is allowed of it. -/
theorem JoinedFrom.balancer (hr : r.JoinedFrom manager allowed) (h : entry ∈ r.entries .balancer) :
    ∃ before id page status, manager (before ++ [.balancer id]) (.balancerStatus id) = .ok page ∧
      page.results = [status] ∧ entry.at? ["status"] = some (toJson status) := by
  cases r.hasEntry h with
  | balancer b hb =>
    obtain ⟨before, id, statistics, hdescribes, -⟩ := hr b hb
    obtain ⟨page, hpage, hresults⟩ := hdescribes.status
    exact ⟨before, id, page, b.status, hpage, hresults, rfl⟩

end Records

/-! ## Families that measure nothing -/

namespace Provenance

section

variable (hm : m.meaning ≠ .measure) (hp : m.provenance? = some p)
include hm hp

/-- Nothing else stands in for a label, but for the address and the port of a member. -/
theorem substitute_eq {s : LabelSource} (hs : s ∈ p.labels) :
    s.substitute = s.standIn ∨ p.part = .member ∧ s.form = .text ∧
      (s.path = ["status", "ip_address"] ∨ s.path = ["status", "port"]) := by
  have hall : ∀ m ∈ Metric.all, m.meaning ≠ .measure → ∀ p ∈ m.provenance?, ∀ s ∈ p.labels,
      s.substitute = s.standIn ∨ p.part = .member ∧ s.form = .text ∧
        (s.path = ["status", "ip_address"] ∨ s.path = ["status", "port"]) := by decide +kernel
  exact hall m m.mem_all hm p hp s hs

theorem gives_iff (hr : r.JoinedFrom manager allowed) (hentry : entry ∈ r.entries p.part) :
    p.Gives entry labels ↔ p.labels? entry = some labels := by
  have hread : ∀ s ∈ p.labels, s.givenOr? entry = s.read? entry := by
    intro s hs
    unfold LabelSource.givenOr? LabelSource.read?
    rcases substitute_eq hm hp hs with h | ⟨hmember, hform, hpath⟩
    · rw [h]
    · -- nothing has to stand in for what a member has
      rw [hmember] at hentry
      obtain ⟨haddress, hport⟩ := hr.member hentry
      have hgiven : (s.given? entry).isSome := by
        unfold LabelSource.given?
        rw [hform]
        rcases hpath with hpath | hpath
        · rw [hpath]
          exact haddress
        · rw [hpath]
          exact hport
      obtain ⟨label, hlabel⟩ := Option.isSome_iff_exists.1 hgiven
      rw [hlabel, Option.some_or, Option.some_or]
  rw [labels?, LabelSource.readAll?_eq_some_iff, Gives,
    List.map_congr_left hread]

end

/-- What is counted is a list in every entry. -/
theorem exists_items {path : List String} (hp : m.provenance? = some p)
    (hvalue : p.value = .count path) (hentry : entry ∈ r.entries p.part) :
    ∃ items, (entry.at? path).bind Json.items? = some items := by
  -- of the families of each kind at most one counts
  cases m with
  | cluster k => cases k <;> cases hp <;> cases hvalue
  | node k => cases k <;> cases hp <;> cases hvalue
  | balancer k =>
    cases k <;> cases hp <;> cases hvalue
    cases r.hasEntry hentry with
    | balancer b _ => exact ⟨_, Document.items?_toJson b.status.virtualServers⟩
  | virtualServer k => cases k <;> cases hp <;> cases hvalue
  | pool k =>
    cases k <;> cases hp <;> cases hvalue
    cases r.hasEntry hentry with
    | pool b q _ _ => exact ⟨_, Document.items?_toJson q.status.members⟩
  | member k => cases k <;> cases hp <;> cases hvalue
  | gateway kind k =>
    cases k <;> cases hp <;> cases hvalue
    cases r.hasEntry hentry with
    | gateway g _ => exact ⟨_, Document.items?_toJson g.state.details⟩
  | _ =>
    cases hp
    cases hvalue

/-- Every entry gives a value. -/
theorem exists_value (hm : m.meaning ≠ .measure) (hp : m.provenance? = some p)
    (hentry : entry ∈ r.entries p.part) : ∃ value, p.value.read? entry = some value := by
  have hall : ∀ m ∈ Metric.all, m.meaning ≠ .measure → ∀ p ∈ m.provenance?,
      p.value.field? = none := by decide +kernel
  have hnone := hall m m.mem_all hm p hp
  cases hvalue : p.value with
  | presence | flag _ | expected _ _ => exact ⟨_, rfl⟩
  | count path =>
    obtain ⟨items, hitems⟩ := exists_items hp hvalue hentry
    refine ⟨.ofNat items.length, ?_⟩
    rw [ValueSource.read?, hitems, Option.map_some]
  | number _ | ofThree _ _ =>
    rw [hvalue] at hnone
    cases hnone

/-- What says that something is there says nothing else. -/
theorem presence_eq (hm : m.meaning = .presence) (hp : m.provenance? = some p) :
    p.value = .presence ∧ "status" ∉ m.family.labels := by
  have hall : ∀ m ∈ Metric.all, m.meaning = .presence → ∀ p ∈ m.provenance?,
      p.value = .presence ∧ "status" ∉ m.family.labels := by decide +kernel
  exact hall m m.mem_all hm p hp

theorem count_eq (hm : m.meaning = .count) (hp : m.provenance? = some p) :
    p.extra = [] ∧ ∃ path, p.value = .count path := by
  cases m with
  | interface _ | session _ _ | traffic _ _ => cases hm
  | cluster k | node k | balancer k | virtualServer k | pool k | member k | gateway _ k =>
    cases k <;> cases hm <;> cases hp <;> exact ⟨rfl, _, rfl⟩

/-- What is there anyway has no label of its own but its status. -/
theorem extra_eq (hm : m.meaning ≠ .measure) (hpresence : m.meaning ≠ .presence)
    (hp : m.provenance? = some p) :
    p.extra.map (·.name) ∈ [[], ["status"]] ∧
      ∀ s ∈ p.extra, s.substitute = some (.word unknownStatus) := by
  have hall : ∀ m ∈ Metric.all, m.meaning ≠ .measure → m.meaning ≠ .presence →
      ∀ p ∈ m.provenance?, p.extra.map (·.name) ∈ [[], ["status"]] ∧
        ∀ s ∈ p.extra, s.substitute = some (.word unknownStatus) := by decide +kernel
  exact hall m m.mem_all hm hpresence p hp

theorem exists_labels (hm : m.meaning ≠ .measure) (hpresence : m.meaning ≠ .presence)
    (hp : m.provenance? = some p) (hentry : entry ∈ r.entries p.part) :
    ∃ labels, p.labels? entry = some labels := by
  obtain ⟨identity, hidentity⟩ := r.exists_identity hentry
  have hextra : ∃ more, LabelSource.readAll? entry p.extra = some more := by
    refine LabelSource.exists_readAll? fun s hs => ?_
    rw [LabelSource.read?, (extra_eq hm hpresence hp).2 s hs]
    cases s.given? entry with
    | none => exact ⟨unknownStatus, rfl⟩
    | some label => exact ⟨label, rfl⟩
  obtain ⟨more, hmore⟩ := hextra
  refine ⟨identity ++ more, ?_⟩
  rw [p.labels?_eq hidentity, hmore, Option.map_some]

/-- Every entry gives a value, so the last one with its labels is the one that shows. -/
theorem shows_iff (hm : m.meaning ≠ .measure) (hp : m.provenance? = some p)
    (hr : r.JoinedFrom manager allowed) {value : Double} :
    p.Shows (r.entries p.part) labels value ↔ p.LastGives (r.entries p.part) labels value := by
  refine exists_congr fun before => exists_congr fun entry => exists_congr fun after =>
    and_congr_right fun hentries => ?_
  have hmem : ∀ other ∈ entry :: after, other ∈ r.entries p.part := by
    rw [hentries]
    exact fun other hother => List.mem_append_right _ hother
  refine and_congr (gives_iff hm hp hr (hmem entry List.mem_cons_self)).symm
    (and_congr_right fun _ => forall₂_congr fun other hother => ?_)
  have hother' := hmem other (List.mem_cons_of_mem _ hother)
  obtain ⟨value', hvalue'⟩ := exists_value hm hp hother'
  rw [gives_iff hm hp hr hother', hvalue']
  simp

end Provenance

namespace Records

open Provenance

/-- A family that measures nothing has one series for each label tuple that an entry gives, with the
value of the last entry that gives it. A tuple of what is always there is given by every entry. What
is counted is a list of the entry, for a load balancer of the status that the manager says. -/
theorem series_are_the_tuples_given (hm : m.meaning ≠ .measure) (hr : r.JoinedFrom manager allowed)
    (hstage : m.stage = r.stage) (b : Board) :
    ∃ p, m.provenance? = some p ∧ p.labels.map (·.name) = m.family.labels ∧
      (∀ s ∈ p.labels, s.form = .segment ↔
        s.path.getLast? ∈ [some "pool_path", some "lb_service_path", some "edge_path"]) ∧
      (((b.publish r.stage r.samples).family m).map Prod.fst).Nodup ∧
      (∀ labels, labels ∈ ((b.publish r.stage r.samples).family m).map Prod.fst ↔
        ∃ entry ∈ r.entries p.part, p.Gives entry labels) ∧
      (∀ labels value, (labels, value) ∈ (b.publish r.stage r.samples).family m ↔
        p.LastGives (r.entries p.part) labels value) ∧
      (m.meaning = .presence → "status" ∉ m.family.labels ∧
        ∀ series ∈ (b.publish r.stage r.samples).family m, series.2 = .one) ∧
      (m.meaning ≠ .presence → p.extra.map (·.name) ∈ [[], ["status"]] ∧
        ∀ entry ∈ r.entries p.part, ∃ labels, p.Gives entry labels) ∧
      (m.meaning = .count → p.extra = [] ∧ ∃ path, p.value = .count path ∧
        ∀ entry ∈ r.entries p.part, ∃ items, (entry.at? path).bind Json.items? = some items ∧
          p.value.read? entry = some (.ofNat items.length)) ∧
      ∀ entry ∈ r.entries .balancer, ∃ before id page status,
        manager (before ++ [.balancer id]) (.balancerStatus id) = .ok page ∧
          page.results = [status] ∧ entry.at? ["status"] = some (toJson status) := by
  obtain ⟨p, hp⟩ : ∃ p, m.provenance? = some p := by
    refine Option.ne_none_iff_exists'.1 fun hnone => hm ?_
    rw [Metric.provenance?_eq_none.1 hnone]
    rfl
  have hsegment : ∀ m ∈ Metric.all, ∀ p ∈ m.provenance?, ∀ s ∈ p.labels, s.form = .segment ↔
      s.path.getLast? ∈ [some "pool_path", some "lb_service_path", some "edge_path"] := by
    decide +kernel
  -- what is shown is what the last entry gives, whatever was on the board before
  have hlast : ∀ labels value, (labels, value) ∈ (b.publish r.stage r.samples).family m ↔
      p.LastGives (r.entries p.part) labels value := by
    intro labels value
    rw [r.mem_family_iff b hp hstage, shows_iff hm hp hr]
  refine ⟨p, hp, m.names_provenance hp, hsegment m m.mem_all p hp, Board.nodup_family _ m, ?_,
    hlast, ?_, ?_, ?_, fun entry hentry => hr.balancer hentry⟩
  · intro labels
    have hkeys : labels ∈ ((b.publish r.stage r.samples).family m).map Prod.fst ↔
        ∃ value, p.Shows (r.entries p.part) labels value := by
      simp only [List.mem_map, Prod.exists, exists_eq_right, exists_and_right,
        ← r.mem_family_iff b hp hstage]
    rw [hkeys, Provenance.exists_shows_iff]
    refine exists_congr fun entry => and_congr_right fun hentry => ?_
    obtain ⟨value, hvalue⟩ := exists_value hm hp hentry
    rw [gives_iff hm hp hr hentry, hvalue]
    exact and_iff_left rfl
  · intro hpresence
    obtain ⟨hvalue, hstatus⟩ := presence_eq hpresence hp
    refine ⟨hstatus, fun series hseries => ?_⟩
    obtain ⟨before, entry, after, -, -, hread, -⟩ := (hlast series.1 series.2).1 hseries
    rw [hvalue] at hread
    exact (Option.some.inj hread).symm
  · intro hpresence
    refine ⟨(extra_eq hm hpresence hp).1, fun entry hentry => ?_⟩
    obtain ⟨labels, hlabels⟩ := exists_labels hm hpresence hp hentry
    exact ⟨labels, (gives_iff hm hp hr hentry).2 hlabels⟩
  · intro hcount
    obtain ⟨hextra, path, hvalue⟩ := count_eq hcount hp
    refine ⟨hextra, path, hvalue, fun entry hentry => ?_⟩
    obtain ⟨items, hitems⟩ := exists_items hp hvalue hentry
    refine ⟨items, hitems, ?_⟩
    rw [hvalue, ValueSource.read?, hitems, Option.map_some]

/-- A load balancer with two virtual servers, of which one is not allowed. -/
theorem rejected_virtualServer_is_counted :
    let lb : Balancer := ⟨"lb", none, none, none, none, none⟩
    let status : BalancerStatus := ⟨none, none, none, none, none, none,
      [⟨some "/vs/a", none, none⟩, ⟨some "/vs/b", none, none⟩], []⟩
    let statistics : BalancerStatistics := ⟨none, none, [⟨some "/vs/a", none⟩], []⟩
    let server (id : String) : VirtualServer := ⟨id, none, none, none, none, none⟩
    let manager : Manager
      | _, .balancer _ => .ok lb
      | _, .balancerStatus _ => .ok ⟨[status], none, none⟩
      | _, .balancerStatistics _ => .ok ⟨[statistics], none, none⟩
      | _, .virtualServer id => .ok (server id)
      | _, _ => .error (.transport "")
    let r : Records := .balancers [⟨lb, status, ⟨none, none, [], []⟩,
      [⟨server "a", ⟨some "/vs/a", none, none⟩, ⟨some "/vs/a", none⟩⟩], []⟩]
    (Metric.balancer .virtualServer).meaning ≠ .measure ∧ r.JoinedFrom manager ⟨["a"]⟩ ∧
      (Metric.balancer .virtualServer).stage = r.stage ∧
      (["lb", "lb"], Double.ofNat 2) ∈
        (Board.blank.publish r.stage r.samples).family (.balancer .virtualServer) := by
  intro lb status statistics server manager r
  have hmeaning : (Metric.balancer .virtualServer).meaning ≠ .measure := by decide
  have hr : r.JoinedFrom manager ⟨["a"]⟩ := by
    intro b hb
    obtain rfl := List.mem_singleton.1 hb
    -- the settings of "b" are asked for too, but its statistics are not looked for
    refine ⟨[], "lb", statistics, ⟨rfl, ⟨_, rfl, rfl⟩, ⟨_, rfl, rfl⟩⟩, rfl, ?_, ?_, rfl,
      List.forall_mem_nil _⟩
    · rfl
    · intro v hv
      obtain rfl := List.mem_singleton.1 hv
      exact ⟨"/vs/a", rfl, rfl⟩
  obtain ⟨p, hp, -, -, -, -, hlast, -⟩ := series_are_the_tuples_given hmeaning hr rfl .blank
  obtain rfl := Option.some.inj hp
  refine ⟨hmeaning, hr, rfl, (hlast _ _).2 ⟨[], _, [], rfl, rfl, rfl, List.forall_mem_nil _⟩⟩

end Records

end FabricGauges
