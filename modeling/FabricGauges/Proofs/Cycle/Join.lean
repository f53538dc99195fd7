import FabricGauges.Proofs.Cycle.Stages
import FabricGauges.Proofs.Record.Index
import FabricGauges.Proofs.Script.Manager

/-!
# Joining the records of a load balancer

When a load balancer can be fetched, and what is fetched then. `Joinable` is the whole condition:
the manager gives the three documents about the load balancer and the settings of everything that
the status names, and the statistics have a record for every key that is looked up. `JoinedFrom`
says what the record is made of. Neither mentions indexes: a lookup is a search for the first record
with the key.

A manager may answer the same request differently at another time, so the settings of a resource are
those that it gives after the requests for the resources before.
-/

namespace FabricGauges

variable {α β γ : Type}

/-! ## Lists of results -/

/-- Partners for all items are found one by one. -/
theorem exists_forall₂ {R : α → β → Prop} {xs : List α} :
    (∃ ys, List.Forall₂ R xs ys) ↔ ∀ x ∈ xs, ∃ y, R x y := by
  induction xs with
  | nil => simp
  | cons x xs ih =>
    rw [List.forall_mem_cons, ← ih]
    constructor
    · intro h
      obtain ⟨_, _ | ⟨hx, hxs⟩⟩ := h
      exact ⟨⟨_, hx⟩, _, hxs⟩
    · intro h
      obtain ⟨⟨y, hx⟩, ys, hxs⟩ := h
      exact ⟨y :: ys, .cons hx hxs⟩

/-- Two lists have the same image if partners have. -/
theorem map_eq_of_forall₂ {R : α → β → Prop} {f : α → γ} {g : β → γ}
    (hR : ∀ x y, R x y → g y = f x) {xs : List α} {ys : List β} (h : List.Forall₂ R xs ys) :
    ys.map g = xs.map f := by
  induction h with
  | nil => rfl
  | cons hx _ ih => rw [List.map_cons, List.map_cons, ih, hR _ _ hx]

theorem filterMap_eq_of_forall₂ {R : α → β → Prop} {f : α → Option γ} {g : β → Option γ}
    (hR : ∀ x y, R x y → g y = f x) {xs : List α} {ys : List β} (h : List.Forall₂ R xs ys) :
    ys.filterMap g = xs.filterMap f := by
  induction h with
  | nil => rfl
  | cons hx _ ih => rw [List.filterMap_cons, List.filterMap_cons, ih, hR _ _ hx]

/-- Every item on the right has its partner on the left. -/
theorem exists_of_mem_forall₂ {R : α → β → Prop} {xs : List α} {ys : List β}
    (h : List.Forall₂ R xs ys) {y : β} (hy : y ∈ ys) : ∃ x ∈ xs, R x y := by
  induction h with
  | nil => cases hy
  | @cons x _ xs _ hx _ ih =>
    rcases List.mem_cons.1 hy with rfl | hy
    · exact ⟨x, List.mem_cons_self, hx⟩
    · obtain ⟨x', hx', hR⟩ := ih hy
      exact ⟨x', List.mem_cons_of_mem _ hx', hR⟩

/-- A list is read if each of its items is. -/
theorem mapM_eq_ok {ε : Type} {f : α → Except ε β} {xs : List α} {ys : List β} :
    xs.mapM f = .ok ys ↔ List.Forall₂ (fun x y => f x = .ok y) xs ys := by
  induction xs generalizing ys with
  | nil =>
    rw [List.forall₂_nil_left_iff]
    exact ⟨fun h => (Except.ok.inj h).symm, fun h => h ▸ rfl⟩
  | cons x xs ih =>
    rw [List.mapM_cons, List.forall₂_cons_left_iff]
    cases hx : f x with
    | error e => exact ⟨by rintro ⟨⟩, by rintro ⟨_, _, ⟨⟩, _⟩⟩
    | ok y =>
      cases hxs : xs.mapM f with
      | error e =>
        refine ⟨by rintro ⟨⟩, ?_⟩
        intro h
        obtain ⟨y', ys', -, hys, rfl⟩ := h
        rw [ih.2 hys] at hxs
        cases hxs
      | ok ys' =>
        constructor
        · intro h
          cases h
          exact ⟨y, ys', rfl, ih.1 hxs, rfl⟩
        · intro h
          obtain ⟨y', ys'', hy, hys, rfl⟩ := h
          cases hy
          rw [ih.2 hys] at hxs
          cases hxs
          rfl

/-! ## What has to be there -/

/-- The request for the settings of a virtual server, if it has a path. -/
def VirtualServerStatus.requests (s : VirtualServerStatus) : List Request :=
  (s.path.map fun path => .virtualServer (lastSegment path)).toList

/-- The request for the settings of a pool, if it has a path. -/
def PoolStatus.requests (s : PoolStatus) : List Request :=
  (s.path.map fun path => .pool (lastSegment path)).toList

/-- The requests for the three documents about a load balancer. -/
def balancerRequests (id : String) : List Request :=
  [.balancer id, .balancerStatus id, .balancerStatistics id]

namespace Manager

variable (m : Manager) (h : List Request)

/-- The settings of a virtual server, if it has a path and the manager gives them after those of the
virtual servers before. -/
def virtualServerSettings? (x : List VirtualServerStatus × VirtualServerStatus) :
    Option VirtualServer :=
  x.2.path.bind fun path =>
    (m (h ++ x.1.flatMap (·.requests)) (.virtualServer (lastSegment path))).toOption

/-- The settings of a pool, if it has a path and the manager gives them after those of the pools
before. -/
def poolSettings? (x : List PoolStatus × PoolStatus) : Option Pool :=
  x.2.path.bind fun path =>
    (m (h ++ x.1.flatMap (·.requests)) (.pool (lastSegment path))).toOption

/-- The manager gives the settings of a load balancer, and its only status and statistics. -/
structure Describes (id : String) (settings : Balancer) (status : BalancerStatus)
    (statistics : BalancerStatistics) : Prop where
  settings : m h (.balancer id) = .ok settings
  status : ∃ page, m (h ++ [.balancer id]) (.balancerStatus id) = .ok page ∧
    page.results = [status]
  statistics : ∃ page,
    m (h ++ [.balancer id, .balancerStatus id]) (.balancerStatistics id) = .ok page ∧
      page.results = [statistics]

end Manager

/-- A member has an address and a port, and the statistics of its pool have a record of both. -/
def MemberJoins (statistics : PoolStatistics) (status : MemberStatus) : Prop :=
  ∃ address port, status.address = some address ∧ status.port = some port ∧
    ∃ s ∈ statistics.members, memberKey s.address s.port = some (address ++ ":" ++ port)

/-- A pool has a path, its settings are given, and the first statistics with its path go with all
its members. -/
def PoolJoins (settings : Option Pool) (statistics : List PoolStatistics) (status : PoolStatus) :
    Prop :=
  settings.isSome ∧ ∃ path found, status.path = some path ∧
    statistics.find? (fun s => s.path = some path) = some found ∧
      ∀ s ∈ status.members, MemberJoins found s

/-- A virtual server has a path, its settings are given, and if it is accepted, there are statistics
with its path. -/
def VirtualServerJoins (settings : Option VirtualServer) (allowed : AllowList)
    (statistics : List VirtualServerStatistics) (status : VirtualServerStatus) : Prop :=
  ∃ path c, status.path = some path ∧ settings = some c ∧
    (allowed.includes c.displayName c.id → ∃ s ∈ statistics, s.path = some path)

/-- Everything that a load balancer is joined from is there. -/
def Joinable (m : Manager) (h : List Request) (allowed : AllowList) (id : String) : Prop :=
  ∃ settings status statistics, m.Describes h id settings status statistics ∧
    (∀ x ∈ withBefore status.virtualServers,
      VirtualServerJoins (m.virtualServerSettings? (h ++ balancerRequests id) x) allowed
        statistics.virtualServers x.2) ∧
    ∀ x ∈ withBefore status.pools,
      PoolJoins (m.poolSettings? (h ++ balancerRequests id ++
        status.virtualServers.flatMap (·.requests)) x) statistics.pools x.2

/-! ## What is made of it -/

/-- A virtual server with its settings, if these are accepted. -/
def accepted? (allowed : AllowList) (settings : Option VirtualServer)
    (status : VirtualServerStatus) : Option (VirtualServerStatus × VirtualServer) :=
  (settings.filter fun c => allowed.includes c.displayName c.id).map fun c => (status, c)

/-- A member goes with the first statistics of its address and port. -/
def MemberRecord.JoinedFrom (statistics : List MemberStatistics) (r : MemberRecord) : Prop :=
  ∃ key, memberKey r.status.address r.status.port = some key ∧
    statistics.find? (fun s => memberKey s.address s.port = some key) = some r.statistics

/-- A virtual server goes with the first statistics of its path. -/
def VirtualServerRecord.JoinedFrom (statistics : List VirtualServerStatistics)
    (v : VirtualServerRecord) : Prop :=
  ∃ path, v.status.path = some path ∧
    statistics.find? (fun s => s.path = some path) = some v.statistics

/-- A pool goes with the first statistics of its path, and its members go with the statistics of
members that are found there. -/
def PoolRecord.JoinedFrom (statistics : List PoolStatistics) (p : PoolRecord) : Prop :=
  ∃ path found, p.status.path = some path ∧
    statistics.find? (fun s => s.path = some path) = some found ∧
    p.statistics = { found with members := [] } ∧ p.members.map (·.status) = p.status.members ∧
      ∀ r ∈ p.members, r.JoinedFrom found.members

/-- A load balancer is joined from what the manager says: the accepted virtual servers and all pools
in the order of the status, with their settings, each with its statistics. -/
def BalancerRecord.JoinedFrom (m : Manager) (h : List Request) (allowed : AllowList) (id : String)
    (r : BalancerRecord) : Prop :=
  ∃ statistics, m.Describes h id r.settings r.status statistics ∧
    r.statistics = { statistics with virtualServers := [], pools := [] } ∧
    r.virtualServers.map (fun v => (v.status, v.settings)) =
      (withBefore r.status.virtualServers).filterMap (fun x =>
        accepted? allowed (m.virtualServerSettings? (h ++ balancerRequests id) x) x.2) ∧
    (∀ v ∈ r.virtualServers, v.JoinedFrom statistics.virtualServers) ∧
    r.pools.map (fun p => (p.status, some p.settings)) =
      (withBefore r.status.pools).map (fun x =>
        (x.2, m.poolSettings? (h ++ balancerRequests id ++
          r.status.virtualServers.flatMap (·.requests)) x)) ∧
    ∀ p ∈ r.pools, p.JoinedFrom statistics.pools

/-! ## Results of the parts -/

open Manager

section

variable {m : Manager} {h h' : List Request}

theorem toOption_eq_some {ε : Type} {r : Except ε α} {a : α} : r.toOption = some a ↔ r = .ok a := by
  cases r <;> simp [Except.toOption]

/-- The settings of a virtual server are those that its path leads to. -/
theorem Manager.virtualServerSettings?_eq_some {x : List VirtualServerStatus × VirtualServerStatus}
    {settings : VirtualServer} :
    m.virtualServerSettings? h x = some settings ↔ ∃ path, x.2.path = some path ∧
      m (h ++ x.1.flatMap (·.requests)) (.virtualServer (lastSegment path)) = .ok settings := by
  unfold virtualServerSettings?
  simp only [Option.bind_eq_some_iff, toOption_eq_some]

/-- The settings of a pool are those that its path leads to. -/
theorem Manager.poolSettings?_eq_some {x : List PoolStatus × PoolStatus} {settings : Pool} :
    m.poolSettings? h x = some settings ↔ ∃ path, x.2.path = some path ∧
      m (h ++ x.1.flatMap (·.requests)) (.pool (lastSegment path)) = .ok settings := by
  unfold poolSettings?
  simp only [Option.bind_eq_some_iff, toOption_eq_some]

theorem requests_of_path {status : VirtualServerStatus} {path : String}
    (hpath : status.path = some path) :
    status.requests = [.virtualServer (lastSegment path)] := by
  rw [VirtualServerStatus.requests, hpath]
  rfl

theorem PoolStatus.requests_of_path {status : PoolStatus} {path : String}
    (hpath : status.path = some path) : status.requests = [.pool (lastSegment path)] := by
  rw [PoolStatus.requests, hpath]
  rfl

/-- What a virtual server needs and what it is made into. -/
theorem yields_virtualServer? {id : String} {allowed : AllowList} {s : BalancerStatistics}
    {status : VirtualServerStatus} {o : Option VirtualServerRecord} :
    m.Yields h (Fetch.virtualServer? id allowed (Fetch.virtualServerIndex s) status) h' o ↔
      ∃ path settings, status.path = some path ∧
        m h (.virtualServer (lastSegment path)) = .ok settings ∧ h' = h ++ status.requests ∧
        if allowed.includes settings.displayName settings.id then
          ∃ found, s.virtualServers.find? (fun s => s.path = some path) = some found ∧
            o = some ⟨settings, status, found⟩
        else o = none := by
  unfold Fetch.virtualServer?
  simp only [yields_bind, yields_require, yields_ask]
  constructor
  · intro hyields
    obtain ⟨_, path, ⟨rfl, hpath⟩, _, settings, ⟨rfl, hsettings⟩, h₁⟩ := hyields
    refine ⟨path, settings, hpath, hsettings, ?_⟩
    -- what is asked for depends on the path alone; the statistics are only looked up
    rw [requests_of_path hpath]
    split at h₁
    · next hallowed =>
      simp only [yields_bind, yields_require, yields_pure] at h₁
      obtain ⟨_, found, ⟨rfl, hfound⟩, rfl, rfl⟩ := h₁
      rw [Fetch.virtualServerIndex, Index.find?_ofList] at hfound
      refine ⟨rfl, ?_⟩
      rw [if_pos hallowed]
      exact ⟨found, hfound, rfl⟩
    · next hallowed =>
      simp only [yields_bind, yields_log, yields_pure] at h₁
      obtain ⟨_, _, rfl, rfl, rfl⟩ := h₁
      rw [if_neg hallowed]
      exact ⟨rfl, rfl⟩
  · intro hjoins
    obtain ⟨path, settings, hpath, hsettings, rfl, h₁⟩ := hjoins
    rw [requests_of_path hpath]
    refine ⟨h, path, ⟨rfl, hpath⟩, _, settings, ⟨rfl, hsettings⟩, ?_⟩
    split at h₁
    · next hallowed =>
      obtain ⟨found, hfound, rfl⟩ := h₁
      rw [if_pos hallowed]
      refine yields_bind.2 ⟨_, found, yields_require.2 ⟨rfl, ?_⟩, yields_pure.2 ⟨rfl, rfl⟩⟩
      rw [Fetch.virtualServerIndex, Index.find?_ofList]
      exact hfound
    · next hallowed =>
      subst h₁
      rw [if_neg hallowed]
      exact yields_bind.2 ⟨_, (), yields_log.2 rfl, yields_pure.2 ⟨rfl, rfl⟩⟩

/-- A member is joined with the first statistics of its address and port. -/
theorem member_eq_ok {id : String} {s : PoolStatistics} {status : MemberStatus}
    {r : MemberRecord} :
    Fetch.member id (Fetch.memberIndex s) status = .ok r ↔
      r.status = status ∧ r.JoinedFrom s.members := by
  unfold Fetch.member MemberRecord.JoinedFrom
  rw [Fetch.memberIndex]
  obtain ⟨status', statistics'⟩ := r
  constructor
  · intro hr
    split at hr
    · cases hr
    · next key hkey =>
      split at hr
      · cases hr
      · next found hfound =>
        cases hr
        rw [Index.find?_ofList] at hfound
        exact ⟨rfl, key, hkey, hfound⟩
  · intro hr
    obtain ⟨rfl, key, hkey, hfound⟩ := hr
    rw [← Index.find?_ofList] at hfound
    simp only [hkey, hfound]

/-- What a pool needs and what it is made into. -/
theorem yields_pool {id : String} {s : BalancerStatistics} {status : PoolStatus}
    {r : PoolRecord} :
    m.Yields h (Fetch.pool id (Fetch.poolIndex s) status) h' r ↔
      ∃ path, status.path = some path ∧
        m h (.pool (lastSegment path)) = .ok r.settings ∧ h' = h ++ status.requests ∧
        ∃ found, s.pools.find? (fun s => s.path = some path) = some found ∧
          List.Forall₂ (fun s r => r.status = s ∧ r.JoinedFrom found.members) status.members
            r.members ∧
          r.status = status ∧ r.statistics = { found with members := [] } := by
  unfold Fetch.pool
  simp only [yields_bind, yields_require, yields_ask, yields_ofExcept, yields_pure, mapM_eq_ok,
    member_eq_ok, Fetch.poolIndex, Index.find?_ofList]
  constructor
  -- the steps of the fetch, in their order: the path, the settings, the statistics, the members
  · intro hyields
    obtain ⟨_, path, ⟨rfl, hpath⟩, _, settings, ⟨rfl, hsettings⟩, _, found, ⟨rfl, hfound⟩, _,
      members, ⟨rfl, hmembers⟩, rfl, rfl⟩ := hyields
    exact ⟨path, hpath, hsettings, by rw [PoolStatus.requests_of_path hpath], found, hfound,
      hmembers, rfl, rfl⟩
  · intro hjoins
    obtain ⟨path, hpath, hsettings, rfl, found, hfound, hmembers, hstatus, hstatistics⟩ := hjoins
    obtain ⟨settings, status', statistics, members⟩ := r
    obtain rfl := hstatus
    obtain rfl := hstatistics
    rw [PoolStatus.requests_of_path hpath]
    exact ⟨_, path, ⟨rfl, hpath⟩, _, settings, ⟨rfl, hsettings⟩, _, found, ⟨rfl, hfound⟩, _,
      members, ⟨rfl, hmembers⟩, rfl, rfl⟩

/-- A page has a single result if it has exactly one. -/
theorem single_eq_ok {p : Page α} {kind id : String} {a : α} :
    p.single kind id = .ok a ↔ p.results = [a] := by
  unfold Page.single
  constructor
  · intro h
    split at h
    · cases h
    · next hresults =>
      cases h
      exact hresults
    · cases h
  · intro h
    rw [h]

/-- What a load balancer needs and what it is made into. -/
theorem yields_balancer {allowed : AllowList} {id : String} {r : BalancerRecord} :
    m.Yields h (Fetch.balancer allowed id) h' r ↔
      ∃ statistics h₁ os, m.Describes h id r.settings r.status statistics ∧
        m.Yields (h ++ balancerRequests id)
          (r.status.virtualServers.mapM
            (Fetch.virtualServer? id allowed (Fetch.virtualServerIndex statistics))) h₁ os ∧
        m.Yields h₁ (r.status.pools.mapM (Fetch.pool id (Fetch.poolIndex statistics))) h'
          r.pools ∧
        r.virtualServers = os.filterMap (·) ∧
        r.statistics = { statistics with virtualServers := [], pools := [] } := by
  unfold Fetch.balancer
  simp only [yields_bind, yields_ask, yields_ofExcept, yields_log, yields_pure, single_eq_ok]
  constructor
  -- three calls, and then the parts, each behind the calls of those before it
  · intro hyields
    obtain ⟨_, settings, ⟨rfl, hsettings⟩, _, statuses, ⟨rfl, hstatuses⟩, _, status,
      ⟨rfl, hstatus⟩, _, pages, ⟨rfl, hpages⟩, _, statistics, ⟨rfl, hstatistics⟩, h₁, os, hos,
      h₂, pools, hpools, _, _, rfl, rfl, rfl⟩ := hyields
    rw [List.append_assoc] at hpages hos
    rw [List.append_assoc] at hos
    exact ⟨statistics, h₁, os,
      ⟨hsettings, ⟨statuses, hstatuses, hstatus⟩, ⟨pages, hpages, hstatistics⟩⟩, hos, hpools, rfl,
      rfl⟩
  · intro hjoins
    obtain ⟨statistics, h₁, os,
      ⟨hsettings, ⟨statuses, hstatuses, hstatus⟩, ⟨pages, hpages, hstatistics⟩⟩, hos, hpools,
      hvirtualServers, hown⟩ := hjoins
    obtain ⟨settings, status, own, virtualServers, pools⟩ := r
    obtain rfl := hvirtualServers
    obtain rfl := hown
    refine ⟨_, settings, ⟨rfl, hsettings⟩, _, statuses, ⟨rfl, hstatuses⟩, _, status,
      ⟨rfl, hstatus⟩, _, pages, ⟨rfl, ?_⟩, _, statistics, ⟨rfl, hstatistics⟩, h₁, os, ?_, h', pools,
      hpools, _, (), rfl, rfl, rfl⟩
    · rw [List.append_assoc]
      exact hpages
    · rw [List.append_assoc, List.append_assoc]
      exact hos

/-! ## Lists of parts -/

/-- A virtual server is fetched if it can be joined. -/
theorem exists_yields_virtualServer? (id : String) {allowed : AllowList} {s : BalancerStatistics}
    {x : List VirtualServerStatus × VirtualServerStatus} :
    (∃ o h', m.Yields (h ++ x.1.flatMap (·.requests))
      (Fetch.virtualServer? id allowed (Fetch.virtualServerIndex s) x.2) h' o) ↔
      VirtualServerJoins (m.virtualServerSettings? h x) allowed s.virtualServers x.2 := by
  simp only [yields_virtualServer?]
  constructor
  · intro hyields
    obtain ⟨o, _, path, settings, hpath, hsettings, -, ho⟩ := hyields
    refine ⟨path, settings, hpath, virtualServerSettings?_eq_some.2 ⟨path, hpath, hsettings⟩,
      fun hallowed => ?_⟩
    rw [if_pos hallowed] at ho
    obtain ⟨found, hfound, -⟩ := ho
    exact ⟨found, List.mem_of_find?_eq_some hfound, by simpa using List.find?_some hfound⟩
  · intro hjoins
    obtain ⟨path, settings, hpath, hsettings, hjoins⟩ := hjoins
    obtain ⟨path', hpath', hsettings⟩ := virtualServerSettings?_eq_some.1 hsettings
    obtain rfl := Option.some.inj (hpath'.symm.trans hpath)
    -- statistics are looked up only for what the list allows
    by_cases hallowed : allowed.includes settings.displayName settings.id
    · obtain ⟨found, hfound⟩ : ∃ found,
          s.virtualServers.find? (fun s => s.path = some path') = some found := by
        rw [← Option.isSome_iff_exists, List.find?_isSome]
        obtain ⟨found, hmem, hkey⟩ := hjoins hallowed
        exact ⟨found, hmem, decide_eq_true hkey⟩
      refine ⟨some ⟨settings, x.2, found⟩, _, path', settings, hpath, hsettings, rfl, ?_⟩
      rw [if_pos hallowed]
      exact ⟨found, hfound, rfl⟩
    · refine ⟨none, _, path', settings, hpath, hsettings, rfl, ?_⟩
      rw [if_neg hallowed]

/-- A member can be joined if there are statistics for it. -/
theorem exists_member {statistics : PoolStatistics} {status : MemberStatus} :
    (∃ r : MemberRecord, r.status = status ∧ r.JoinedFrom statistics.members) ↔
      MemberJoins statistics status := by
  -- any record of the key makes the lookup succeed; the first one is what it finds
  constructor
  · intro hyields
    obtain ⟨r, rfl, key, hkey, hfound⟩ := hyields
    unfold memberKey at hkey
    split at hkey
    · next address port haddress hport =>
      cases hkey
      exact ⟨address, port, haddress, hport, r.statistics, List.mem_of_find?_eq_some hfound,
        by simpa using List.find?_some hfound⟩
    · cases hkey
  · intro hjoins
    obtain ⟨address, port, haddress, hport, s, hmem, hkey⟩ := hjoins
    obtain ⟨found, hfound⟩ : ∃ found, statistics.members.find?
        (fun s => memberKey s.address s.port = some (address ++ ":" ++ port)) = some found := by
      rw [← Option.isSome_iff_exists, List.find?_isSome]
      exact ⟨s, hmem, decide_eq_true hkey⟩
    refine ⟨⟨status, found⟩, rfl, address ++ ":" ++ port, ?_, hfound⟩
    simp only [memberKey, haddress, hport]

/-- A pool is fetched if it and all of its members can be joined. -/
theorem exists_yields_pool (id : String) {s : BalancerStatistics}
    {x : List PoolStatus × PoolStatus} :
    (∃ r h', m.Yields (h ++ x.1.flatMap (·.requests)) (Fetch.pool id (Fetch.poolIndex s) x.2) h'
      r) ↔ PoolJoins (m.poolSettings? h x) s.pools x.2 := by
  simp only [yields_pool]
  constructor
  · intro hyields
    obtain ⟨r, _, path, hpath, hsettings, -, found, hfound, hmembers, -, -⟩ := hyields
    refine ⟨?_, path, found, hpath, hfound, fun s hs => ?_⟩
    · rw [poolSettings?_eq_some.2 ⟨path, hpath, hsettings⟩]
      rfl
    · exact exists_member.1 (exists_forall₂.1 ⟨r.members, hmembers⟩ s hs)
  · intro hjoins
    obtain ⟨hsome, path, found, hpath, hfound, hmembers⟩ := hjoins
    obtain ⟨settings, hsettings⟩ := Option.isSome_iff_exists.1 hsome
    obtain ⟨path', hpath', hsettings⟩ := poolSettings?_eq_some.1 hsettings
    obtain rfl := Option.some.inj (hpath'.symm.trans hpath)
    obtain ⟨members, hall⟩ := exists_forall₂.2 fun s hs => exists_member.2 (hmembers s hs)
    exact ⟨⟨settings, x.2, { found with members := [] }, members⟩, _, path', hpath, hsettings, rfl,
      found, hfound, hall, rfl, rfl⟩

/-- Virtual servers are fetched one after the other, each after the calls for those before it. -/
theorem yields_virtualServers {id : String} {allowed : AllowList} {s : BalancerStatistics}
    {ss : List VirtualServerStatus} {os : List (Option VirtualServerRecord)} :
    m.Yields h (ss.mapM (Fetch.virtualServer? id allowed (Fetch.virtualServerIndex s))) h' os ↔
      h' = h ++ ss.flatMap (·.requests) ∧
        List.Forall₂ (fun x o => ∃ h', m.Yields (h ++ x.1.flatMap (·.requests))
          (Fetch.virtualServer? id allowed (Fetch.virtualServerIndex s) x.2) h' o)
          (withBefore ss) os := by
  apply yields_mapM
  intro status h h' o ho
  obtain ⟨_, _, _, _, hh, _⟩ := yields_virtualServer?.1 ho
  exact hh

/-- So are pools. -/
theorem yields_pools {id : String} {s : BalancerStatistics} {ss : List PoolStatus}
    {rs : List PoolRecord} :
    m.Yields h (ss.mapM (Fetch.pool id (Fetch.poolIndex s))) h' rs ↔
      h' = h ++ ss.flatMap (·.requests) ∧
        List.Forall₂ (fun x r => ∃ h', m.Yields (h ++ x.1.flatMap (·.requests))
          (Fetch.pool id (Fetch.poolIndex s) x.2) h' r) (withBefore ss) rs := by
  apply yields_mapM
  intro status h h' r hr
  obtain ⟨_, _, _, hh, _⟩ := yields_pool.1 hr
  exact hh

/-! ## Load balancers -/

/-- A load balancer is fetched if it can be joined. -/
theorem exists_yields_balancer {allowed : AllowList} {id : String} :
    (∃ r h', m.Yields h (Fetch.balancer allowed id) h' r) ↔ Joinable m h allowed id := by
  simp only [yields_balancer, yields_virtualServers, yields_pools]
  constructor
  · intro hyields
    obtain ⟨r, h', statistics, _, os, hdocuments, ⟨rfl, hos⟩, ⟨rfl, hpools⟩, -, -⟩ := hyields
    refine ⟨r.settings, r.status, statistics, hdocuments, ?_, ?_⟩
    · exact fun x hx => (exists_yields_virtualServer? id).1 (exists_forall₂.1 ⟨os, hos⟩ x hx)
    · exact fun x hx => (exists_yields_pool id).1 (exists_forall₂.1 ⟨r.pools, hpools⟩ x hx)
  · intro hjoins
    obtain ⟨settings, status, statistics, hdocuments, hvirtualServers, hpools⟩ := hjoins
    obtain ⟨os, hos⟩ := exists_forall₂.2 fun x hx =>
      (exists_yields_virtualServer? id).2 (hvirtualServers x hx)
    obtain ⟨pools, hpools⟩ := exists_forall₂.2 fun x hx =>
      (exists_yields_pool id).2 (hpools x hx)
    exact ⟨⟨settings, status, { statistics with virtualServers := [], pools := [] },
      os.filterMap (·), pools⟩, _, statistics, _, os, hdocuments, ⟨rfl, hos⟩, ⟨rfl, hpools⟩, rfl,
      rfl⟩

/-- What is fetched of a virtual server is what is accepted of it, joined with the first statistics.
-/
theorem accepted_of_yields {id : String} {allowed : AllowList} {s : BalancerStatistics}
    {x : List VirtualServerStatus × VirtualServerStatus} {o : Option VirtualServerRecord}
    (ho : m.Yields (h ++ x.1.flatMap (·.requests))
      (Fetch.virtualServer? id allowed (Fetch.virtualServerIndex s) x.2) h' o) :
    o.map (fun v => (v.status, v.settings)) =
        accepted? allowed (m.virtualServerSettings? h x) x.2 ∧
      ∀ v, o = some v → v.JoinedFrom s.virtualServers := by
  obtain ⟨path, settings, hpath, hsettings, -, ho⟩ := yields_virtualServer?.1 ho
  rw [accepted?, virtualServerSettings?_eq_some.2 ⟨path, hpath, hsettings⟩, Option.filter_some]
  split at ho
  · next hallowed =>
    obtain ⟨found, hfound, rfl⟩ := ho
    rw [if_pos hallowed]
    refine ⟨rfl, ?_⟩
    intro v hv
    cases hv
    exact ⟨path, hpath, hfound⟩
  · next hallowed =>
    subst ho
    rw [if_neg hallowed]
    refine ⟨rfl, ?_⟩
    intro v hv
    cases hv

/-- A load balancer that was fetched is joined from what the manager answered. -/
theorem joinedFrom_of_yields {allowed : AllowList} {id : String} {r : BalancerRecord}
    (hr : m.Yields h (Fetch.balancer allowed id) h' r) : r.JoinedFrom m h allowed id := by
  simp only [yields_balancer, yields_virtualServers, yields_pools] at hr
  obtain ⟨statistics, _, os, hdocuments, ⟨rfl, hos⟩, ⟨-, hpools⟩, hvirtualServers, hown⟩ := hr
  refine ⟨statistics, hdocuments, hown, ?_, ?_, ?_, ?_⟩
  -- the virtual servers, in the order of the status and without those that are not accepted
  · rw [hvirtualServers, List.map_filterMap]
    exact filterMap_eq_of_forall₂ (fun x o ⟨_, ho⟩ => (accepted_of_yields ho).1) hos
  · intro v hv
    rw [hvirtualServers, List.mem_filterMap] at hv
    obtain ⟨o, ho, rfl⟩ := hv
    obtain ⟨x, -, h', hx⟩ := exists_of_mem_forall₂ hos ho
    exact (accepted_of_yields hx).2 v rfl
  -- the pools, all of them
  · refine map_eq_of_forall₂ (fun x p ⟨_, hp⟩ => ?_) hpools
    obtain ⟨path, hpath, hsettings, -, found, -, -, hstatus, -⟩ := yields_pool.1 hp
    rw [poolSettings?_eq_some.2 ⟨path, hpath, hsettings⟩, hstatus]
  · intro p hp
    obtain ⟨x, -, h', hx⟩ := exists_of_mem_forall₂ hpools hp
    obtain ⟨path, hpath, -, -, found, hfound, hmembers, hstatus, hstatistics⟩ := yields_pool.1 hx
    rw [← hstatus] at hpath hmembers
    refine ⟨path, found, hpath, hfound, hstatistics, ?_, fun r hr => ?_⟩
    · rw [map_eq_of_forall₂ (fun s r hr => hr.1) hmembers, List.map_id']
    · obtain ⟨s, -, -, hjoined⟩ := exists_of_mem_forall₂ hmembers hr
      exact hjoined

end

/-- A load balancer can be fetched exactly when everything that it is joined from is there, and what
is fetched is joined from that. Against any manager, and after any requests, the fetch ends in one
way. -/
theorem balancer_fetched_iff_joinable (m : Manager) (h : List Request) (allowed : AllowList)
    (id : String) :
    ∃ result, m.Returns h (Fetch.balancer allowed id) result ∧
      (∀ other, m.Returns h (Fetch.balancer allowed id) other → other = result) ∧
      ((∃ r, result = .ok r) ↔ Joinable m h allowed id) ∧
      ∀ r, result = .ok r → r.JoinedFrom m h allowed id := by
  -- no listing is walked, so the fetch comes to its end against every manager
  have hsingle : Fetch.Confined (fun r => r.isPage = false) (fun _ => False)
      (Fetch.balancer allowed id) :=
    Script.Confined.mono (Fetch.confined_balancer allowed id) (fun _ hr => hr.2) fun _ hq => hq
  obtain ⟨cs, es, result, hruns, hanswers⟩ := m.exists_reaches_done h hsingle
  have hresult : m.Returns h (Fetch.balancer allowed id) result := ⟨cs, es, hruns, hanswers⟩
  refine ⟨result, hresult, fun other hother => hother.unique hresult, ?_, ?_⟩
  · rw [← exists_yields_balancer]
    constructor
    · intro hyields
      obtain ⟨r, rfl⟩ := hyields
      exact ⟨r, returns_ok.1 hresult⟩
    · intro hjoins
      obtain ⟨r, hr⟩ := hjoins
      exact ⟨r, hresult.unique (returns_ok.2 hr)⟩
  · intro r hr
    subst hr
    obtain ⟨h', hr⟩ := returns_ok.1 hresult
    exact joinedFrom_of_yields hr

end FabricGauges
