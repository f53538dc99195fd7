import FabricGauges.Proofs.Cycle.Join

/-!
# Pool members and their statistics

A pool member goes with the first statistics that have its key, the text of its address and its port
around a colon. The text does not say which of its colons is the one in the middle: that is told by
how many colons are in the port. So a member goes with statistics of its own address and port as
long as ports are written without colons, whatever the addresses are, and in general exactly if the
two ports have equally many.
-/

namespace FabricGauges

/-! ## Keys -/

/-- How many colons are in a text. -/
def colons (text : String) : Nat := text.toList.count ':'

theorem memberKey_eq_some {address port : Option String} {key : String} :
    memberKey address port = some key ↔
      ∃ a b, address = some a ∧ port = some b ∧ a ++ ":" ++ b = key := by
  unfold memberKey
  cases address with
  | none => simp
  | some a =>
    cases port with
    | none => simp
    | some b => simp

/-- Two lists around a colon can be told from the whole if it is known how many colons are
behind. -/
theorem eq_of_append_colon {a b a' b' : List Char} (hcount : b.count ':' = b'.count ':')
    (h : a ++ ':' :: b = a' ++ ':' :: b') : a = a' ∧ b = b' := by
  -- if one front were longer, its surplus would hold the colon of the other side
  rcases List.append_eq_append_iff.1 h with ⟨surplus, rfl, hrest⟩ | ⟨surplus, rfl, hrest⟩
  · cases surplus with
    | nil => exact ⟨(List.append_nil a).symm, (List.cons.inj hrest).2⟩
    | cons c surplus =>
      have hb : b = surplus ++ ':' :: b' := (List.cons.inj hrest).2
      rw [hb, List.count_append, List.count_cons_self] at hcount
      omega
  · cases surplus with
    | nil => exact ⟨List.append_nil a', (List.cons.inj hrest).2.symm⟩
    | cons c surplus =>
      have hb' : b' = surplus ++ ':' :: b := (List.cons.inj hrest).2
      rw [hb', List.count_append, List.count_cons_self] at hcount
      omega

/-- Members of one key have the same address and the same port exactly if their ports have equally
many colons. -/
theorem colons_eq_iff_of_key {a b a' b' : String} (h : a ++ ":" ++ b = a' ++ ":" ++ b') :
    colons b = colons b' ↔ a = a' ∧ b = b' := by
  constructor
  · intro hcolons
    have hlists := congrArg String.toList h
    simp only [String.toList_append, List.append_assoc] at hlists
    obtain ⟨ha, hb⟩ := eq_of_append_colon hcolons hlists
    exact ⟨String.toList_inj.1 ha, String.toList_inj.1 hb⟩
  · rintro ⟨-, rfl⟩
    rfl

/-! ## Members -/

/-- A member and its statistics have the same key. -/
theorem MemberRecord.JoinedFrom.key {statistics : List MemberStatistics} {x : MemberRecord}
    (hx : x.JoinedFrom statistics) :
    ∃ key, memberKey x.status.address x.status.port = some key ∧
      memberKey x.statistics.address x.statistics.port = some key := by
  obtain ⟨key, hkey, hfound⟩ := hx
  exact ⟨key, hkey, by simpa using List.find?_some hfound⟩

/-- A member of a fetched load balancer goes with statistics of its key. These are of its own
address and its own port exactly if the two ports have equally many colons, and then no other member
goes with them but one with the same address and the same port. -/
theorem members_are_paired_by_text {m : Manager} {h : List Request} {allowed : AllowList}
    {id : String} {r : BalancerRecord} (hr : m.Returns h (Fetch.balancer allowed id) (.ok r))
    {p : PoolRecord} (hp : p ∈ r.pools) :
    (∀ x ∈ p.members, ∃ a b a' b',
      x.status.address = some a ∧ x.status.port = some b ∧
        x.statistics.address = some a' ∧ x.statistics.port = some b' ∧
        a ++ ":" ++ b = a' ++ ":" ++ b' ∧ (colons b = colons b' ↔ a = a' ∧ b = b')) ∧
    ∀ x ∈ p.members, ∀ y ∈ p.members, x.statistics = y.statistics →
      (x.status.port.map colons = y.status.port.map colons ↔
        x.status.address = y.status.address ∧ x.status.port = y.status.port) := by
  obtain ⟨_, hyields⟩ := Manager.returns_ok.1 hr
  obtain ⟨_, -, -, -, -, -, hpools⟩ := joinedFrom_of_yields hyields
  obtain ⟨_, found, -, -, -, -, hmembers⟩ := hpools p hp
  -- a member and its statistics have the same key, which is all the join looks at
  have hkeys : ∀ x ∈ p.members, ∃ key, memberKey x.status.address x.status.port = some key ∧
      memberKey x.statistics.address x.statistics.port = some key := fun x hx =>
    (hmembers x hx).key
  refine ⟨fun x hx => ?_, fun x hx y hy hsame => ?_⟩
  · obtain ⟨key, hstatus, hstatistics⟩ := hkeys x hx
    obtain ⟨a, b, ha, hb, rfl⟩ := memberKey_eq_some.1 hstatus
    obtain ⟨a', b', ha', hb', hkey⟩ := memberKey_eq_some.1 hstatistics
    exact ⟨a, b, a', b', ha, hb, ha', hb', hkey.symm, colons_eq_iff_of_key hkey.symm⟩
  · obtain ⟨key, hx, hxfound⟩ := hkeys x hx
    obtain ⟨key', hy, hyfound⟩ := hkeys y hy
    -- the same statistics have the same key
    obtain rfl : key = key' := by
      rw [hsame, hyfound] at hxfound
      exact (Option.some.inj hxfound).symm
    obtain ⟨a, b, ha, hb, rfl⟩ := memberKey_eq_some.1 hx
    obtain ⟨a', b', ha', hb', hkey⟩ := memberKey_eq_some.1 hy
    rw [ha, hb, ha', hb']
    simp only [Option.map_some, Option.some.injEq]
    exact colons_eq_iff_of_key hkey.symm

/-- A manager of one load balancer, which has one pool. -/
def Manager.ofPool (members : List MemberStatus) (statistics : List MemberStatistics) : Manager :=
  fun _ => fun
    | .balancer _ => .ok ⟨"lb", none, none, none, none, none⟩
    | .balancerStatus _ =>
      .ok ⟨[⟨none, none, none, none, none, none, [], [⟨some "/p", none, none, members⟩]⟩], none, none⟩
    | .balancerStatistics _ => .ok ⟨[⟨none, none, [], [⟨some "/p", none, statistics⟩]⟩], none, none⟩
    | .pool _ => .ok ⟨"p", none, none, none, none⟩
    | _ => .error (.transport "http://nsx.test")

/-- A pool whose members all find their statistics is fetched with them. -/
theorem Manager.returns_ofPool (allowed : AllowList) {members : List MemberStatus}
    {statistics : List MemberStatistics} {found : List MemberRecord}
    (hfound : List.Forall₂ (fun s x => x.status = s ∧ x.JoinedFrom statistics) members found) :
    ∃ r p, (ofPool members statistics).Returns [] (Fetch.balancer allowed "lb") (.ok r) ∧
      p ∈ r.pools ∧ p.members = found := by
  let pool : PoolStatus := ⟨some "/p", none, none, members⟩
  let own : BalancerStatistics := ⟨none, none, [], [⟨some "/p", none, statistics⟩]⟩
  let record : PoolRecord := ⟨⟨"p", none, none, none, none⟩, pool, ⟨some "/p", none, []⟩, found⟩
  let r : BalancerRecord := ⟨⟨"lb", none, none, none, none, none⟩,
    ⟨none, none, none, none, none, none, [], [pool]⟩, ⟨none, none, [], []⟩, [], [record]⟩
  have hdescribes : (ofPool members statistics).Describes [] "lb" r.settings r.status own :=
    ⟨rfl, ⟨_, rfl, rfl⟩, ⟨_, rfl, rfl⟩⟩
  have hpool : ∃ h', (ofPool members statistics).Yields
      (balancerRequests "lb" ++ ([] : List PoolStatus).flatMap (·.requests))
      (Fetch.pool "lb" (Fetch.poolIndex own) pool) h' record :=
    ⟨_, yields_pool.2 ⟨"/p", rfl, rfl, rfl, _, rfl, hfound, rfl, rfl⟩⟩
  have hpools : (ofPool members statistics).Yields (balancerRequests "lb")
      (r.status.pools.mapM (Fetch.pool "lb" (Fetch.poolIndex own)))
      (balancerRequests "lb" ++ r.status.pools.flatMap (·.requests)) r.pools :=
    yields_pools.2 ⟨rfl, .cons hpool .nil⟩
  have hreturns : (ofPool members statistics).Returns [] (Fetch.balancer allowed "lb") (.ok r) :=
    returns_ok.2 ⟨_, yields_balancer.2
      ⟨own, _, [], hdescribes, yields_pure.2 ⟨rfl, rfl⟩, hpools, rfl, rfl⟩⟩
  exact ⟨r, record, hreturns, List.mem_singleton_self record, rfl⟩

/-- Two members whose addresses hold colons, and their statistics in another order. -/
theorem addresses_with_colons_are_told_apart :
    let members : List MemberStatus :=
      [⟨some "fd00::1", some "80", none, none⟩, ⟨some "fd00::2", some "80", none, none⟩]
    let statistics : List MemberStatistics :=
      [⟨some "fd00::2", some "80", none⟩, ⟨some "fd00::1", some "80", none⟩]
    ∃ r p, (Manager.ofPool members statistics).Returns [] (Fetch.balancer ⟨[]⟩ "lb") (.ok r) ∧
      p ∈ r.pools ∧ p.members.length = 2 ∧
        ∀ x ∈ p.members, x.status.address = x.statistics.address ∧
          x.status.port = x.statistics.port := by
  intro members statistics
  let found : List MemberRecord :=
    [⟨⟨some "fd00::1", some "80", none, none⟩, ⟨some "fd00::1", some "80", none⟩⟩,
      ⟨⟨some "fd00::2", some "80", none, none⟩, ⟨some "fd00::2", some "80", none⟩⟩]
  have hfound : List.Forall₂ (fun s x => x.status = s ∧ x.JoinedFrom statistics) members found :=
    .cons ⟨rfl, "fd00::1:80", rfl, rfl⟩ (.cons ⟨rfl, "fd00::2:80", rfl, rfl⟩ .nil)
  obtain ⟨r, p, hreturns, hp, hmembers⟩ := Manager.returns_ofPool ⟨[]⟩ hfound
  refine ⟨r, p, hreturns, hp, by rw [hmembers]; rfl, fun x hx => ?_⟩
  obtain ⟨a, b, a', b', ha, hb, ha', hb', -, hiff⟩ := (members_are_paired_by_text hreturns hp).1 x hx
  have hports : x.status.port = some "80" ∧ x.statistics.port = some "80" := by
    rw [hmembers] at hx
    rcases List.mem_pair.1 hx with rfl | rfl
    · exact ⟨rfl, rfl⟩
    · exact ⟨rfl, rfl⟩
  rw [hb, hb'] at hports
  obtain ⟨rfl, rfl⟩ := hiff.1 (by rw [Option.some.inj hports.1, Option.some.inj hports.2])
  exact ⟨ha.trans ha'.symm, hb.trans hb'.symm⟩

/-- A member goes with the statistics of another address and another port if the texts are the
same. -/
theorem member_gets_statistics_of_another :
    ∃ r p x, (Manager.ofPool [⟨some "a:b", some "c", none, none⟩]
        [⟨some "a", some "b:c", none⟩]).Returns [] (Fetch.balancer ⟨[]⟩ "lb") (.ok r) ∧
      p ∈ r.pools ∧ x ∈ p.members ∧ x.status.address = some "a:b" ∧ x.status.port = some "c" ∧
        x.statistics.address = some "a" ∧ x.statistics.port = some "b:c" := by
  let x : MemberRecord := ⟨⟨some "a:b", some "c", none, none⟩, ⟨some "a", some "b:c", none⟩⟩
  have hfound : List.Forall₂
      (fun s y => y.status = s ∧ MemberRecord.JoinedFrom [⟨some "a", some "b:c", none⟩] y)
      [⟨some "a:b", some "c", none, none⟩] [x] := .cons ⟨rfl, "a:b:c", rfl, rfl⟩ .nil
  obtain ⟨r, p, hreturns, hp, hmembers⟩ := Manager.returns_ofPool ⟨[]⟩ hfound
  have hx : x ∈ p.members := by
    rw [hmembers]
    exact List.mem_singleton_self x
  exact ⟨r, p, x, hreturns, hp, hx, rfl, rfl, rfl, rfl⟩

end FabricGauges
