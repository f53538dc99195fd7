import FabricGauges.Proofs.Cycle.Record
import FabricGauges.Proofs.Metric.Certificates

/-!
# Broken chains in the stage of the nodes

A stage that has fetched its nodes publishes their samples in any case. Broken chains take away
nothing but the certificates behind the break: with every text cut off before its break, the same
board would be published. Only then does the stage fail, with the first break in the order of the
nodes and of their listeners.
-/

namespace FabricGauges

/-! ## Other texts in their place -/

/-- An answer with other texts of certificates, if it is about the settings of a node. -/
def Request.mapCertificates (f : String → String) : (r : Request) → r.Answer → r.Answer
  | .nodeConfig _, settings => NodeConfig.mapCertificates f settings
  | _, answer => answer

/-- A call whose answer has other texts of certificates. -/
def Call.mapCertificates (f : String → String) (c : Call) : Call :=
  ⟨c.request, c.answer.map (c.request.mapCertificates f)⟩

namespace Fetch

variable {α β α' β' : Type}

/-! ## Runs on other answers -/

/-- Where one script has run to a result, another one runs to a changed result when the calls are
changed, with the same effects. -/
def Answered (change : Call → Call) (x : Fetch α) (result : α → α') (y : Fetch α') : Prop :=
  ∀ cs es a, Runs x cs es (.ok a) → Runs y (cs.map change) es (.ok (result a))

variable {change : Call → Call}

theorem answered_pure {a : α} {result : α → α'} :
    Answered change (pure a) result (pure (result a)) := by
  intro cs es b h
  obtain ⟨rfl, rfl, hb⟩ := runs_pure.1 h
  rw [Except.ok.inj hb]
  exact runs_pure.2 ⟨rfl, rfl, rfl⟩

theorem answered_log (e : Event) : Answered change (log e) id (log e) := by
  intro cs es u h
  obtain ⟨rfl, rfl, -⟩ := runs_log.1 h
  exact runs_log.2 ⟨rfl, rfl, rfl⟩

/-- Fetches that answer alike are gone on with alike. -/
theorem Answered.bind {x : Fetch α} {y : Fetch α'} {g : α → Fetch β} {g' : α' → Fetch β'}
    {result : α → α'} {result' : β → β'} (hx : Answered change x result y)
    (hg : ∀ a, Answered change (g a) result' (g' (result a))) :
    Answered change (x >>= g) result' (y >>= g') := by
  intro cs es b h
  obtain ⟨cs₁, cs₂, es₁, es₂, a, rfl, rfl, h₁, h₂⟩ := runs_bind_ok.1 h
  rw [List.map_append]
  exact runs_bind_ok.2 ⟨_, _, _, _, _, rfl, rfl, hx _ _ _ h₁, hg a _ _ _ h₂⟩

/-- What is done for each item answers alike if it does for one. -/
theorem answered_mapM {σ : Type} {x : σ → Fetch α} {y : σ → Fetch α'} {result : α → α'}
    (h : ∀ s, Answered change (x s) result (y s)) (ss : List σ) :
    Answered change (ss.mapM x) (List.map result) (ss.mapM y) := by
  induction ss with
  | nil => exact answered_pure
  | cons s ss ih =>
    rw [List.mapM_cons, List.mapM_cons]
    exact (h s).bind fun a => ih.bind fun as => answered_pure

/-- A call answers with the changed document where the manager does. -/
theorem answered_ask (f : String → String) (q : Request) :
    Answered (Call.mapCertificates f) (ask q) (q.mapCertificates f) (ask q) := by
  intro cs es a h
  obtain ⟨answer, rfl, rfl, ha⟩ := runs_ask.1 h
  refine runs_ask.2 ⟨answer.map (q.mapCertificates f), rfl, rfl, ?_⟩
  cases answer with
  | error e => cases ha
  | ok document =>
    cases ha
    rfl

/-- The interfaces of a node hold no certificates. -/
theorem answered_interface (f : String → String) (host name : String) :
    Answered (Call.mapCertificates f) (interface host name) id (interface host name) :=
  (answered_ask f (.interface host name)).bind fun _ =>
    (answered_ask f (.interfaceCounters host name)).bind fun _ => answered_pure

/-- With other texts of certificates in the answers, a node with these texts is fetched. -/
theorem answered_node (f : String → String) (name : String) :
    Answered (Call.mapCertificates f) (node name) (NodeRecord.mapCertificates f) (node name) := by
  refine (answered_ask f (.nodeStatus name)).bind fun status =>
    (answered_ask f (.nodeConfig name)).bind fun settings =>
      (answered_ask f (.interfaces name)).bind fun listing => ?_
  refine (answered_mapM (fun i => answered_interface f name i.id) listing.results).bind
    fun interfaces => ?_
  rw [List.map_id]
  exact (answered_log _).bind fun _ => answered_pure

/-! ## The stage -/

/-- The stage is published with what it has, and then its verdict is given. -/
theorem runs_conclude {events : List Event} {stage : Stage} {samples : List Sample}
    {verdict : Except ScrapeError α} :
    Runs (conclude events stage samples verdict) []
      (events.map .log ++ [.publish stage samples]) verdict := by
  refine runs_bind.2 (.inr ⟨[], [], _, _, (), rfl, rfl, runs_forM_log.2 ⟨rfl, rfl, rfl⟩, ?_⟩)
  exact runs_bind.2 (.inr ⟨[], [], _, [], (), rfl, rfl, runs_publish.2 ⟨rfl, rfl, rfl⟩,
    runs_ofExcept.2 ⟨rfl, rfl, rfl⟩⟩)

end Fetch

namespace Cycle

open Fetch

variable {ids : List String} {cs : List Call} {es : List Script.Effect} {records : List NodeRecord}

/-- When its nodes are fetched, the stage publishes their samples and ends with the verdict on their
certificates. There is no other run on these answers. -/
theorem exists_runs_nodes (h : Runs (ids.mapM node) cs es (.ok records)) (b : Board) :
    ∃ es', (∀ es'' r, Runs (nodes ids) cs es'' r ↔ es'' = es' ∧ r = verdict records) ∧
      Scraper.applyEffects b es' = b.publish .nodes (records.flatMap NodeRecord.samples) := by
  have hsilent : Script.published es = [] :=
    List.eq_nil_iff_forall_not_mem.2 ((gathers_nodes ids).confined.runs h).2
  have hstage : Runs (nodes ids) cs (es ++ ((records.flatMap NodeRecord.warnings).map .log ++
      [.publish .nodes (records.flatMap NodeRecord.samples)])) (verdict records) := by
    rw [nodes_eq]
    exact runs_bind.2 (.inr ⟨cs, [], es, _, records, (List.append_nil cs).symm, rfl, h,
      runs_conclude⟩)
  refine ⟨_, fun es'' r => ⟨fun hr => hr.unique hstage, ?_⟩, ?_⟩
  · rintro ⟨rfl, rfl⟩
    exact hstage
  · rw [Scraper.applyEffects_eq, Script.published_append, Script.published_append, hsilent,
      Script.published_map_log]
    rfl

/-- What breaks first, if anything does. -/
def firstBreak? (records : List NodeRecord) : Option BrokenChain :=
  (records.flatMap NodeRecord.blobs).findSome? fun pem => Chain.break? (Chain.decode pem)

/-- The verdict over the nodes is the first break of their chains. -/
theorem verdict_eq (records : List NodeRecord) :
    verdict records =
      match firstBreak? records with
      | some broken => .error (.certificate broken)
      | none => .ok () := by
  have hfirst : records.findSome? NodeRecord.brokenChain? = firstBreak? records := by
    rw [firstBreak?, findSome?_flatMap]
    exact congrArg records.findSome? (funext NodeRecord.brokenChain?_eq)
  unfold verdict
  cases hbreak : firstBreak? records with
  | none => rw [hfirst, hbreak]
  | some broken => rw [hfirst, hbreak]

/-- The stage fails with the first break. -/
theorem verdict_eq_error_iff {error : ScrapeError} :
    verdict records = .error error ↔ ∃ before pem after broken,
      records.flatMap NodeRecord.blobs = before ++ pem :: after ∧
        (∀ p ∈ before, ∃ expiries, Chain.decode p = .ok expiries) ∧
        Chain.decode pem = .error broken ∧ error = .certificate broken := by
  have herror : verdict records = .error error ↔
      ∃ broken, firstBreak? records = some broken ∧ error = .certificate broken := by
    rw [verdict_eq]
    cases firstBreak? records with
    | none => simp
    | some found => simp [eq_comm]
  rw [herror]
  constructor
  · rintro ⟨broken, hbreak, rfl⟩
    obtain ⟨before, pem, after, hlist, hpem, hbefore⟩ := List.findSome?_eq_some_iff.1 hbreak
    exact ⟨before, pem, after, broken, hlist, fun p hp => Chain.break?_eq_none.1 (hbefore p hp),
      Chain.break?_eq_some.1 hpem, rfl⟩
  · rintro ⟨before, pem, after, broken, hlist, hbefore, hpem, rfl⟩
    refine ⟨broken, List.findSome?_eq_some_iff.2 ⟨before, pem, after, hlist, ?_, ?_⟩, rfl⟩
    · exact Chain.break?_eq_some.2 hpem
    · exact fun p hp => Chain.break?_eq_none.2 (hbefore p hp)

/-- The verdict is good if every chain of every node is read. -/
theorem verdict_eq_ok_iff :
    verdict records = .ok () ↔
      ∀ pem ∈ records.flatMap NodeRecord.blobs, ∃ expiries, Chain.decode pem = .ok expiries := by
  have hok : verdict records = .ok () ↔ firstBreak? records = none := by
    rw [verdict_eq]
    cases firstBreak? records with
    | none => simp
    | some found => simp
  rw [hok, firstBreak?, List.findSome?_eq_none_iff]
  simp only [Chain.break?_eq_none]

/-- Repaired chains get a good verdict. -/
theorem verdict_mapCertificates {f : String → String} (hf : Repairs f) (records : List NodeRecord) :
    verdict (records.map (·.mapCertificates f)) = .ok () := by
  have hnone : (records.map (·.mapCertificates f)).findSome? NodeRecord.brokenChain? = none := by
    refine List.findSome?_eq_none_iff.2 fun n hn => ?_
    obtain ⟨old, -, rfl⟩ := List.mem_map.1 hn
    exact NodeRecord.brokenChain?_mapCertificates hf old
  rw [verdict, hnone]

/-- Whatever its nodes present as certificates, the stage publishes what it would publish if every
text were cut off before its break, and then fails with the first break, if there is one. The
certificates it shows are those that can be read, each of the last node with its labels that has one
in its place. -/
theorem broken_chains_disturb_nothing (h : Runs (ids.mapM node) cs es (.ok records)) (b : Board) :
    ∃ es' result, (∀ es'' r, Runs (nodes ids) cs es'' r ↔ es'' = es' ∧ r = result) ∧
      let b' := Scraper.applyEffects b es'
      (∃ f, Repairs f) ∧
        (∀ f, Repairs f → ∃ es'', Runs (nodes ids) (cs.map (·.mapCertificates f)) es'' (.ok ()) ∧
          Scraper.applyEffects b es'' = b') ∧
        (∀ identity k i value,
          (identity ++ [ListenerKind.name k, toString i], value) ∈ b'.family (.node .certificates) ↔
            ∃ e, lastCertificate? records identity k i = some e ∧ value = .ofInt e.notAfter) ∧
        (∀ series ∈ b'.family (.node .certificates), ∃ n ∈ records, ∃ k i e,
          n.certificate? k i = some e ∧ series.1 = n.labels ++ [k.name, toString i]) ∧
        (result = .ok () ↔
          ∀ pem ∈ records.flatMap NodeRecord.blobs, ∃ expiries, Chain.decode pem = .ok expiries) ∧
        ∀ error, result = .error error ↔ ∃ before pem after broken,
          records.flatMap NodeRecord.blobs = before ++ pem :: after ∧
            (∀ p ∈ before, ∃ expiries, Chain.decode p = .ok expiries) ∧
            Chain.decode pem = .error broken ∧ error = .certificate broken := by
  have hnodes : (Metric.node .certificates).stage = .nodes := rfl
  -- the board is told by the samples of the nodes, and these are the same for repaired nodes
  obtain ⟨es', hstage, hboard⟩ := exists_runs_nodes h b
  refine ⟨es', _, hstage, exists_repairs, fun f hf => ?_, fun identity k i value => ?_,
    fun series hseries => ?_, verdict_eq_ok_iff, fun error => verdict_eq_error_iff⟩
  · have hfetched : Runs (ids.mapM node) (cs.map (·.mapCertificates f)) es
        (.ok (records.map (·.mapCertificates f))) := answered_mapM (answered_node f) ids cs es _ h
    obtain ⟨es'', hrepaired, hsame⟩ := exists_runs_nodes hfetched b
    rw [verdict_mapCertificates hf] at hrepaired
    refine ⟨es'', (hrepaired es'' _).2 ⟨rfl, rfl⟩, ?_⟩
    rw [hsame, hboard, List.flatMap_map]
    simp only [NodeRecord.samples_mapCertificates hf]
  · rw [hboard, Board.mem_family_publish_iff b hnodes, lastValue?_records, Option.map_eq_some_iff]
    simp only [eq_comm (a := value)]
  · obtain ⟨labels, value⟩ := series
    rw [hboard, Board.family_publish_of_stage_eq b _ hnodes] at hseries
    obtain ⟨n, hn, hs⟩ := List.mem_flatMap.1 (Board.mem_of_mem_family_setAll hseries)
    obtain ⟨k, i, e, he, hlabels, -⟩ := NodeRecord.certificate_mem_samples_iff.1 hs
    exact ⟨n, hn, k, i, e, he, hlabels⟩

/-- A node whose first listener presents a certificate and then rubble, and whose last one presents
rubble only. -/
theorem certificate_before_break_is_shown :
    let pem := "-----BEGIN C-----\nMEMwOAIBATAEBgIqAzAAMB4XDTI2MDEwMTAwMDAwMFoXDTM2MDEwMTAwMDAwMFow" ++
      "ADAJMAQGAioDAwEAMAQGAioDAwEA\n-----END C-----\nrubble"
    let broken : BrokenChain := ⟨1, .pem .missingHeader, [⟨0, 2082758400⟩]⟩
    let n : NodeRecord := ⟨⟨"n", none, some "10.0.0.1", some ⟨some ⟨some pem, none, none⟩, none,
      some ⟨some "rubble", none, none⟩⟩⟩, ⟨none, none, none⟩, []⟩
    let cs : List Call := [⟨.nodeStatus "n", .ok n.status⟩, ⟨.nodeConfig "n", .ok n.settings⟩,
      ⟨.interfaces "n", .ok ⟨[], none, none⟩⟩]
    ∃ es es' result, Runs (["n"].mapM node) cs es (.ok [n]) ∧ Runs (nodes ["n"]) cs es' result ∧
      result = .error (.certificate broken) ∧
      (["n", "10.0.0.1", "n", "api", "0"], .ofInt 2082758400) ∈
        (Scraper.applyEffects .blank es').family (.node .certificates) ∧
      ∀ (i : Nat) value, (["n", "10.0.0.1", "n", "mgmt_plane", toString i], value) ∉
        (Scraper.applyEffects .blank es').family (.node .certificates) := by
  intro pem broken n cs
  obtain ⟨es, hfetched⟩ : ∃ es, Runs (["n"].mapM node) cs es (.ok [n]) :=
    ⟨_, .onward rfl _ (.onward rfl _ (.onward rfl _ (.here _)))⟩
  have hpem : Chain.decode pem = .error broken := by decide +kernel
  have hrubble : Chain.readable (Chain.decode "rubble") = [] := by decide +kernel
  -- the only node is the last one with its labels
  have hlast : ∀ k i, lastCertificate? [n] ["n", "10.0.0.1", "n"] k i = n.certificate? k i := by
    intro k i
    rw [lastCertificate?, List.reverse_singleton, List.findSome?_singleton, if_pos (by decide)]
  obtain ⟨es', result, hstage, -, -, hcertificates, -, -, herror⟩ :=
    broken_chains_disturb_nothing hfetched .blank
  refine ⟨es, es', result, hfetched, (hstage es' result).2 ⟨rfl, rfl⟩, ?_, ?_, ?_⟩
  · exact (herror _).2 ⟨[], pem, ["rubble"], broken, rfl, by simp, hpem, rfl⟩
  · refine (hcertificates ["n", "10.0.0.1", "n"] .api 0 _).2 ⟨⟨0, 2082758400⟩, ?_, rfl⟩
    rw [hlast]
    show (Chain.readable (Chain.decode pem))[0]? = _
    rw [hpem]
    rfl
  · intro i value hshown
    obtain ⟨e, he, -⟩ := (hcertificates ["n", "10.0.0.1", "n"] .plane i value).1 hshown
    rw [hlast] at he
    replace he : (Chain.readable (Chain.decode "rubble"))[i]? = some e := he
    rw [hrubble] at he
    cases he

end Cycle

end FabricGauges
