import FabricGauges.Proofs.Endpoint.Pattern
import FabricGauges.Proofs.Http.Target
import FabricGauges.Settings.Basic

/-!
# What the endpoint serves

The path of the metrics is chosen by the settings, so it may stand in the way of what is served
anyway, it is a pattern, so it may make no sense, and it may be one that no request can ask for.
`Routes.Routable` is the condition under which there are routes at all, `Http.IsPath` the one under
which there are requests, and `Routes.Serves` says what is answered. The settings are checked for
less than that: their path only has to be absolute.
-/

namespace FabricGauges

/-! ## Which paths can be routed -/

namespace Routes

variable {r : Routes} {path : String}

/-- The metrics can be served at a path, beside what is served anyway. -/
structure Routable (path : String) : Prop where
  marks : Route.MarksFit [] path.toList
  few : path.toList.count ':' ≤ parameterLimit
  free : path ≠ "/health" ∧ path ≠ "/ready"

theorem lookup_fixed_eq_none : fixed.lookup path = none ↔ path ≠ "/health" ∧ path ≠ "/ready" := by
  simp [fixed, List.lookup_eq_none_iff]

/-- A router is made for a path that can be matched and is not one of its own. -/
theorem make_eq_ok : make path = .ok r ↔ path.toList.head? = some '/' ∧
    Route.parts false path.toList = .ok r.metrics ∧ r.metrics.count .segment ≤ parameterLimit ∧
      path ≠ "/health" ∧ path ≠ "/ready" := by
  unfold make
  dsimp only
  rw [check_bind_eq_ok, not_not]
  simp only [bind_eq_ok, check_bind_eq_ok, Nat.not_lt, Option.not_isSome_iff_eq_none,
    lookup_fixed_eq_none]
  refine and_congr_right fun _ => ?_
  constructor
  · rintro ⟨parts, hparts, hfew, hfree, hr⟩
    cases hr
    exact ⟨hparts, hfew, hfree⟩
  · rintro ⟨hparts, hfew, hfree⟩
    exact ⟨r.metrics, hparts, hfew, hfree, rfl⟩

/-- There are routes for an absolute path if, and only if, it is routable. -/
theorem exists_make_iff (hpath : path.toList.head? = some '/') :
    (∃ r, make path = .ok r) ↔ Routable path := by
  have hparts : (∃ ps, Route.parts false path.toList = .ok ps) ↔ Route.MarksFit [] path.toList :=
    Route.exists_parts_iff rfl
  simp only [make_eq_ok, hpath, true_and]
  constructor
  · rintro ⟨r, hr, hfew, hfree⟩
    rw [Route.count_segment_parts hr] at hfew
    exact ⟨hparts.1 ⟨_, hr⟩, hfew, hfree⟩
  · rintro ⟨hmarks, hfew, hfree⟩
    obtain ⟨ps, hps⟩ := hparts.2 hmarks
    rw [← Route.count_segment_parts hps] at hfew
    exact ⟨⟨ps⟩, hps, hfew, hfree⟩

/-! ## What is served -/

theorem served?_health (r : Routes) : r.served? "/health" = some .health := rfl

theorem served?_ready (r : Routes) : r.served? "/ready" = some .readiness := rfl

/-- The metrics are served at the path that the routes are for. -/
theorem served?_self (h : make path = .ok r) : r.served? path = some .metrics := by
  obtain ⟨-, hparts, -, hfree⟩ := make_eq_ok.1 h
  unfold served?
  rw [lookup_fixed_eq_none.2 hfree, Route.isMatch_self hparts]
  rfl

theorem lookup_fixed_ne_metrics (path : String) : fixed.lookup path ≠ some .metrics := by
  intro h
  obtain ⟨before, after, hfixed, -⟩ := List.lookup_eq_some_iff.1 h
  have hmem : (path, Served.metrics) ∈ fixed := hfixed ▸ List.mem_append_right _ List.mem_cons_self
  simp [fixed] at hmem

/-- Without marks, they are served nowhere else. -/
theorem eq_of_served? (h : make path = .ok r) (hplain : ∀ c ∈ path.toList, Route.isMark c = false)
    {asked : String} (hserved : r.served? asked = some .metrics) : asked = path := by
  obtain ⟨-, hparts, -⟩ := make_eq_ok.1 h
  have hmetrics : r.metrics = path.toList.map .char := by
    rw [Route.parts_eq_map hplain] at hparts
    exact (Except.ok.inj hparts).symm
  unfold served? at hserved
  split at hserved
  · next served hlookup =>
    rw [hserved] at hlookup
    exact absurd hlookup (lookup_fixed_ne_metrics asked)
  · obtain ⟨hmatch, -⟩ := Option.ite_none_right_eq_some.1 hserved
    rw [hmetrics, Route.isMatch_map_char] at hmatch
    exact String.toList_injective hmatch

/-! ## Answers -/

/-- A GET is answered with what is served at its path, whoever asks. -/
theorem respond_get (r : Routes) (space : String) (state : Scraper.State) (target : String) :
    r.respond space state "GET" target = Response.shared
      (match r.served? (requestPath target) with
      | none => ⟨404, [], ""⟩
      | some served => served.content space state) := by
  unfold respond
  rw [if_neg (by decide)]
  cases r.served? (requestPath target) <;> rfl

/-- A request for a path that is served gets what is served there. -/
theorem respond_get_of_served? {space : String} {state : Scraper.State} {target : String}
    {served : Served} (h : r.served? (requestPath target) = some served) :
    r.respond space state "GET" target = (served.content space state).shared := by
  rw [respond_get, h]

/-- Only the metrics are answered with the type of an exposition. -/
theorem served?_eq_metrics {space : String} {state : Scraper.State} {target body : String}
    (h : r.respond space state "GET" target =
      (Response.text 200 Exposition.contentType body).shared) :
    r.served? (requestPath target) = some .metrics := by
  have htype : (r.respond space state "GET" target).headers.head? =
      some ("content-type", Exposition.contentType) := by rw [h]; rfl
  rw [respond_get] at htype
  -- the other answers are plain text
  have hplain : Response.plainText ≠ Exposition.contentType := by decide
  cases hserved : r.served? (requestPath target) with
  | none =>
    rw [hserved] at htype
    exact absurd htype (by simp [Response.shared])
  | some served =>
    rw [hserved] at htype
    cases served with
    | metrics => rfl
    | health =>
      refine absurd htype ?_
      simpa [Response.shared, Served.content, Response.text] using hplain
    | readiness =>
      refine absurd htype ?_
      simp only [Served.content]
      split <;> simpa [Response.shared, Response.text] using hplain

end Routes

/-! ## Settings -/

theorem Response.body_shared_text (status : Nat) (type body : String) :
    (text status type body).shared.body = body := rfl

/-- The path of valid settings is absolute. -/
theorem Settings.head?_path {settings : Settings} (h : settings.check = .ok ()) :
    settings.scrape.path.toList.head? = some '/' := by
  unfold Settings.check at h
  simp only [bind_eq_ok, check_bind_eq_ok, not_not] at h
  obtain ⟨-, -, -, -, -, -, hpath, -⟩ := h
  exact hpath

/-- There are requests that get a path, and all of them are answered with the same. -/
structure Routes.Answers (r : Routes) (space path : String) (content : Scraper.State → Response) :
    Prop where
  exists_request : ∃ request, Http.AsksFor request "GET" path
  answer : ∀ request state, Http.AsksFor request "GET" path →
    Http.answer r space state request = (content state).shared

/-- The metrics are served at their path, and beside them the health and the readiness. -/
structure Routes.Serves (r : Routes) (scrape : ScrapeSettings) : Prop where
  metrics : r.Answers scrape.space scrape.path fun state =>
    .text 200 Exposition.contentType (state.board.render scrape.space)
  health : r.Answers scrape.space "/health" fun _ => .text 200 Response.plainText "healthy\n"
  ready : r.Answers scrape.space "/ready" fun state =>
    if 0 < state.stats.successes then .text 200 Response.plainText "ready\n"
    else .text 503 Response.plainText "not ready - no successful scrape yet\n"

/-- What is served at a path is answered if, and only if, the path can be asked for. -/
theorem Routes.answers_iff {r : Routes} {space path : String} {served : Served}
    (h : r.served? path = some served) (habsolute : path.toList.head? = some '/') :
    r.Answers space path (served.content space) ↔ Http.IsPath path := by
  have hget : ∀ c ∈ "GET".toList, c ≠ ' ' ∧ c ≠ '\r' := by simp
  have hrequests := Http.exists_asksFor_iff hget habsolute
  constructor
  · exact fun hanswers => hrequests.1 hanswers.exists_request
  · intro hpath
    refine ⟨hrequests.2 hpath, ?_⟩
    rintro request state ⟨target, hasked, htarget⟩
    rw [Http.answer, hasked]
    exact respond_get_of_served? (htarget ▸ h)

theorem isPath_health : Http.IsPath "/health" := ⟨List.all_eq_true.1 (by decide), by decide⟩

theorem isPath_ready : Http.IsPath "/ready" := ⟨List.all_eq_true.1 (by decide), by decide⟩

/-- A router serves the exposition if requests can have its path. -/
theorem Routes.serves_iff {r : Routes} {scrape : ScrapeSettings} (h : make scrape.path = .ok r) :
    r.Serves scrape ↔ Http.IsPath scrape.path := by
  have hmetrics : r.Answers scrape.space scrape.path _ ↔ Http.IsPath scrape.path :=
    answers_iff (served?_self h) (make_eq_ok.1 h).1
  constructor
  · exact fun hserves => hmetrics.1 hserves.metrics
  · intro hpath
    exact ⟨hmetrics.2 hpath, (answers_iff (served?_health r) (by decide)).2 isPath_health,
      (answers_iff (served?_ready r) (by decide)).2 isPath_ready⟩

/-- There are routes for the path of valid settings if, and only if, it is routable, and the routes
serve if, and only if, the path can be asked for besides. Health and readiness are answered wherever
there are routes, and unless the path has parameters, the metrics are served at no other one. -/
theorem valid_settings_served_iff_routable {settings : Settings} (h : settings.check = .ok ()) :
    let scrape := settings.scrape
    ((∃ r, Routes.make scrape.path = .ok r) ↔ Routes.Routable scrape.path) ∧
    ((∃ r, Routes.make scrape.path = .ok r ∧ r.Serves scrape) ↔
      Routes.Routable scrape.path ∧ (∀ c ∈ scrape.path.toList, Http.isPathChar c) ∧
        (Text.utf8 scrape.path.toList).length ≤ Http.targetLimit) ∧
    ∀ r, Routes.make scrape.path = .ok r →
      (r.Answers scrape.space "/health" fun _ => .text 200 Response.plainText "healthy\n") ∧
      (r.Answers scrape.space "/ready" fun state =>
        if 0 < state.stats.successes then .text 200 Response.plainText "ready\n"
        else .text 503 Response.plainText "not ready - no successful scrape yet\n") ∧
      ((∀ c ∈ scrape.path.toList, Route.isMark c = false) → ∀ request target state body,
        Http.asked? request = some ("GET", target) →
        Http.answer r scrape.space state request =
            (Response.text 200 Exposition.contentType body).shared →
          requestPath target = scrape.path ∧ body = state.board.render scrape.space) := by
  intro scrape
  have hroutable := Routes.exists_make_iff (Settings.head?_path h)
  refine ⟨hroutable, ?_, fun r hr => ⟨?_, ?_, ?_⟩⟩
  · rw [← hroutable]
    constructor
    · rintro ⟨r, hr, hserves⟩
      obtain ⟨hchars, hshort⟩ := (Routes.serves_iff hr).1 hserves
      exact ⟨⟨r, hr⟩, hchars, hshort⟩
    · rintro ⟨⟨r, hr⟩, hchars, hshort⟩
      exact ⟨r, hr, (Routes.serves_iff hr).2 ⟨hchars, hshort⟩⟩
  · exact (Routes.answers_iff (Routes.served?_health r) (by decide)).2 isPath_health
  · exact (Routes.answers_iff (Routes.served?_ready r) (by decide)).2 isPath_ready
  -- only the metrics are answered as an exposition, and only at their own path
  · intro hplain request target state body hasked hbody
    rw [Http.answer, hasked] at hbody
    replace hbody : r.respond scrape.space state "GET" target =
      (Response.text 200 Exposition.contentType body).shared := hbody
    have htarget : requestPath target = scrape.path :=
      Routes.eq_of_served? hr hplain (Routes.served?_eq_metrics hbody)
    rw [Routes.respond_get_of_served? (htarget ▸ Routes.served?_self hr)] at hbody
    have hsame := congrArg Response.body hbody
    rw [Served.content, Response.body_shared_text, Response.body_shared_text] at hsame
    exact ⟨htarget, hsame.symm⟩

/-- A path with a parameter, and a path beside the health. -/
theorem site_metrics_are_served :
    let settings : Settings :=
      ⟨{ Connection.blank with url := "https://m", username := some "u", password := some "p" },
        ⟨60, 30, "0.0.0.0:8080", "/:site/metrics", "nsxt"⟩, .none, ⟨"info", .text⟩⟩
    settings.check = .ok () ∧ ∃ r, Routes.make "/:site/metrics" = .ok r ∧
      r.Serves settings.scrape ∧ ∀ state : Scraper.State,
        Http.answer r "nsxt" state (Text.utf8 "GET /:site/metrics?all HTTP/1.1\r\n\r\n".toList) =
          (Response.text 200 Exposition.contentType (state.board.render "nsxt")).shared := by
  intro settings
  have hcheck : settings.check = .ok () := by decide +kernel
  obtain ⟨hroutes, hserved, -⟩ := valid_settings_served_iff_routable hcheck
  have hparts : ∃ parts, Route.parts false settings.scrape.path.toList = .ok parts := by
    have hpath : settings.scrape.path.toList = '/' :: ':' :: "site/metrics".toList := by decide
    have hname : Route.name "site/metrics".toList = .ok "site".toList :=
      Route.name_eq_ok.2 ⟨by decide, by decide, by simp [Route.isMark]⟩
    have hlater := Route.parts_eq_map (s := "/metrics".toList) (by simp [Route.isMark]) false
    -- one parameter, up to the next slash
    have hcolon : Route.parts true (':' :: "site/metrics".toList) =
        .ok (.segment :: "/metrics".toList.map .char) :=
      Route.parts_colon_eq_ok.2 ⟨_, _, hname, hlater, rfl⟩
    rw [hpath]
    exact ⟨_, (Route.parts_char_eq_ok rfl).2 ⟨_, hcolon, rfl⟩⟩
  have hroutable : Routes.Routable settings.scrape.path :=
    ⟨(Route.exists_parts_iff rfl).1 hparts, by decide, by decide⟩
  obtain ⟨r, hr, hserves⟩ := hserved.2 ⟨hroutable, List.all_eq_true.1 (by decide), by decide⟩
  refine ⟨hcheck, r, hr, hserves, fun state => ?_⟩
  exact hserves.metrics.answer _ state ⟨"/:site/metrics?all", by decide +kernel, by decide⟩

/-- A path that is taken, one that is no pattern, and two that no request asks for. -/
theorem valid_paths_not_served :
    let settings := fun path : String => Settings.mk
      { Connection.blank with url := "https://m", username := some "u", password := some "p" }
      ⟨60, 30, "0.0.0.0:8080", path, "nsxt"⟩ .none ⟨"info", .text⟩
    ((settings "/health").check = .ok () ∧ Routes.make "/health" = .error .taken) ∧
    ((settings "/metrics/:").check = .ok () ∧ Routes.make "/metrics/:" = .error .unnamed) ∧
    ∀ path ∈ ["/metrics?all", "/all metrics"], (settings path).check = .ok () ∧
      (∃ r, Routes.make path = .ok r) ∧ ∀ request, ¬Http.AsksFor request "GET" path := by
  intro settings
  refine ⟨⟨by decide +kernel, ?_⟩, ⟨by decide +kernel, ?_⟩, ?_⟩
  · have hparts := Route.parts_eq_map (s := "/health".toList) (by simp [Route.isMark]) false
    unfold Routes.make
    rw [hparts]
    rfl
  · have hparts : Route.parts false "/metrics/:".toList = .error .unnamed := by
      simp [Route.parts, Route.name, bind, Except.bind]
    unfold Routes.make
    rw [hparts]
    rfl
  -- a path with a character that no request has in its path is routed all the same
  · have hunasked : ∀ path : String, (path.toList.any fun c => !Http.isPathChar c) →
        ∀ request, ¬Http.AsksFor request "GET" path := by
      intro path hany request hasks
      obtain ⟨c, hc, hbad⟩ := List.any_eq_true.1 hany
      rw [hasks.isPath.chars c hc] at hbad
      cases hbad
    have hmake : ∀ path : String, (∀ c ∈ path.toList, Route.isMark c = false) →
        path.toList.head? = some '/' → path ≠ "/health" ∧ path ≠ "/ready" →
        ∃ r, Routes.make path = .ok r := by
      intro path hplain hhead hfree
      refine ⟨⟨path.toList.map .char⟩, Routes.make_eq_ok.2 ?_⟩
      refine ⟨hhead, Route.parts_eq_map hplain false, ?_, hfree⟩
      rw [List.count_eq_zero_of_not_mem (by simp)]
      exact Nat.zero_le _
    rw [List.forall_mem_cons, List.forall_mem_singleton]
    exact ⟨⟨by decide +kernel, hmake _ (by simp [Route.isMark]) (by decide) (by decide),
        hunasked _ (by decide)⟩,
      by decide +kernel, hmake _ (by simp [Route.isMark]) (by decide) (by decide),
        hunasked _ (by decide)⟩

end FabricGauges
