import FabricGauges.Proofs.Client.Addressing
import FabricGauges.Proofs.Url.Weight

/-!
# Identifiers in paths

Identifiers are written into paths as they are. Each of them is one segment that stands for it if,
and only if, it can be a segment and stands for its own bytes: a path that loses nothing where it is
read has the full weight of the request, and one that has the full weight has lost nothing. Requests
of which this holds ask for different targets.
-/

namespace FabricGauges

open Text Url

namespace Request

/-- A request all of whose identifiers are segments that stand for themselves. -/
structure Contained (r : Request) : Prop extends Enclosed r where
  bytes : ∀ id ∈ r.ids, Percent.decode id.toList = utf8 id.toList

theorem contained_iff {r : Request} :
    r.Contained ↔ r.Enclosed ∧ ∀ id ∈ r.ids, Percent.decode id.toList = utf8 id.toList :=
  ⟨fun h => ⟨h.toEnclosed, h.bytes⟩, fun h => ⟨h.1, h.2⟩⟩

instance (r : Request) : Decidable r.Contained := decidable_of_iff' _ contained_iff

/-- The bytes of the segments of a request. -/
def segmentBytes (r : Request) : List (List UInt8) := r.segments.map fun s => utf8 s.toList

theorem mem_segments_of_mem_ids (r : Request) : ∀ id ∈ r.ids, id ∈ r.segments := by
  cases r <;> simp [ids, segments]

/-- The segments of a contained request stand for themselves. -/
theorem Contained.decode_below {r : Request} (h : r.Contained) :
    r.below.map Percent.decode = r.segmentBytes := by
  have hwords : ∀ w ∈ words, Percent.decode w.toList = utf8 w.toList := by decide +kernel
  rw [below, segmentBytes, List.map_map, List.map_inj_left]
  intro s hs
  rw [Function.comp_apply, Percent.decode_encode escapable_path]
  exact (mem_words_or_ids r s hs).elim (hwords s) (h.bytes s)

/-- A path has the bytes of its segments, and a slash before each. -/
theorem length_utf8_path (r : Request) :
    (utf8 r.path.toList).length = (r.segmentBytes.map fun bytes => bytes.length + 1).sum := by
  rw [toList_path, segmentBytes, joined]
  induction r.segments with
  | nil => rfl
  | cons s rest ih =>
    have hslash : (String.utf8EncodeChar '/').length = 1 := by decide
    simp only [List.flatMap_cons, List.cons_append, utf8_cons, utf8_append, List.length_append,
      List.map_cons, List.sum_cons, hslash, ih]
    omega

/-- A path of which nothing is lost is all seen, up to its end. -/
theorem seen_of_takeWhile {p : List Char} (h : (ended p).takeWhile (!endsPath ·) = p) :
    (∀ c ∈ p, endsPath c = false ∧ isSeen c = true) ∧ ∀ c ∈ p.getLast?, isFaint c = false := by
  have htake : ((ended p).takeWhile (!endsPath ·)).Sublist (ended p) := List.takeWhile_sublist _
  have hended : ended p = p := by
    refine (ended_sublist p).eq_of_length_le ?_
    rw [h] at htake
    exact htake.length_le
  refine ⟨fun c hc => ⟨?_, ?_⟩, fun c hc => ?_⟩
  · rw [← h] at hc
    simpa using List.mem_takeWhile_imp hc
  · rw [← hended] at hc
    exact isSeen_of_mem_ended hc
  · rw [← hended] at hc
    exact not_isFaint_of_mem_getLast?_ended hc

/-- What is read of a path behind another one, if it stands for the segments of the request, is the
whole path, and all its segments stand for themselves. -/
theorem exists_read_path {r : Request} {kept own : List (List Char)}
    (hown : own.map Percent.decode = r.segmentBytes) {rest : List Char}
    (hrest : (ended r.path.toList).takeWhile (!endsPath ·) = '/' :: rest)
    (h : resolve kept (pieces isSlash rest) = kept ++ own) :
    '/' :: rest = r.path.toList ∧ pieces isSlash rest = r.segments.map String.toList ∧
      ∀ piece ∈ pieces isSlash rest, isDots piece = false ∧ Percent.decode piece = utf8 piece := by
  have hslash : (String.utf8EncodeChar '/').length = 1 := by decide
  have hsub : ('/' :: rest).Sublist r.path.toList := by
    rw [← hrest]
    exact (List.takeWhile_sublist _).trans (ended_sublist _)
  have hlength : (utf8 ('/' :: rest)).length = (utf8 rest).length + 1 := by
    rw [utf8_cons, List.length_append, hslash, Nat.add_comm]
  have hweight : weight own = (utf8 r.path.toList).length := by
    rw [length_utf8_path, ← hown, List.map_map]
    rfl
  -- what is read is part of the path, and it weighs as much as the path does, so nothing is left
  -- out
  have hle := length_utf8_le_of_sublist hsub
  have hkept : weight (resolve kept (pieces isSlash rest)) =
      weight kept + (utf8 r.path.toList).length := by
    rw [h, weight_append, hweight]
  have hge := weight_resolve_pieces_le kept rest
  have hwhole : weight kept + ((utf8 rest).length + 1) ≤
      weight (resolve kept (pieces isSlash rest)) := by omega
  obtain ⟨hplain, hdecode⟩ := kept_of_weight hwhole
  refine ⟨eq_of_sublist_of_length_utf8 hsub (by omega), ?_, fun piece hpiece =>
    ⟨hplain piece hpiece, hdecode piece hpiece⟩⟩
  have hpieces : (pieces isSlash rest).map (Percent.encode isPathEscaped) = own := by
    rw [resolve_plain hplain] at h
    exact List.append_cancel_left h
  -- nothing was lost by escaping, so the pieces are the segments themselves
  have hbytes : (pieces isSlash rest).map utf8 = (r.segments.map String.toList).map utf8 :=
    calc (pieces isSlash rest).map utf8
      _ = (pieces isSlash rest).map Percent.decode := (List.map_congr_left hdecode).symm
      _ = ((pieces isSlash rest).map (Percent.encode isPathEscaped)).map Percent.decode := by
        rw [List.map_map]
        exact List.map_congr_left fun piece _ => (Percent.decode_encode escapable_path piece).symm
      _ = r.segmentBytes := by rw [hpieces, hown]
      _ = (r.segments.map String.toList).map utf8 := List.map_map.symm
  exact List.map_injective_iff.2 (fun _ _ => utf8_injective) hbytes

/-- A request is contained if what is read of its path behind another one stands for its
segments. -/
theorem contained_of_readPath {r : Request} {tail : List Char} (htail : IsPath tail)
    {own : List (List Char)} (hown : own.map Percent.decode = r.segmentBytes)
    (h : readPath (tail ++ (ended r.path.toList).takeWhile (!endsPath ·)) = readFolder tail ++ own) :
    r.Contained := by
  obtain ⟨p, hpath, -⟩ := r.exists_path
  have hrest : (ended r.path.toList).takeWhile (!endsPath ·) =
      '/' :: (ended p).takeWhile (!endsPath ·) := by
    rw [hpath, ended_slash, List.takeWhile_cons_of_pos (by decide)]
  rw [hrest, readPath_append htail] at h
  obtain ⟨hwhole, hpieces, hall⟩ := exists_read_path hown hrest h
  obtain ⟨hseen, hlast⟩ := seen_of_takeWhile (hrest.trans hwhole)
  have hpiece : ∀ id ∈ r.ids, id.toList ∈ pieces isSlash ((ended p).takeWhile (!endsPath ·)) := by
    intro id hid
    rw [hpieces]
    exact List.mem_map_of_mem (r.mem_segments_of_mem_ids id hid)
  refine ⟨⟨fun id hid => ?_, hlast⟩, fun id hid => (hall _ (hpiece id hid)).2⟩
  rw [isSegment, (hall _ (hpiece id hid)).1, Bool.not_false, Bool.and_true, List.all_eq_true]
  intro c hc
  have huncut := not_cut_of_mem_pieces (hpiece id hid) hc
  obtain ⟨hends, hcseen⟩ := hseen c (mem_path_of_mem_segments (r.mem_segments_of_mem_ids id hid) hc)
  simp [endsAuthority, huncut, hends, hcseen]

/-- The segments of an enclosed request hold no slash and no question mark once they are escaped. -/
theorem Enclosed.below_uncut {r : Request} (h : r.Enclosed) :
    ∀ segment ∈ r.below, ∀ c ∈ segment, isSlash c = false ∧ c ≠ '?' := by
  intro segment hsegment c hc
  obtain ⟨s, hs, rfl⟩ := List.mem_map.1 hsegment
  rcases Percent.mem_encode hc with ⟨hmem, hkept⟩ | rfl | hdigit
  · refine ⟨(mem_of_isSegment (h.isSegment s hs) hmem).1, ?_⟩
    rintro rfl
    exact absurd hkept (by decide)
  · decide
  · constructor
    · by_contra hslash
      have hcases : c = '/' ∨ c = '\\' := by simpa [isSlash, or_iff_not_imp_left] using hslash
      rcases hcases with rfl | rfl <;> exact absurd hdigit (by decide)
    · rintro rfl
      exact absurd hdigit (by decide)

/-- The segments of an enclosed request come apart where they are written one behind the other. -/
theorem Enclosed.pieces_below {r : Request} (h : r.Enclosed) :
    pieces isSlash ((r.below.flatMap ('/' :: ·)).drop 1) = r.below := by
  obtain ⟨word, rest, hsegments, -⟩ := r.exists_segments
  have huncut : ∀ p ∈ r.below, ∀ c ∈ p, isSlash c = false := fun p hp c hc =>
    (h.below_uncut p hp c hc).1
  rw [below, hsegments, List.map_cons] at huncut ⊢
  exact pieces_joined rfl huncut

/-- The segments of an enclosed request end where a question mark begins the query. -/
theorem Enclosed.takeWhile_below {r : Request} (h : r.Enclosed) {query : List Char}
    (hquery : ∀ c ∈ query.head?, c = '?') :
    (r.below.flatMap ('/' :: ·) ++ query).takeWhile (· ≠ '?') = r.below.flatMap ('/' :: ·) := by
  have hbefore : ∀ c ∈ r.below.flatMap ('/' :: ·), decide (c ≠ '?') = true := by
    intro c hc
    obtain ⟨segment, hsegment, hmem⟩ := List.mem_flatMap.1 hc
    rcases List.mem_cons.1 hmem with rfl | hmem
    · decide
    · simpa using (h.below_uncut segment hsegment c hmem).2
  rw [List.takeWhile_append_of_pos hbefore]
  cases query with
  | nil => simp
  | cons c query => simp [hquery c rfl]

/-- A target is a path and perhaps a query behind a question mark. -/
theorem exists_target (v : Url) : ∃ query, (∀ c ∈ query.head?, c = '?') ∧
    v.target.toList = v.path.flatMap ('/' :: ·) ++ query := by
  unfold target
  rw [String.toList_ofList]
  refine ⟨_, ?_, rfl⟩
  split <;> simp

/-- A target tells the segments behind a folder. -/
theorem below_eq_of_target {r s : Request} (hr : r.Enclosed) (hs : s.Enclosed) {v w : Url}
    {folder : List (List Char)} (hv : v.path = folder ++ r.below) (hw : w.path = folder ++ s.below)
    (h : v.target = w.target) : r.below = s.below := by
  obtain ⟨q, hq, hvtarget⟩ := exists_target v
  obtain ⟨q', hq', hwtarget⟩ := exists_target w
  rw [h, hwtarget, hv, hw, List.flatMap_append, List.flatMap_append, List.append_assoc,
    List.append_assoc, List.append_cancel_left_eq] at hvtarget
  have hjoined := congrArg (List.takeWhile (· ≠ '?')) hvtarget
  rw [hr.takeWhile_below hq, hs.takeWhile_below hq'] at hjoined
  rw [← hr.pieces_below, ← hjoined, hs.pieces_below]

/-- Contained requests with the same segments once they are escaped are the same, up to the page of
a listing. -/
theorem withoutCursor_eq_of_below {r s : Request} (hr : r.Contained) (hs : s.Contained)
    (h : r.below = s.below) : r.withoutCursor = s.withoutCursor := by
  have hbytes : r.segmentBytes = s.segmentBytes := by
    rw [← hr.decode_below, h, hs.decode_below]
  have hsegments : r.segments = s.segments :=
    List.map_injective_iff.2 (fun _ _ heq => String.toList_injective (utf8_injective heq)) hbytes
  have hrequests := ofSegments?_segments r
  rw [hsegments, ofSegments?_segments] at hrequests
  exact (Option.some.inj hrequests).symm

end Request

namespace Client

/-- For each client that is made from settings whose URL has no query and no fragment, the path of a
request has, behind a folder that does not depend on the request, segments that stand for its fixed
words and its identifiers if, and only if, the request is contained. Contained requests ask for
different targets unless they ask for pages of the same listing. A request can always be asked for
if the URL does not end in a blank. -/
theorem identifiers_are_segments_iff {files : Files} {c : Connection} {client : Client}
    (h : make files c = .ok client) (hplain : ∀ d ∈ c.url.toList, endsPath d = false) :
    (endsFaint c.url.toList = false → ∀ r, ∃ v, client.location r = .ok v) ∧
    (∃ folder, ∀ r v, client.location r = .ok v →
      (r.Contained → v.path = folder ++ r.below) ∧
      ((∃ own, v.path = folder ++ own ∧ own.map Percent.decode = r.segmentBytes) ↔ r.Contained)) ∧
    ∀ r s v w, Request.Contained r → Request.Contained s → client.location r = .ok v →
      client.location s = .ok w → v.target = w.target → r.withoutCursor = s.withoutCursor := by
  obtain ⟨u, -, hurl, hbase⟩ := of_make h
  obtain ⟨B⟩ := exists_base hurl
  -- what is read of the path, behind the folder that does not depend on the request
  have hread : ∀ r v, client.location r = .ok v → IsPath (B.tail ++ B.blanks) ∧
      v.path = readPath (B.tail ++ B.blanks ++ (ended r.path.toList).takeWhile (!endsPath ·)) := by
    intro r v hv
    obtain ⟨w, hw, rfl⟩ := location_eq_ok.1 hv
    obtain ⟨p, hpath, -⟩ := r.exists_path
    rw [hbase] at hw
    exact ⟨B.isPath hplain (B.goes_on hpath hw).1, (B.path_eq hplain hpath hw).1⟩
  have hbelow : ∀ r v, Request.Contained r → client.location r = .ok v →
      v.path = readFolder (B.tail ++ B.blanks) ++ r.below := by
    intro r v hr hv
    obtain ⟨hfolder, hpath⟩ := hread r v hv
    rw [hpath, hr.takeWhile_ended, hr.readPath_append hfolder]
  refine ⟨fun hunblank r => ?_, ⟨readFolder (B.tail ++ B.blanks), fun r v hv => ⟨?_, ?_, ?_⟩⟩, ?_⟩
  · obtain ⟨p, hpath, -⟩ := r.exists_path
    obtain ⟨w, hw, -⟩ := Origin.exists_url B.url_eq (B.tail ++ B.blanks ++ ended r.path.toList)
    rw [← B.ofText_eq_url (.inr (B.blanks_eq_nil.2 hunblank)) r.path hpath, ← hbase] at hw
    exact ⟨w.addPairs r.pairs, location_eq_ok.2 ⟨w, hw, rfl⟩⟩
  · exact fun hr => hbelow r v hr hv
  · rintro ⟨own, hown, hbytes⟩
    obtain ⟨hfolder, hpath⟩ := hread r v hv
    exact Request.contained_of_readPath hfolder hbytes (hpath ▸ hown)
  · exact fun hr => ⟨r.below, hbelow r v hr hv, hr.decode_below⟩
  · intro r s v w hr hs hv hw htarget
    have hsame := Request.below_eq_of_target hr.toEnclosed hs.toEnclosed (hbelow r v hr hv)
      (hbelow s w hs hw) htarget
    exact Request.withoutCursor_eq_of_below hr hs hsame

/-- A node and an interface whose identifiers hold a blank and a colon, below a folder. -/
theorem counters_are_below_folder :
    let c := { Connection.blank with
      url := "https://nsx.test/lab/", username := some "admin", password := some "secret" }
    let r := Request.interfaceCounters "n 1" "eth0:1"
    ∃ client v folder, make (fun _ => .error .missing) c = .ok client ∧
      (∀ d ∈ c.url.toList, endsPath d = false) ∧ endsFaint c.url.toList = false ∧ r.Contained ∧
      client.location r = .ok v ∧ v.path = folder ++ r.below ∧
      v.target = "/lab/api/v1/cluster/nodes/n%201/network/interfaces/eth0:1/stats" := by
  intro c r
  have hclient : make (fun _ => .error .missing) c =
      .ok ⟨withoutSlashes c.url, some ("admin", "secret"), .ofConnection c⟩ := by decide +kernel
  have hextensible : Extensible c.url := by decide +kernel
  have hcontained : r.Contained := by decide +kernel
  obtain ⟨hsome, ⟨folder, hfolder⟩, -⟩ := identifiers_are_segments_iff hclient hextensible.plain
  obtain ⟨v, hv⟩ := hsome hextensible.unblank r
  have htarget : (location ⟨withoutSlashes c.url, some ("admin", "secret"), .ofConnection c⟩ r).map
      target = .ok "/lab/api/v1/cluster/nodes/n%201/network/interfaces/eth0:1/stats" := by
    decide +kernel
  rw [hv] at htarget
  exact ⟨_, v, folder, hclient, hextensible.plain, hextensible.unblank, hcontained, hv,
    (hfolder r v hv).1 hcontained, Except.ok.inj htarget⟩

/-- Identifiers with a slash and with an escape, and other requests that ask for the same. -/
theorem different_requests_ask_for_same :
    let c := { Connection.blank with
      url := "https://nsx.test", username := some "admin", password := some "secret" }
    ∃ client v w, make (fun _ => .error .missing) c = .ok client ∧
      client.location (.nodeConfig "n/status") = .ok v ∧
      client.location (.nodeStatus "n") = .ok v ∧
      client.location (.nodeConfig "n%201") = .ok w ∧ client.location (.nodeConfig "n 1") = .ok w := by
  refine ⟨_, _, _, rfl, rfl, ?_, rfl, ?_⟩
  · decide +kernel
  · decide +kernel

end Client

end FabricGauges
