import FabricGauges.Proofs.Exposition.Lines
import FabricGauges.Proofs.Metric.Texts
import FabricGauges.Proofs.Scraper.Shown
import FabricGauges.Settings.Basic

/-!
# The exposition of a board

An exposition says two lines about each of its parts and gives each series a line. The names and the
texts of the families are legible, so whether the exposition of a board can be read depends on the
namespace and on the label values alone. The settings only ask for a namespace that is not empty,
and label values are whatever a manager has sent.
-/

namespace FabricGauges

open OpenMetrics (Entry isMetricName isPlain)

/-! ## Parts -/

namespace Exposed

/-- The name of a part, without a namespace. -/
def name : Exposed → String
  | gauge name _ _ => name
  | family f _ => f.name

/-- The description of a part. -/
def help : Exposed → String
  | gauge _ help _ => help
  | family f _ => f.help

/-- The names of the labels of a part. -/
def labels : Exposed → List String
  | gauge _ _ _ => []
  | family f _ => f.labels

/-- The series of a part. -/
def series : Exposed → List (List String × Double)
  | gauge _ _ value => [([], value)]
  | family _ series => series

/-- What is to be read of a part under a namespace. -/
def entries (space : String) (part : Exposed) : List Entry :=
  let name := Exposition.fullName (some space) part.name
  .help name (part.help ++ ".") :: .type name "gauge" ::
    part.series.map fun s => .sample name (part.labels.zip s.1) s.2

/-- The texts of a part that do not come from a manager are legible, and it has labels if it is a
family, with a value for each of them in every series. -/
structure Proper (part : Exposed) : Prop where
  name_part : AllChars OpenMetrics.isNamePart part.name
  harmless_help : AllChars OpenMetrics.isHarmless part.help
  isName_labels : ∀ l ∈ part.labels,
    OpenMetrics.isName OpenMetrics.isLabelStart OpenMetrics.isLabelPart l.toList
  labels_ne_nil : ∀ f series, part = family f series → f.labels ≠ []
  length_values : ∀ s ∈ part.series, s.1.length = part.labels.length

end Exposed

namespace Board

/-- What is to be read of the exposition of a board under a namespace. -/
def entries (b : Board) (space : String) : List Entry := b.exposed.flatMap (Exposed.entries space)

/-- Every label value of a board stands for itself in an exposition. -/
def Plain (b : Board) : Prop := ∀ m : Metric, ∀ s ∈ b.family m, ∀ v ∈ s.1, isPlain v.toList

/-- A labelled board has proper parts. -/
theorem Labelled.proper {b : Board} (h : b.Labelled) : ∀ part ∈ b.exposed, part.Proper := by
  intro part hpart
  rcases List.mem_cons.1 hpart with rfl | hpart
  · refine ⟨.ofList (by decide), .ofList (by decide), List.forall_mem_nil _, ?_, ?_⟩
    · intro f series hf
      cases hf
    · exact List.forall_mem_singleton.2 rfl
  rcases List.mem_cons.1 hpart with rfl | hpart
  · refine ⟨.ofList (by decide), .ofList (by decide), List.forall_mem_nil _, ?_, ?_⟩
    · intro f series hf
      cases hf
    · exact List.forall_mem_singleton.2 rfl
  · obtain ⟨m, -, rfl⟩ := List.mem_map.1 hpart
    refine ⟨m.allChars_name, m.allChars_help, m.isName_labels.2, ?_, fun s hs => h.of_mem_family hs⟩
    intro f series hf
    cases hf
    exact m.isName_labels.1

end Board

/-! ## Lines -/

namespace Exposed

open Exposition (fullName)

/-- The text of the labels of a series is that of the pairs of names and values. -/
theorem toList_labelSet {names values : List String} (hne : names ≠ [])
    (hlength : values.length = names.length) :
    (Exposition.labelSet names values).toList = OpenMetrics.bracesText (names.zip values) := by
  have hpairs : (List.zipWith Exposition.label names values).map String.toList =
      (names.zip values).map OpenMetrics.labelText := by
    rw [List.map_zipWith, List.zip, List.map_zipWith]
    rfl
  have htext : (Exposition.labelSet names values).toList =
      '{' :: (OpenMetrics.labelsText (names.zip values) ++ ['}']) := by
    unfold Exposition.labelSet OpenMetrics.labelsText
    rw [String.toList_append, String.toList_append, String.toList_intercalate, hpairs]
    rfl
  rw [htext]
  cases names with
  | nil => exact absurd rfl hne
  | cons n names =>
    cases values with
    | nil => cases hlength
    | cons v values => rfl

theorem toList_header (name help : String) :
    (Exposition.header name help).map String.toList =
      [(Entry.help name (help ++ ".")).line, (Entry.type name "gauge").line] := by
  have hhelp : ("# HELP " ++ name ++ " " ++ help ++ ".").toList =
      (Entry.help name (help ++ ".")).line := by
    simp only [String.toList_append, List.append_assoc, Entry.line]
    rfl
  have htype : ("# TYPE " ++ name ++ " gauge").toList = (Entry.type name "gauge").line := by
    simp only [String.toList_append, List.append_assoc, Entry.line]
    rfl
  rw [← hhelp, ← htype]
  rfl

/-- A series is rendered as the line of a sample. -/
theorem toList_seriesLine {names values : List String} (hne : names ≠ [])
    (hlength : values.length = names.length) (name : String) (value : Double) :
    (Exposition.seriesLine name names (values, value)).toList =
      (Entry.sample name (names.zip values) value).line := by
  unfold Exposition.seriesLine
  rw [String.toList_append, String.toList_append, String.toList_append,
    toList_labelSet hne hlength]
  simp [Entry.line]

/-- The lines of a part are those of its entries. -/
theorem toList_lines {part : Exposed} (h : part.Proper) (space : String) :
    (Exposition.lines (some space) part).map String.toList =
      (part.entries space).map Entry.line := by
  cases part with
  | gauge name help value =>
    have hsample : (fullName (some space) name ++ " " ++ Layout.sample.render value).toList =
        (Entry.sample (fullName (some space) name) [] value).line := by
      simp [Entry.line, OpenMetrics.bracesText]
    show (Exposition.header _ help ++ [_]).map String.toList = _
    rw [List.map_append, toList_header, List.map_singleton, hsample]
    rfl
  | family f series =>
    have hseries : (series.map (Exposition.seriesLine (fullName (some space) f.name) f.labels)).map
        String.toList = (series.map fun s => Entry.sample (fullName (some space) f.name)
          (f.labels.zip s.1) s.2).map Entry.line := by
      rw [List.map_map, List.map_map]
      apply List.map_congr_left
      intro s hs
      exact toList_seriesLine (h.labels_ne_nil f series rfl) (h.length_values s hs) _ s.2
    show (Exposition.header _ f.help ++ _).map String.toList = _
    rw [List.map_append, toList_header, hseries]
    rfl

/-! ## Legibility -/

/-- A name of a part is legible under a namespace that is. -/
theorem isMetricName_fullName {space name : String} (hspace : space ≠ "")
    (hname : AllChars OpenMetrics.isNamePart name) :
    isMetricName (fullName (some space) name).toList ↔ isMetricName space.toList := by
  have htext : (fullName (some space) name).toList = space.toList ++ '_' :: name.toList := by
    unfold fullName
    simp
  have hne : space.toList ≠ [] := by
    rwa [Ne, String.toList_eq_nil_iff]
  rw [htext]
  cases hs : space.toList with
  | nil => exact absurd hs hne
  | cons c s =>
    show (OpenMetrics.isNameStart c && (s ++ '_' :: name.toList).all OpenMetrics.isNamePart) ↔
      (OpenMetrics.isNameStart c && s.all OpenMetrics.isNamePart)
    have hrest : ('_' :: name.toList).all OpenMetrics.isNamePart = true := hname
    -- what is put behind the namespace is part of any name
    rw [List.all_append, hrest, Bool.and_true]

/-- Labels are legible if their values are plain. -/
theorem legible_zip_iff {names values : List String} (hlength : values.length = names.length)
    (hnames : ∀ l ∈ names,
      OpenMetrics.isName OpenMetrics.isLabelStart OpenMetrics.isLabelPart l.toList) :
    (∀ l ∈ names.zip values, OpenMetrics.LegibleLabel l) ↔ ∀ v ∈ values, isPlain v.toList := by
  constructor
  · intro h v hv
    rw [← List.map_snd_zip (Nat.le_of_eq hlength)] at hv
    obtain ⟨l, hl, rfl⟩ := List.mem_map.1 hv
    exact (h l hl).2
  · intro h h hl
    obtain ⟨n, v⟩ := h
    obtain ⟨hn, hv⟩ := List.of_mem_zip hl
    exact ⟨hnames n hn, h v hv⟩

/-- A part is legible if the namespace and the values of its labels are. -/
theorem legible_entries_iff {part : Exposed} (h : part.Proper) {space : String}
    (hspace : space ≠ "") :
    (∀ e ∈ part.entries space, e.Legible) ↔
      isMetricName space.toList ∧ ∀ s ∈ part.series, ∀ v ∈ s.1, isPlain v.toList := by
  have hname := isMetricName_fullName hspace h.name_part
  -- help texts and types are always legible, so only the names and the label values matter
  have hhelp : isPlain (part.help ++ ".").toList :=
    OpenMetrics.isPlain_of_all_isHarmless (h.harmless_help.append (.ofList (by decide)))
  have hkind : "gauge".toList ∈ OpenMetrics.kinds := by decide
  have hseries : (∀ e ∈ part.series.map fun s =>
      Entry.sample (fullName (some space) part.name) (part.labels.zip s.1) s.2, e.Legible) ↔
      ∀ s ∈ part.series, isMetricName space.toList ∧ ∀ v ∈ s.1, isPlain v.toList := by
    rw [List.forall_mem_map]
    refine forall₂_congr fun s hs => ?_
    show _ ∧ _ ↔ _
    rw [hname, legible_zip_iff (h.length_values s hs) h.isName_labels]
  unfold entries
  rw [List.forall_mem_cons, List.forall_mem_cons, hseries]
  constructor
  · intro h
    obtain ⟨⟨hlegible, -⟩, -, hvalues⟩ := h
    exact ⟨hname.1 hlegible, fun s hs => (hvalues s hs).2⟩
  · intro h
    obtain ⟨hlegible, hvalues⟩ := h
    refine ⟨⟨hname.2 hlegible, hhelp⟩, ⟨hname.2 hlegible, hkind⟩, fun s hs => ?_⟩
    exact ⟨hlegible, hvalues s hs⟩

/-! ## Samples of a part -/

/-- The label values and the value of each sample of a name. -/
def samplesOf (name : String) (entries : List Entry) : List (List String × Double) :=
  entries.filterMap fun
    | .sample other labels value =>
      if other = name then some (labels.map Prod.snd, value) else none
    | _ => none

theorem samplesOf_append (name : String) (entries entries' : List Entry) :
    samplesOf name (entries ++ entries') = samplesOf name entries ++ samplesOf name entries' :=
  List.filterMap_append

theorem samplesOf_self {part : Exposed} (h : part.Proper) (space : String) :
    samplesOf (fullName (some space) part.name) (part.entries space) = part.series := by
  have hseries : ∀ s ∈ part.series,
      (if fullName (some space) part.name = fullName (some space) part.name then
        some ((part.labels.zip s.1).map Prod.snd, s.2) else none) = some s := by
    intro s hs
    rw [if_pos rfl, List.map_snd_zip (Nat.le_of_eq (h.length_values s hs))]
  show (part.series.map _).filterMap _ = part.series
  rw [List.filterMap_map]
  exact (List.filterMap_congr hseries).trans List.filterMap_some

theorem fullName_injective {space name name' : String}
    (h : fullName (some space) name = fullName (some space) name') : name = name' := by
  have htext : (space ++ "_" ++ name).toList = (space ++ "_" ++ name').toList :=
    congrArg String.toList h
  simp only [String.toList_append] at htext
  exact String.toList_inj.1 (List.append_cancel_left htext)

theorem samplesOf_other {part : Exposed} {name : String} (hname : part.name ≠ name)
    (space : String) : samplesOf (fullName (some space) name) (part.entries space) = [] := by
  apply List.filterMap_eq_nil_iff.2
  intro e he
  rcases List.mem_cons.1 he with rfl | he
  · rfl
  rcases List.mem_cons.1 he with rfl | he
  · rfl
  · obtain ⟨s, -, rfl⟩ := List.mem_map.1 he
    exact if_neg fun h => hname (fullName_injective h)

/-- Each part can be found by its name, if no two have the same. -/
theorem samplesOf_flatMap {parts : List Exposed} (hproper : ∀ part ∈ parts, part.Proper)
    (hnodup : (parts.map name).Nodup) (space : String) {part : Exposed} (hpart : part ∈ parts) :
    samplesOf (fullName (some space) part.name) (parts.flatMap (entries space)) =
      part.series := by
  induction parts with
  | nil => cases hpart
  | cons first parts ih =>
    obtain ⟨hfirst, hrest⟩ := List.forall_mem_cons.1 hproper
    rw [List.map_cons, List.nodup_cons] at hnodup
    rw [List.flatMap_cons, samplesOf_append]
    -- the part is the first one, and no other goes by its name, or it is one of the rest
    rcases List.mem_cons.1 hpart with rfl | hmem
    · have hnone : samplesOf (fullName (some space) part.name) (parts.flatMap (entries space)) =
          [] := by
        unfold samplesOf
        rw [List.filterMap_flatMap, List.flatMap_eq_nil_iff]
        intro other hother
        have hne : other.name ≠ part.name := fun h => hnodup.1 (h ▸ List.mem_map_of_mem hother)
        exact samplesOf_other hne space
      rw [hnone, samplesOf_self hfirst, List.append_nil]
    · have hne : first.name ≠ part.name := fun h => hnodup.1 (h ▸ List.mem_map_of_mem hmem)
      rw [samplesOf_other hne, ih hrest hnodup.2 hmem, List.nil_append]

end Exposed

/-! ## Whole boards -/

namespace Board

variable {b : Board}

theorem nodup_exposed (b : Board) : (b.exposed.map Exposed.name).Nodup := by
  have hnames : b.exposed.map Exposed.name =
      "scrape_error" :: "scrape_duration_seconds" :: Metric.all.map fun m => m.family.name := by
    unfold exposed
    rw [List.map_cons, List.map_cons, List.map_map]
    rfl
  rw [hnames]
  decide +kernel

theorem family_mem_exposed (b : Board) (m : Metric) :
    Exposed.family m.family (b.family m) ∈ b.exposed :=
  List.mem_cons_of_mem _ (List.mem_cons_of_mem _ (List.mem_map_of_mem m.mem_all))

/-- A labelled board is rendered as the text of its entries. -/
theorem toList_render (h : b.Labelled) (space : String) :
    (b.render space).toList = OpenMetrics.text (b.entries space) := by
  have hlines : (b.exposed.flatMap (Exposition.lines (some space))).map String.toList =
      (b.entries space).map Entry.line := by
    have hpart : ∀ part ∈ b.exposed, (Exposition.lines (some space) part).map String.toList =
        (part.entries space).map Entry.line := fun part hpart =>
      Exposed.toList_lines (h.proper part hpart) space
    unfold entries
    rw [List.map_flatMap, List.map_flatMap]
    exact List.flatMap_congr hpart
  have hend : ∀ line : String, (line ++ "\n").toList = line.toList ++ ['\n'] :=
    fun line => String.toList_append
  -- the text is that of the lines, each with a line feed, and the last line
  have htext : (b.render space).toList =
      ((b.exposed.flatMap (Exposition.lines (some space))).map String.toList).flatMap
        (· ++ ['\n']) ++ OpenMetrics.lastLine := by
    have hlast : [Exposition.lastLine].flatMap (fun line => line.toList ++ ['\n']) =
        OpenMetrics.lastLine := rfl
    unfold render Exposition.render
    rw [String.toList_join, List.map_append, List.flatMap_append]
    simp only [List.flatMap_map, hend]
    rw [hlast]
  rw [htext, hlines, List.flatMap_map]
  rfl

/-- The exposition of a board is read as what it is to say if, and only if, the namespace can begin
the name of a metric and every label value stands for itself. -/
theorem read_render_iff (h : b.Labelled) {space : String} (hspace : space ≠ "") :
    OpenMetrics.read (b.render space) = some (b.entries space) ↔
      isMetricName space.toList ∧ b.Plain := by
  rw [OpenMetrics.read_iff_legible (toList_render h space)]
  -- part by part
  have hentries : (∀ e ∈ b.entries space, e.Legible) ↔
      ∀ part ∈ b.exposed, isMetricName space.toList ∧
        ∀ s ∈ part.series, ∀ v ∈ s.1, isPlain v.toList := by
    unfold entries
    rw [List.forall_mem_flatMap]
    exact forall₂_congr fun part hpart => Exposed.legible_entries_iff (h.proper part hpart) hspace
  rw [hentries]
  constructor
  · intro hparts
    refine ⟨(hparts _ List.mem_cons_self).1, fun m => ?_⟩
    exact (hparts _ (b.family_mem_exposed m)).2
  · intro h part hpart
    obtain ⟨hname, hplain⟩ := h
    refine ⟨hname, ?_⟩
    rcases List.mem_cons.1 hpart with rfl | hpart
    · exact List.forall_mem_singleton.2 (List.forall_mem_nil _)
    rcases List.mem_cons.1 hpart with rfl | hpart
    · exact List.forall_mem_singleton.2 (List.forall_mem_nil _)
    · obtain ⟨m, -, rfl⟩ := List.mem_map.1 hpart
      exact hplain m

/-- Boards whose expositions can be read have the same exposition only if they show the same. -/
theorem exposed_of_render_eq {b' : Board} {space : String} (h : b.Labelled) (h' : b'.Labelled)
    (hread : OpenMetrics.read (b.render space) = some (b.entries space))
    (hread' : OpenMetrics.read (b'.render space) = some (b'.entries space))
    (hrender : b.render space = b'.render space) : b.exposed = b'.exposed := by
  have hentries : b.entries space = b'.entries space := by
    rw [hrender, hread'] at hread
    exact (Option.some.inj hread).symm
  -- the parts of the two boards stand in the same order and go by the same names
  have hseries : ∀ {part part' : Exposed}, part ∈ b.exposed → part' ∈ b'.exposed →
      part.name = part'.name → part.series = part'.series := by
    intro part part' hpart hpart' hname
    rw [← Exposed.samplesOf_flatMap h.proper b.nodup_exposed space hpart,
      ← Exposed.samplesOf_flatMap h'.proper b'.nodup_exposed space hpart', hname]
    exact congrArg _ hentries
  have herror : b.scrapeError = b'.scrapeError := by
    have h := hseries List.mem_cons_self List.mem_cons_self rfl
    exact (Prod.mk.inj (List.cons.inj h).1).2
  have hduration : b.scrapeDuration = b'.scrapeDuration := by
    have h := hseries (List.mem_cons_of_mem _ List.mem_cons_self)
      (List.mem_cons_of_mem _ List.mem_cons_self) rfl
    exact (Prod.mk.inj (List.cons.inj h).1).2
  have hfamily : ∀ m : Metric, b.family m = b'.family m := fun m =>
    hseries (b.family_mem_exposed m) (b'.family_mem_exposed m) rfl
  unfold exposed
  rw [herror, hduration, funext hfamily]

end Board

/-! ## Settings and cycles -/

/-- Valid settings have a namespace; what it consists of is not checked. -/
theorem Settings.space_ne_of_check {s : Settings} (h : s.check = .ok ()) : s.scrape.space ≠ "" := by
  intro hspace
  have hempty : s.scrape.space.isEmpty = true := by
    rw [hspace]
    rfl
  unfold check at h
  rw [if_pos hempty] at h
  simp only [bind, Except.bind] at h
  -- every way through the other checks ends in an error
  split at h
  · cases h
  split at h
  · cases h
  split at h
  · cases h
  split at h
  · cases h
  split at h
  · cases h
  · cases h

/-- Under a namespace that the settings allow, the exposition of a board that a scraper can have is
read as the two lines of each part and a line for each series if, and only if, the namespace can
begin the name of a metric and no label value needs escaping. What is read of a part has its name,
its label values and its values. Boards that can be read in this way have different expositions if
they show different things. -/
theorem exposition_read_iff_plain {settings : Settings} (hsettings : settings.check = .ok ())
    {filters : Filters} {b : Board} (hb : b.Shown filters) :
    let space := settings.scrape.space
    (OpenMetrics.read (b.render space) = some (b.entries space) ↔
      isMetricName space.toList ∧ b.Plain) ∧
    (∀ part ∈ b.exposed, Exposed.samplesOf (Exposition.fullName (some space) part.name)
      (b.entries space) = part.series) ∧
    (∀ b' : Board, b'.Shown filters → isMetricName space.toList → b.Plain → b'.Plain →
      b.render space = b'.render space → b.exposed = b'.exposed) := by
  intro space
  have hspace := settings.space_ne_of_check hsettings
  have hread : ∀ b : Board, b.Labelled → (OpenMetrics.read (b.render space) =
      some (b.entries space) ↔ isMetricName space.toList ∧ b.Plain) :=
    fun b hb => b.read_render_iff hb hspace
  refine ⟨hread b hb.labelled, ?_, ?_⟩
  · intro part hpart
    exact Exposed.samplesOf_flatMap hb.labelled.proper b.nodup_exposed space hpart
  · intro b' hb' hname hplain hplain'
    apply Board.exposed_of_render_eq hb.labelled hb'.labelled
    · exact (hread b hb.labelled).2 ⟨hname, hplain⟩
    · exact (hread b' hb'.labelled).2 ⟨hname, hplain'⟩

/-- A cluster whose status has a backslash in it where that means nothing. -/
theorem degraded_cluster_is_read :
    let settings : Settings :=
      ⟨{ Connection.blank with url := "https://m", username := some "u", password := some "p" },
        ⟨60, 30, "0.0.0.0:8080", "/metrics", "nsxt"⟩, .none, ⟨"info", .text⟩⟩
    let status : ClusterStatus := ⟨⟨some "DEGRADED: n1\\down"⟩, ⟨none, [], []⟩⟩
    let b := Board.blank.setAll status.samples
    settings.check = .ok () ∧ b.Shown .none ∧
      OpenMetrics.read (b.render "nsxt") = some (b.entries "nsxt") ∧
      Exposed.samplesOf "nsxt_cluster_control_status" (b.entries "nsxt") =
        [(["DEGRADED: n1\\down"], .zero)] := by
  intro settings status b
  have hcheck : settings.check = .ok () := by decide +kernel
  -- the answer shows the status, so the board is one that can be shown
  have hreaches : Script.Reaches (cycle .none).run [⟨.clusterStatus, .ok status⟩] _ _ :=
    .onward rfl _ (.here _)
  have hshown : b.Shown .none := .setAll hreaches List.mem_cons_self (fun s hs => hs) .blank
  have hvalues : ∀ s ∈ status.samples, ∀ v ∈ s.labels, isPlain v.toList := by decide
  have hplain : b.Plain := by
    intro m h hs v hv
    obtain ⟨labels, value⟩ := h
    exact hvalues _ (Board.mem_of_mem_family_setAll hs) v hv
  obtain ⟨hread, hparts, -⟩ := exposition_read_iff_plain hcheck hshown
  refine ⟨hcheck, hshown, hread.2 ⟨by decide, hplain⟩, ?_⟩
  exact hparts (.family (Metric.cluster .control).family (b.family (.cluster .control)))
    (b.family_mem_exposed _)

/-- Quotation marks in the status of a cluster, a space in the namespace, and two gateways that
share a line. -/
theorem quotation_marks_are_not_read :
    let settings := fun space : String => Settings.mk
      { Connection.blank with url := "https://m", username := some "u", password := some "p" }
      ⟨60, 30, "0.0.0.0:8080", "/metrics", space⟩ .none ⟨"info", .text⟩
    let status : ClusterStatus := ⟨⟨some "DEGRADED: \"n1\" down"⟩, ⟨none, [], []⟩⟩
    let b := Board.blank.setAll status.samples
    ((settings "nsxt").check = .ok () ∧ b.Shown .none ∧
      OpenMetrics.read (b.render "nsxt") ≠ some (b.entries "nsxt")) ∧
    ((settings "nsxt lab").check = .ok () ∧ Board.blank.Shown .none ∧
      OpenMetrics.read (Board.blank.render "nsxt lab") ≠ some (Board.blank.entries "nsxt lab")) ∧
    ∀ value, Exposition.seriesLine "nsxt_tier1_status" ["id", "name"]
        (["a", "b\",name=\"c"], value) =
      Exposition.seriesLine "nsxt_tier1_status" ["id", "name"] (["a\",name=\"b", "c"], value) := by
  intro settings status b
  have hreaches : Script.Reaches (cycle .none).run [⟨.clusterStatus, .ok status⟩] _ _ :=
    .onward rfl _ (.here _)
  have hshown : b.Shown .none := .setAll hreaches List.mem_cons_self (fun s hs => hs) .blank
  refine ⟨⟨by decide +kernel, hshown, ?_⟩, ⟨by decide +kernel, .blank, ?_⟩, ?_⟩
  -- reading would need plain values, or a namespace that is a name
  · intro hread
    obtain ⟨-, hplain⟩ := (b.read_render_iff hshown.labelled (by decide)).1 hread
    have hstatus := hplain (.cluster .control) _ List.mem_cons_self _ List.mem_cons_self
    exact absurd hstatus (by decide)
  · intro hread
    have hblank : Board.blank.Labelled := List.forall_mem_nil _
    obtain ⟨hname, -⟩ := (Board.blank.read_render_iff hblank (by decide)).1 hread
    exact absurd hname (by decide)
  · intro value
    have hlabels : Exposition.labelSet ["id", "name"] ["a", "b\",name=\"c"] =
        Exposition.labelSet ["id", "name"] ["a\",name=\"b", "c"] := by decide
    unfold Exposition.seriesLine
    rw [hlabels]

end FabricGauges
