import SysExporter.Proofs.Metric.Families
import SysExporter.Proofs.Metric.Lines

namespace SysExporter.Metric

open SysExporter.Text

-- A line of a sample is neither empty nor a comment.
def isSample (line : List Char) : Bool :=
  line.head?.any (· != '#')

-- The keyword of a header and the name that it is about.
def readHeader : List Char → Option (String × String)
  | '#' :: ' ' :: rest =>
    match rest.dropWhile (· != ' ') with
    | ' ' :: name =>
      some (.ofList (rest.takeWhile (· != ' ')), .ofList (name.takeWhile (· != ' ')))
    | _ => none
  | _ => none

-- What stands before the last blank of a line: the name and the labels as they are
-- written.
def seriesText (line : List Char) : List Char :=
  (line.reverse.dropWhile (· != ' ')).tail.reverse

-- The name and the labels that a line of a sample is read to.
def readSeries (line : List Char) : Option (String × List (String × String)) :=
  (readSample line).map fun sample => (sample.name, sample.labels)

-- The family whose samples may follow a line.
def familyBelow (above : Option String) (line : List Char) : Option String :=
  match readHeader line with
  | some ("TYPE", name) => some name
  | some _ => none
  | none => above

-- Every sample is one of the family whose type was declared last.
def Grouped : Option String → List (List Char) → Prop
  | _, [] => True
  | above, line :: rest =>
    (isSample line = true → (readSeries line).map Prod.fst = above) ∧
      Grouped (familyBelow above line) rest

theorem grouped_append {above : Option String} {lines rest : List (List Char)}
    (hlines : ∀ line ∈ lines, (readSeries line).map Prod.fst = above ∧ readHeader line = none)
    (hrest : Grouped above rest) : Grouped above (lines ++ rest) := by
  induction lines with
  | nil => exact hrest
  | cons line lines ih =>
    obtain ⟨hname, hnone⟩ := hlines line List.mem_cons_self
    refine ⟨fun _ => hname, ?_⟩
    rw [familyBelow, hnone]
    exact ih fun other hother => hlines other (List.mem_cons_of_mem _ hother)

-- A descriptor whose lines can be told apart.
structure Descriptor.Plain (d : Descriptor) : Prop where
  named : d.name ≠ ""
  name : ∀ c ∈ d.name.toList, endsName c = false ∧ c ≠ '\n' ∧ c ≠ '#'
  labels : ∀ label ∈ d.labels, '=' ∉ label.toList ∧ '\n' ∉ label.toList
  help : d.help ≠ ""
  kind : d.kind ≠ .untyped

-- As a check.
def Descriptor.isPlain (d : Descriptor) : Bool :=
  d.name != "" && d.name.toList.all (fun c => !endsName c && c != '\n' && c != '#') &&
    d.labels.all (fun label => label.toList.all fun c => c != '=' && c != '\n') && d.help != "" &&
    d.kind != .untyped

theorem Descriptor.plain_of_isPlain {d : Descriptor} (h : d.isPlain = true) : d.Plain := by
  simp only [isPlain, Bool.and_eq_true, bne_iff_ne, List.all_eq_true, Bool.not_eq_true',
    and_assoc] at h
  obtain ⟨named, name, labels, help, kind⟩ := h
  refine ⟨named, name, fun label hlabel => ⟨fun hc => ?_, fun hc => ?_⟩, help, kind⟩
  · exact (labels label hlabel '=' hc).1 rfl
  · exact (labels label hlabel '\n' hc).2 rfl

-- So are the lines of a family.
structure Family.Plain (family : Family) : Prop where
  named : family.name ≠ ""
  name : ∀ c ∈ family.name.toList, endsName c = false ∧ c ≠ '\n' ∧ c ≠ '#'
  labels : ∀ sample ∈ family.samples, ∀ label ∈ sample.labels,
    '=' ∉ label.1.toList ∧ '\n' ∉ label.1.toList
  help : family.help ≠ ""
  kind : family.kind ≠ .untyped

theorem plain_of_mem_families {observations : List Observation}
    (plain : ∀ o ∈ observations, o.descriptor.Plain) {family : Family}
    (h : family ∈ families observations) : family.Plain := by
  obtain ⟨o, later, rfl, ho, hlater⟩ := exists_of_mem_families h
  have hfirst := plain o ho
  constructor
  case named => exact hfirst.named
  case name => exact hfirst.name
  case labels =>
    intro sample hsample label hlabel
    obtain ⟨next, hnext, rfl⟩ := List.mem_map.mp hsample
    have hplain : next.descriptor.Plain := by
      rcases List.mem_cons.mp hnext with rfl | hnext
      · exact hfirst
      · exact plain next (hlater next hnext).1
    exact hplain.labels label.1 (List.of_mem_zip hlabel).1
  case help => exact hfirst.help
  case kind => exact hfirst.kind

theorem readHeader_header {word name : List Char} (hword : ' ' ∉ word) (hname : ' ' ∉ name)
    (rest : List Char) :
    readHeader ('#' :: ' ' :: (word ++ ' ' :: (name ++ ' ' :: rest))) =
      some (.ofList word, .ofList name) := by
  have hplain {text : List Char} (h : ' ' ∉ text) : ∀ c ∈ text, (c != ' ') = true := by
    intro c hc
    exact bne_iff_ne.mpr fun heq => h (heq ▸ hc)
  have hend : (' ' != ' ') = false := by decide
  simp only [readHeader, dropWhile_append_cons (hplain hword) hend,
    takeWhile_append_cons (hplain hword) hend, takeWhile_append_cons (hplain hname) hend]

theorem toList_help : "# HELP ".toList = '#' :: ' ' :: (['H', 'E', 'L', 'P'] ++ [' ']) := by
  decide

theorem toList_type : "# TYPE ".toList = '#' :: ' ' :: (['T', 'Y', 'P', 'E'] ++ [' ']) := by
  decide

theorem readHeader_helpText {name : List Char} (h : ' ' ∉ name) (help : List Char) :
    readHeader (helpText name help) = some ("HELP", .ofList name) := by
  have hword : ' ' ∉ ['H', 'E', 'L', 'P'] := by decide
  unfold helpText
  rw [toList_help]
  simpa using readHeader_header hword h (escapeHelp help)

theorem readHeader_typeText {name : List Char} (h : ' ' ∉ name) (kind : ValueType) :
    readHeader (typeText name kind) = some ("TYPE", .ofList name) := by
  have hword : ' ' ∉ ['T', 'Y', 'P', 'E'] := by decide
  unfold typeText
  rw [toList_type]
  simpa using readHeader_header hword h kind.name.toList

theorem isSample_helpText (name help : List Char) : isSample (helpText name help) = false := by
  unfold helpText
  rw [toList_help]
  rfl

theorem isSample_typeText (name : List Char) (kind : ValueType) :
    isSample (typeText name kind) = false := by
  unfold typeText
  rw [toList_type]
  rfl

theorem seriesText_sampleText (name : List Char) (labels : List (String × String))
    (value : Binary64) : seriesText (sampleText name labels value) = name ++ labelsText labels := by
  have hvalue : ∀ c ∈ value.text.reverse, (c != ' ') = true := by
    intro c hc
    exact bne_iff_ne.mpr fun heq => value.blank_not_mem_text (heq ▸ List.mem_reverse.mp hc)
  have htext : (sampleText name labels value).reverse =
      value.text.reverse ++ ' ' :: (name ++ labelsText labels).reverse := by
    simp [sampleText]
  rw [seriesText, htext, dropWhile_append_cons hvalue (by decide), List.tail_cons,
    List.reverse_reverse]

-- The name and the labels of a series as they are written.
def written (series : String × List (String × String)) : List Char :=
  series.1.toList ++ labelsText series.2

-- Whatever the label values hold, escaping keeps series apart.
theorem written_injective {one other : String × List (String × String)}
    (hone : ∀ c ∈ one.1.toList, endsName c = false)
    (hother : ∀ c ∈ other.1.toList, endsName c = false)
    (hlabels : ∀ label ∈ one.2, '=' ∉ label.1.toList)
    (hlabels' : ∀ label ∈ other.2, '=' ∉ label.1.toList) (h : written one = written other) :
    one = other := by
  have hread := readSample_sampleText hone hlabels .zero
  have hread' := readSample_sampleText hother hlabels' .zero
  have htext : sampleText one.1.toList one.2 .zero = sampleText other.1.toList other.2 .zero :=
    congrArg (· ++ ' ' :: Binary64.zero.text) h
  rw [htext, hread'] at hread
  have hsample := Option.some.inj hread
  exact (Prod.ext (congrArg SampleText.name hsample) (congrArg SampleText.labels hsample)).symm

namespace Family

-- The lines of the samples.
def sampleTexts (family : Family) : List (List Char) :=
  family.samples.map fun sample =>
    sampleText family.name.toList sample.labels (family.shown sample)

-- The headers are the only lines of a family that begin as a comment does.
theorem filter_lines_of_isSample {family : Family}
    (h : ∀ line ∈ family.sampleTexts, isSample line = true) :
    family.lines.filter isSample = family.sampleTexts := by
  have hheader : ∀ line ∈ (if family.help = "" then []
      else [helpText family.name.toList family.help.toList]), ¬isSample line = true := by
    intro line hline
    split at hline
    · simp at hline
    · rw [List.mem_singleton.mp hline, isSample_helpText]
      exact Bool.false_ne_true
  rw [lines, List.filter_append, List.filter_eq_nil_iff.mpr hheader, List.nil_append,
    List.filter_cons_of_neg (by simp [isSample_typeText])]
  exact List.filter_eq_self.mpr h

namespace Plain

variable {family : Family} (h : family.Plain)
include h

theorem check : family.check = .ok () :=
  (if_neg h.named).trans (if_neg h.kind)

theorem oneLine : family.OneLine where
  name hmem := (h.name _ hmem).2.1 rfl
  labels sample hsample label hlabel := (h.labels sample hsample label hlabel).2

theorem lines_eq :
    family.lines = helpText family.name.toList family.help.toList ::
      typeText family.name.toList family.kind :: family.sampleTexts := by
  rw [lines, if_neg h.help]
  rfl

theorem blank_not_mem_name : ' ' ∉ family.name.toList :=
  fun hmem => absurd (h.name ' ' hmem).1 (by decide)

-- A sample line begins with the name, and no name begins with the sign of a comment.
theorem exists_name : ∃ c rest, family.name.toList = c :: rest ∧ c ≠ '#' := by
  cases hname : family.name.toList with
  | nil => exact absurd (String.toList_eq_nil_iff.mp hname) h.named
  | cons c rest => exact ⟨c, rest, rfl, (h.name c (hname ▸ List.mem_cons_self)).2.2⟩

theorem isSample_sampleText (labels : List (String × String)) (value : Binary64) :
    isSample (sampleText family.name.toList labels value) = true := by
  obtain ⟨c, rest, hname, hc⟩ := h.exists_name
  simp [isSample, sampleText, hname, hc]

theorem readHeader_sampleText (labels : List (String × String)) (value : Binary64) :
    readHeader (sampleText family.name.toList labels value) = none := by
  obtain ⟨c, rest, hname, hc⟩ := h.exists_name
  simp [readHeader, sampleText, hname, hc]

theorem readSeries_sampleText {sample : Sample} (hsample : sample ∈ family.samples)
    (value : Binary64) :
    readSeries (sampleText family.name.toList sample.labels value) =
      some (family.name, sample.labels) := by
  have hname : ∀ c ∈ family.name.toList, endsName c = false := fun c hc => (h.name c hc).1
  have hlabels : ∀ label ∈ sample.labels, '=' ∉ label.1.toList :=
    fun label hlabel => (h.labels sample hsample label hlabel).1
  rw [readSeries, readSample_sampleText hname hlabels]
  rfl

theorem filter_lines : family.lines.filter isSample = family.sampleTexts := by
  refine filter_lines_of_isSample fun line hline => ?_
  obtain ⟨sample, -, rfl⟩ := List.mem_map.mp hline
  exact h.isSample_sampleText _ _

theorem filterMap_lines :
    family.lines.filterMap readHeader = [("HELP", family.name), ("TYPE", family.name)] := by
  have hnone : family.sampleTexts.filterMap readHeader = [] := by
    refine List.filterMap_eq_nil_iff.mpr fun line hline => ?_
    obtain ⟨sample, -, rfl⟩ := List.mem_map.mp hline
    exact h.readHeader_sampleText _ _
  have hblank := h.blank_not_mem_name
  rw [h.lines_eq, List.filterMap_cons_some (readHeader_helpText hblank _),
    List.filterMap_cons_some (readHeader_typeText hblank _), hnone, String.ofList_toList]

theorem map_readSeries_sampleTexts :
    family.sampleTexts.map readSeries = family.series.map some := by
  rw [sampleTexts, series, List.map_map, List.map_map]
  exact List.map_congr_left fun sample hsample => h.readSeries_sampleText hsample _

omit h in
theorem map_seriesText_sampleTexts :
    family.sampleTexts.map seriesText = family.series.map written := by
  rw [sampleTexts, series, List.map_map, List.map_map]
  exact List.map_congr_left fun sample _ => seriesText_sampleText _ _ _

-- The headers of a family come right before its samples.
theorem grouped_lines {rest : List (List Char)} (hrest : Grouped (some family.name) rest)
    (above : Option String) : Grouped above (family.lines ++ rest) := by
  have hblank := h.blank_not_mem_name
  have hsamples : ∀ line ∈ family.sampleTexts,
      (readSeries line).map Prod.fst = some family.name ∧ readHeader line = none := by
    intro line hline
    obtain ⟨sample, hsample, rfl⟩ := List.mem_map.mp hline
    exact ⟨by rw [h.readSeries_sampleText hsample]; rfl, h.readHeader_sampleText _ _⟩
  have hbelow : familyBelow (familyBelow above (helpText family.name.toList family.help.toList))
      (typeText family.name.toList family.kind) = some family.name := by
    rw [familyBelow, readHeader_typeText hblank, String.ofList_toList]
    rfl
  rw [h.lines_eq]
  refine ⟨by simp [isSample_helpText], by simp [isSample_typeText], ?_⟩
  rw [hbelow]
  exact grouped_append hsamples hrest

end Plain

end Family

-- What the lines of families with different names tell.
structure Exposed (grouped : List Family) (lines : List (List Char)) : Prop where
  read : (lines.filter isSample).map readSeries = (grouped.flatMap Family.series).map some
  written : (lines.filter isSample).map seriesText = (grouped.flatMap Family.series).map written
  headers : lines.filterMap readHeader =
    (grouped.map Family.name).flatMap fun name => [("HELP", name), ("TYPE", name)]
  inOrder : ∀ above, Grouped above lines

theorem exposed {grouped : List Family} (plain : ∀ family ∈ grouped, family.Plain) :
    Exposed grouped (grouped.flatMap Family.lines ++ [[]]) := by
  induction grouped with
  | nil => exact ⟨rfl, rfl, rfl, fun _ => ⟨by simp [isSample], trivial⟩⟩
  | cons family rest ih =>
    have hfamily := plain family List.mem_cons_self
    have hrest := ih fun other hother => plain other (List.mem_cons_of_mem _ hother)
    constructor
    case read =>
      rw [List.flatMap_cons, List.append_assoc, List.filter_append, List.map_append, hrest.read,
        hfamily.filter_lines, hfamily.map_readSeries_sampleTexts, List.flatMap_cons,
        List.map_append]
    case written =>
      rw [List.flatMap_cons, List.append_assoc, List.filter_append, List.map_append,
        hrest.written, hfamily.filter_lines, Family.Plain.map_seriesText_sampleTexts,
        List.flatMap_cons, List.map_append]
    case headers =>
      rw [List.flatMap_cons, List.append_assoc, List.filterMap_append, hrest.headers,
        hfamily.filterMap_lines]
      rfl
    case inOrder =>
      intro above
      rw [List.flatMap_cons, List.append_assoc]
      exact hfamily.grouped_lines (hrest.inOrder _) above

theorem series_plain {observations : List Observation}
    (plain : ∀ o ∈ observations, o.descriptor.Plain) {series : String × List (String × String)}
    (h : series ∈ observations.map Observation.series) :
    (∀ c ∈ series.1.toList, endsName c = false) ∧ ∀ label ∈ series.2, '=' ∉ label.1.toList := by
  obtain ⟨o, ho, rfl⟩ := List.mem_map.mp h
  have hplain := plain o ho
  exact ⟨fun c hc => (hplain.name c hc).1,
    fun label hlabel => (hplain.labels label.1 (List.of_mem_zip hlabel).1).1⟩

-- A text shows every series that was observed, once for each observation, under the
-- two headers of its family, which are there once. Different series stay different
-- as they are written and as they are read.
theorem render_series {observations : List Observation}
    (plain : ∀ o ∈ observations, o.descriptor.Plain) :
    ∃ text, render observations = .ok text ∧
      let lines := text.toList.splitOn '\n'
      let samples := lines.filter isSample
      (samples.map readSeries).Perm ((observations.map Observation.series).map some) ∧
      ((observations.map Observation.series).Nodup →
        (samples.map readSeries).Nodup ∧ (samples.map seriesText).Nodup) ∧
      (∃ names : List String, names.Nodup ∧
        (∀ name, name ∈ names ↔ ∃ o ∈ observations, o.descriptor.name = name) ∧
        lines.filterMap readHeader =
          names.flatMap fun name => [("HELP", name), ("TYPE", name)]) ∧
      Grouped none lines := by
  have hfamilies : ∀ family ∈ families observations, family.Plain :=
    fun family => plain_of_mem_families plain
  obtain ⟨text, hrender, hsplit⟩ := render_lines
    (fun family hfamily => (hfamilies family hfamily).check)
    (fun family hfamily => (hfamilies family hfamily).oneLine)
  have hexposed := exposed hfamilies
  have hperm := series_families_perm observations
  refine ⟨text, hrender, ?_⟩
  rw [hsplit]
  refine ⟨hexposed.read ▸ hperm.map some, fun hdistinct => ⟨?_, ?_⟩,
    ⟨(families observations).map Family.name, nodup_names_families observations,
      fun name => mem_names_families, hexposed.headers⟩, hexposed.inOrder none⟩
  · rw [hexposed.read]
    exact (hperm.nodup_iff.mpr hdistinct).map fun _ _ => Option.some.inj
  · rw [hexposed.written]
    refine (hperm.nodup_iff.mpr hdistinct).map_on fun one hone other hother heq => ?_
    obtain ⟨hname, hlabels⟩ := series_plain plain (hperm.mem_iff.mp hone)
    obtain ⟨hname', hlabels'⟩ := series_plain plain (hperm.mem_iff.mp hother)
    exact written_injective hname hname' hlabels hlabels' heq

end SysExporter.Metric
