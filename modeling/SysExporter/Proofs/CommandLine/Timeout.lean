import SysExporter.CommandLine.Arguments
import SysExporter.Proofs.Config.Timeout

namespace SysExporter.CommandLine

open Text

namespace Progress

-- What has been read, and what it comes to once its last value is looked at.
variable {given : Variables} {p q : Progress}

theorem settle_cases (h : p.settle = .ok q) :
    (p.pending = none ∧ q = p) ∨
      ∃ o value a, p.pending = some (o, some value) ∧ p.arguments.give o value = .ok a ∧
        q = { p with arguments := a, pending := none } := by
  unfold settle at h
  split at h
  · next hpending => exact .inl ⟨hpending, (Except.ok.inj h).symm⟩
  · cases h
  · next o value hpending =>
    obtain ⟨a, hgive, hq⟩ := bind_eq_ok_iff.mp h
    exact .inr ⟨o, value, a, hpending, hgive, (Except.ok.inj hq).symm⟩

theorem settle_settle (h : p.settle = .ok q) : q.settle = .ok q := by
  obtain ⟨hpending, rfl⟩ | ⟨o, value, a, -, -, rfl⟩ := settle_cases h
  · exact h
  · rfl

theorem isOver_settle (h : p.settle = .ok q) : q.isOver = p.isOver := by
  obtain ⟨-, rfl⟩ | ⟨o, value, a, -, -, rfl⟩ := settle_cases h <;> rfl

theorem pending_settle (h : p.settle = .ok q) : q.pending = none := by
  obtain ⟨hpending, rfl⟩ | ⟨o, value, a, -, -, rfl⟩ := settle_cases h
  · exact hpending
  · rfl

theorem readValue_settle (h : p.settle = .ok q) (text : String) :
    q.readValue text = p.readValue text := by
  obtain ⟨-, rfl⟩ | ⟨o, value, a, hpending, -, rfl⟩ := settle_cases h
  · rfl
  · simp only [readValue, hpending]

theorem turnOn_settle (h : p.settle = .ok q) (s : Switch) : q.turnOn s = p.turnOn s := by
  simp only [turnOn, h, settle_settle h]

theorem begin_settle (h : p.settle = .ok q) (o : ValueOption) (value : Option String) :
    q.begin o value = p.begin o value := by
  simp only [begin, h, settle_settle h]

theorem readLong_settle (h : p.settle = .ok q) (name : String) (value : Option String) :
    q.readLong name value = p.readLong name value := by
  simp only [readLong, begin_settle h, turnOn_settle h]

theorem readShorts_settle (h : p.settle = .ok q) (c : Char) (rest : List Char) :
    q.readShorts (c :: rest) = p.readShorts (c :: rest) := by
  simp only [readShorts, begin_settle h, turnOn_settle h]

theorem over_settle (h : p.settle = .ok q) :
    settle { p with isOver := true } = .ok { q with isOver := true } := by
  obtain ⟨hpending, rfl⟩ | ⟨o, value, a, hpending, hgive, rfl⟩ := settle_cases h
  · simp only [settle, hpending]
  · simp only [settle, hpending, hgive]
    rfl

-- Only two hyphens alone do not look at the value that comes before.
theorem read_settle (h : p.settle = .ok q) {text : String} (htext : text.toList ≠ ['-', '-']) :
    q.read text = p.read text := by
  rw [read, read, isOver_settle h]
  simp only [readLong_settle h, readShorts_settle h, readValue_settle h]
  split
  · rfl
  · split
    · next heq => exact absurd heq htext
    all_goals rfl

-- It does not matter when a value is looked at, as long as it is a good one.
theorem readAll_settle (h : p.settle = .ok q) (texts : List String) :
    readAll given texts q = readAll given texts p := by
  induction texts generalizing p q with
  | nil => simp only [readAll, finish, h, settle_settle h]
  | cons text rest ih =>
    by_cases htext : text.toList = ['-', '-']
    · simp only [readAll, read, isOver_settle h, htext]
      split
      · rfl
      · exact ih (over_settle h)
    · simp only [readAll, read_settle h htext]

theorem read_timeout (hover : p.isOver = false) :
    p.read "--timeout" = p.begin .timeout none := by
  rw [read, hover]
  rfl

theorem read_timeout_attached (hover : p.isOver = false) (value : String) :
    p.read ("--timeout=" ++ value) = p.begin .timeout (some value) := by
  have htext : ("--timeout=" ++ value).toList = "--timeout=".toList ++ value.toList :=
    String.toList_append
  rw [read, hover, htext]
  change p.begin .timeout (some (String.ofList value.toList)) = _
  rw [String.ofList_toList]

theorem read_value (hover : p.isOver = false) {text : String}
    (htext : text.toList.head? ≠ some '-') : p.read text = p.readValue text := by
  rw [read, hover]
  cases hchars : text.toList with
  | nil => rfl
  | cons c rest =>
    have hc : c ≠ '-' := by simpa [hchars] using htext
    simp [hc]

-- A deadline that comes after good options, be it on its own or attached.
theorem readAll_timeout {d : Duration} {text : String} (hover : p.isOver = false)
    (hsettle : p.settle = .ok q) (hnew : q.arguments.timeout = none)
    (htext : text.toList.head? ≠ some '-') (hread : Duration.parseTimeout text = .ok d)
    (rest : List String) :
    let told := { q with arguments := { q.arguments with timeout := some d } }
    readAll given ("--timeout" :: text :: rest) p = readAll given rest told ∧
      readAll given (("--timeout=" ++ text) :: rest) p = readAll given rest told := by
  intro told
  have hgive : q.arguments.give .timeout text =
      .ok { q.arguments with timeout := some d } := by
    simp only [Arguments.give, Arguments.has, hnew, Arguments.set, Arguments.readTimeout, hread]
    rfl
  have hqover : q.isOver = false := by rw [isOver_settle hsettle, hover]
  constructor
  · let waiting := { q with pending := some (.timeout, none) }
    let filled := { q with pending := some (.timeout, some text) }
    have hname : p.begin .timeout none = .ok (.more waiting) := by
      rw [begin, hsettle]
      rfl
    have hvalue : waiting.read text = .ok (.more filled) :=
      read_value (p := waiting) hqover htext
    have htold : filled.settle = .ok told := by
      simp only [filled, told, settle, hgive, pending_settle hsettle]
      rfl
    calc readAll _ ("--timeout" :: text :: rest) p = readAll _ (text :: rest) waiting := by
          rw [readAll, read_timeout hover, hname]
          rfl
      _ = readAll _ rest filled := by
          rw [readAll, hvalue]
          rfl
      _ = readAll _ rest told := (readAll_settle htold rest).symm
  · have hmore : p.begin .timeout (some text) = .ok (.more told) := by
      simp only [begin, hsettle, bind, Except.bind, hgive]
      rfl
    rw [readAll, read_timeout_attached hover, hmore]
    rfl

end Progress

-- A printed deadline is no option, even with blanks around it.
theorem head?_padding_ne {d : Duration} (h : d ≠ .zero) {before : List Char}
    (hbefore : ∀ c ∈ before, isBlank c = true) (after : List Char) :
    (before ++ d.toText.toList ++ after).head? ≠ some '-' := by
  cases before with
  | nil =>
    obtain ⟨words, c, rest, -, htext, hc, hfirst⟩ := Duration.exists_words h
    rw [htext, hfirst]
    rintro ⟨⟩
    exact absurd hc (by decide)
  | cons c rest =>
    rintro ⟨⟩
    exact absurd (hbefore '-' List.mem_cons_self) (by decide)

-- A deadline is printed so that it is read again: with blanks around it, as an
-- argument after others, and in a file. What is read is never zero.
theorem timeout_restored {d : Duration} (h : d ≠ .zero) {before after : List Char}
    (hbefore : ∀ c ∈ before, isBlank c = true) (hafter : ∀ c ∈ after, isBlank c = true) :
    let text := String.ofList (before ++ d.toText.toList ++ after)
    Duration.parseTimeout text = .ok d ∧
    (∀ (given : Variables) (p q : Progress) (rest : List String),
      p.isOver = false → p.settle = .ok q → q.arguments.timeout = none →
      let told := { q with arguments := { q.arguments with timeout := some d } }
      p.readAll given ("--timeout" :: text :: rest) = told.readAll given rest ∧
      p.readAll given (("--timeout=" ++ text) :: rest) = told.readAll given rest) ∧
    (∀ (s : Config.Spot) p style, s.node = .scalar p d.toText.toList style →
      s.duration = .ok d) ∧
    (∀ env, Config.Settings.load env
        (some (encodeUtf8 ("scrape:\n  timeout: " ++ d.toText ++ "\n").toList)) =
      .ok { Config.Settings.default with
        cycle := { Config.Cycle.default with timeout := d } }) ∧
    ∀ other read, Duration.parseTimeout other = .ok read → read ≠ .zero := by
  intro text
  have hread : Duration.parseTimeout text = .ok d := Duration.parseTimeout_padding h hbefore hafter
  have hfirst : text.toList.head? ≠ some '-' := by
    rw [String.toList_ofList]
    exact head?_padding_ne h hbefore after
  refine ⟨hread, fun given p q rest hover hsettle hnew => ?_, fun s p style hnode => ?_,
    fun env => Config.Settings.load_timeout env h,
    fun other read => Duration.ne_zero_of_parseTimeout⟩
  · exact Progress.readAll_timeout hover hsettle hnew hfirst hread rest
  · exact Config.Spot.duration_of_scalar hnode d.parse_toText

-- The longest deadline there is, after an option that waits to be looked at.
theorem timeout_restored_longest :
    let d : Duration := ⟨18446744073709551615, 999999999, by decide, by decide⟩
    let text := "\u3000\t584542046090years 7months 15days 17h 5m 3s 999ms 999us 999ns\u00A0\n"
    Duration.parseTimeout text = .ok d ∧
    Request.parse (fun _ => none) ["--scraper", "a", "--timeout", text, "--list"] =
      .ok (.run ⟨none, none, some d, ["a"], true⟩) := by
  intro d text
  have hbefore : ∀ c ∈ ['\u3000', '\t'], isBlank c = true := List.all_eq_true.mp rfl
  have hafter : ∀ c ∈ ['\u00A0', '\n'], isBlank c = true := List.all_eq_true.mp rfl
  have htext : String.ofList (['\u3000', '\t'] ++ d.toText.toList ++ ['\u00A0', '\n']) = text := by
    decide +kernel
  obtain ⟨hread, hgiven, -⟩ := timeout_restored (d := d) (by decide) hbefore hafter
  rw [htext] at hread hgiven
  refine ⟨hread, ?_⟩
  let before : Progress := ⟨.empty, some (.scraper, some "a"), false⟩
  let settled : Progress := ⟨{ Arguments.empty with scrapers := ["a"] }, none, false⟩
  exact (hgiven _ before settled ["--list"] rfl rfl rfl).1

end SysExporter.CommandLine
