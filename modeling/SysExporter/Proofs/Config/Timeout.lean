import SysExporter.Proofs.Config.Expansion
import SysExporter.Proofs.Config.Validation
import SysExporter.Proofs.Duration.RoundTrip
import SysExporter.Proofs.Text.Utf8
import SysExporter.Proofs.Yaml.Lexer

namespace SysExporter

namespace Yaml

namespace Lex

-- The tokens of a text with one section that has one key, up to the value.
def opening : Array Token :=
  #[⟨.blockMappingStart, .start, .start⟩, ⟨.key, .start, .start⟩,
    ⟨.scalar "scrape".toList .plain, .start, ⟨6, 0, 6⟩⟩, ⟨.value, ⟨6, 0, 6⟩, ⟨7, 0, 7⟩⟩,
    ⟨.blockMappingStart, ⟨10, 1, 2⟩, ⟨10, 1, 2⟩⟩, ⟨.key, ⟨10, 1, 2⟩, ⟨10, 1, 2⟩⟩,
    ⟨.scalar "timeout".toList .plain, ⟨10, 1, 2⟩, ⟨17, 1, 9⟩⟩,
    ⟨.value, ⟨17, 1, 9⟩, ⟨18, 1, 10⟩⟩]

theorem readAll_opening (fuel : Nat) (rest : List Char) :
    readAll (fuel + 4) (.ofText ("scrape:\n  timeout: ".toList ++ rest)) =
      readAll fuel
        ⟨⟨⟨18, 1, 10⟩, ' ' :: rest⟩, opening, some 2, [some 0, none], false, none, []⟩ := by
  have hsection : KeyWord "scrape".toList := ⟨by decide, List.all_eq_true.mp rfl, by decide⟩
  have hfield : KeyWord "timeout".toList := ⟨by decide, List.all_eq_true.mp rfl, by decide⟩
  -- the line of the field stays closed while the section is read
  obtain ⟨line, hline⟩ : ∃ line,
      line = List.replicate 2 ' ' ++ ("timeout".toList ++ ':' :: ' ' :: rest) := ⟨_, rfl⟩
  have htext : "scrape:\n  timeout: ".toList ++ rest = "scrape".toList ++ ':' :: '\n' :: line := by
    rw [hline]
    rfl
  have hbegin (fuel : Nat) :
      (skipBlanks (fuel + 1)).run.run (.ofText ("scrape".toList ++ ':' :: '\n' :: line)) =
        (.ok (), .ofText ("scrape".toList ++ ':' :: '\n' :: line)) :=
    skipBlanks_visible (visible_of_isAlphanum rfl) 0 fuel rfl
  have hgap (fuel : Nat) (tokens : Array Token) :
      (skipBlanks (fuel + 2)).run.run
          ⟨⟨⟨7, 0, 7⟩, '\n' :: line⟩, tokens, some 0, [none], false, none, []⟩ =
        (.ok (), ⟨⟨⟨10, 1, 2⟩, "timeout".toList ++ ':' :: ' ' :: rest⟩, tokens, some 0, [none],
          true, none, []⟩) :=
    skipBlanks_line (visible_of_isAlphanum rfl) 2 fuel rfl (congrArg _ hline)
  rw [htext]
  refine (readAll_key (.ofText ("scrape".toList ++ ':' :: '\n' :: line)) hsection rfl (by simp)
    (hbegin _) (fuel + 2)).trans ?_
  exact readAll_key ⟨⟨⟨7, 0, 7⟩, '\n' :: line⟩, _, some 0, [none], false, none, []⟩ hfield rfl
    (by simp) (hgap _ _) fuel

theorem readAll_closing (fuel : Nat) (mark : Mark) (tokens : Array Token) :
    readAll (fuel + 1) ⟨⟨mark.down 1, []⟩, tokens, some 2, [some 0, none], true, none, []⟩ =
      ⟨((tokens.push ⟨.blockEnd, mark.down 1, mark.down 1⟩).push
        ⟨.blockEnd, mark.down 1, mark.down 1⟩).toList, .ok (mark.down 1)⟩ := rfl

end Lex

-- The document of a text with one section that has one key.
def Document.ofTimeout (text : List Char) : Document where
  root := .mapping ⟨.start, none, none⟩
    [(.scalar ⟨.start, none, none⟩ "scrape".toList .plain,
      .mapping ⟨⟨10, 1, 2⟩, none, none⟩
        [(.scalar ⟨⟨10, 1, 2⟩, none, none⟩ "timeout".toList .plain,
          .scalar ⟨⟨19, 1, 11⟩, none, none⟩ text .plain)])]
  fault := none
  isOnly := true

section

variable {words : List (List Char)} {c : Char} {rest : List Char}

theorem TokenStream.ofText_timeout (h : Words words) (hc : c.isDigit = true)
    (hfirst : [' '].intercalate words = c :: rest) :
    ∃ stop, TokenStream.ofText
        ("scrape:\n  timeout: ".toList ++ ([' '].intercalate words ++ ['\n'])) =
      ⟨Lex.opening.toList ++ [⟨.scalar ([' '].intercalate words) .plain, ⟨19, 1, 11⟩, stop⟩,
        ⟨.blockEnd, stop, stop⟩, ⟨.blockEnd, stop, stop⟩], .ok stop⟩ := by
  have hbefore : ∀ c ∈ "scrape:\n  timeout: ".toList, isTextChar c = true :=
    List.all_eq_true.mp rfl
  have hafter : ∀ c ∈ ['\n'], isTextChar c = true :=
    List.all_eq_true.mp rfl
  have hall := List.forall_mem_append.mpr
    ⟨hbefore, List.forall_mem_append.mpr ⟨h.isTextChar_of_mem, hafter⟩⟩
  have hlength : ("scrape:\n  timeout: ".toList ++ ([' '].intercalate words ++ ['\n'])).length + 1 =
      rest.length + 16 + 6 := by
    rw [hfirst]
    simp
  have hhead : (("scrape:\n  timeout: ".toList ++ ([' '].intercalate words ++ ['\n'])).head? ==
      some '\uFEFF') = false := rfl
  have hcolumn : 2 < Mark.column (Mark.right ⟨18, 1, 10⟩ 1) := by decide
  have halphanum : c.isAlphanum = true := by simp [Char.isAlphanum, hc]
  have hstep := Lex.step_plain halphanum hcolumn (rest ++ ['\n']) Lex.opening [some 0, none]
  rw [← List.cons_append, ← hfirst,
    Lex.run_bind (Lex.lexPlain_line h hcolumn Lex.opening [some 0, none])] at hstep
  rw [TokenStream.ofText, badOffset?_eq_none hall]
  simp only [hhead, Bool.false_eq_true, if_false]
  rw [hlength, Lex.readAll_opening, Lex.readAll, hstep]
  exact ⟨_, Lex.readAll_closing _ _ _⟩

theorem Document.ofText_timeout (h : Words words) (hc : c.isDigit = true)
    (hfirst : [' '].intercalate words = c :: rest) :
    Document.ofText ("scrape:\n  timeout: ".toList ++ ([' '].intercalate words ++ ['\n'])) =
      .ofTimeout ([' '].intercalate words) := by
  obtain ⟨stop, htokens⟩ := TokenStream.ofText_timeout h hc hfirst
  rw [Document.ofText, htokens]
  rfl

end

end Yaml

namespace Duration

theorem Count.inner_of_mem_text (count : Count) : ∀ c ∈ count.text, Yaml.Inner c := by
  intro c hc
  rcases List.mem_append.mp hc with hdigit | hletter
  · have hbounds : 48 ≤ c.toNat ∧ c.toNat ≤ 57 := by
      simpa [Char.isDigit, UInt32.le_iff_toNat_le] using
        Nat.isDigit_of_mem_toDigits (by decide) (by decide) hdigit
    exact Yaml.inner_of_code (.inl hbounds)
  · exact Yaml.inner_of_code
      (.inr (code_of_isUnitLetter ((letters_of_ofText? count.named).2 c hletter)))

theorem exists_words {d : Duration} (h : d ≠ .zero) :
    ∃ words c rest, Yaml.Words words ∧ d.toText.toList = [' '].intercalate words ∧
      c.isDigit = true ∧ [' '].intercalate words = c :: rest := by
  obtain ⟨first, middle, last, htext, hfirst, -⟩ := framed_intercalate (written_ne_nil h)
  refine ⟨d.written.map Count.text, first, _, ⟨?_, ?_, ?_⟩, toList_toText h, hfirst, htext⟩
  · simpa using written_ne_nil h
  · intro word hword
    obtain ⟨count, -, rfl⟩ := List.mem_map.mp hword
    obtain ⟨first, middle, last, htext, -⟩ := count.framed
    simp [htext]
  · intro word hword
    obtain ⟨count, -, rfl⟩ := List.mem_map.mp hword
    exact count.inner_of_mem_text

end Duration

namespace Config

open Yaml

theorem Spot.duration_of_scalar {s : Spot} {p : Properties} {text : List Char} {style : Style}
    {d : Duration} (hnode : s.node = .scalar p text style) (h : Duration.parse text = .ok d) :
    s.duration = .ok d := by
  have htext : s.text .duration = .ok (text, p.mark) := by rw [Spot.text, hnode]; rfl
  simp only [Spot.duration, htext, bind, Except.bind, h]
  rfl

-- An entry of a section is read by the field that it names.
theorem Spot.readEntries_cons {s : Spot} {mark : Mark}
    {fields : List (String × (Spot → α → Reading α))} {seen : List String} {key value : Node}
    {rest : List (Node × Node)} {path : Path} {read : Spot → α → Reading α} {before after : α}
    (name : String) (hkey : s.readKey key = .ok (name, path))
    (hfield : fields.lookup name = some read) (hnew : seen.contains name = false)
    (hread : read (.ofNode s.document path value) before = .ok after) :
    s.readEntries mark fields seen ((key, value) :: rest) before =
      s.readEntries mark fields (name :: seen) rest after := by
  simp only [Spot.readEntries, hkey, hfield, hnew, hread, bind, Except.bind]
  rfl

theorem Settings.ofDocument_timeout {text : List Char} {d : Duration}
    (h : Duration.parse text = .ok d) :
    Settings.ofDocument (.ofTimeout text) =
      .ok { Settings.default with cycle := { Cycle.default with timeout := d } } := by
  have hvalue (document : Document) (path : Path) :
      (⟨document, path, .scalar ⟨⟨19, 1, 11⟩, none, none⟩ text .plain⟩ : Spot).duration = .ok d :=
    Spot.duration_of_scalar rfl h
  rw [Settings.ofDocument]
  simp only [Document.ofTimeout, Spot.ofNode, Spot.follow, Spot.readSection]
  rw [Spot.readEntries_cons "scrape" rfl rfl rfl]
  · rfl
  · simp only [Spot.ofNode, Spot.follow, Spot.readSection]
    rw [Spot.readEntries_cons "timeout" rfl rfl rfl]
    · rfl
    · simp only [Spot.ofNode, Spot.follow, hvalue]
      rfl

-- The defaults break no rule, whatever the variables are.
theorem Settings.meets_default (env : Environment) : ∀ rule, Settings.default.Meets env rule := by
  have hplain : '$' ∉ Database.default.dsn.toList := by decide
  have hsame : Settings.default.validate env = Settings.default.validate fun _ => none := by
    simp only [validate, dsn, Dsn.parse, Settings.default, expand_plain _ hplain]
  rw [← validate_eq_ok_iff, hsame]
  decide +kernel

theorem Settings.meets_timeout (env : Environment) {d : Duration} (h : d ≠ .zero) :
    ∀ rule, Settings.Meets env
      { Settings.default with cycle := { Cycle.default with timeout := d } } rule
  | .timeout => h
  | .address => meets_default env .address
  | .connections => meets_default env .connections
  | .capacity => meets_default env .capacity
  | .distinct => meets_default env .distinct
  | .known => meets_default env .known

-- A file of one deadline, without a blank around it.
theorem Settings.load_timeout (env : Environment) {d : Duration} (h : d ≠ .zero) :
    Settings.load env (some (Text.encodeUtf8
      ("scrape:\n  timeout: " ++ d.toText ++ "\n").toList)) =
      .ok { Settings.default with cycle := { Cycle.default with timeout := d } } := by
  obtain ⟨words, c, rest, hwords, htext, hc, hfirst⟩ := Duration.exists_words h
  have hdocument : Document.ofText ("scrape:\n  timeout: " ++ d.toText ++ "\n").toList =
      .ofTimeout d.toText.toList := by
    rw [String.toList_append, String.toList_append, List.append_assoc, htext]
    exact Document.ofText_timeout hwords hc hfirst
  refine load_eq_ok_iff.mpr ⟨?_, validate_eq_ok_iff.mpr (meets_timeout env h)⟩
  simp only [ofFile, Text.decodeUtf8_eq_ok_iff.mpr rfl, hdocument,
    ofDocument_timeout d.parse_toText, Except.mapError]

end Config

end SysExporter
