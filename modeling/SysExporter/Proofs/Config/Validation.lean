import SysExporter.Config.Loading
import SysExporter.Proofs.Registry.Selection

namespace SysExporter.Config

variable {env : Environment} {s : Settings} {rejection : Rejection}

theorem firstRepeated_of_mem {seen : List String} {first : String} (h : first ∈ seen)
    (rest : List String) : firstRepeated seen (first :: rest) = some first := by
  simp [firstRepeated, h]

theorem firstRepeated_of_not_mem {seen : List String} {first : String} (h : first ∉ seen)
    (rest : List String) :
    firstRepeated seen (first :: rest) = firstRepeated (first :: seen) rest := by
  simp [firstRepeated, h]

theorem firstRepeated_eq_none_iff {seen names : List String} :
    firstRepeated seen names = none ↔ names.Nodup ∧ ∀ name ∈ names, name ∉ seen := by
  induction names generalizing seen with
  | nil => simp [firstRepeated]
  | cons first rest ih =>
    by_cases h : first ∈ seen
    · simp [firstRepeated_of_mem h, h]
    · rw [firstRepeated_of_not_mem h, ih, List.nodup_cons]
      constructor
      · rintro ⟨hrest, hnew⟩
        have hfirst : first ∉ rest := fun hmem => hnew first hmem List.mem_cons_self
        refine ⟨⟨hfirst, hrest⟩, List.forall_mem_cons.mpr ⟨h, fun name hname hseen => ?_⟩⟩
        exact hnew name hname (List.mem_cons_of_mem _ hseen)
      · rintro ⟨⟨hfirst, hrest⟩, hnew⟩
        refine ⟨hrest, fun name hname => ?_⟩
        rw [List.mem_cons, not_or]
        exact ⟨fun heq => hfirst (heq ▸ hname), hnew name (List.mem_cons_of_mem _ hname)⟩

-- The induction is on the names that are left, with those before them as seen.
theorem firstRepeated_eq_some_iff {seen names : List String} {name : String} :
    firstRepeated seen names = some name ↔
      ∃ before after, names = before ++ name :: after ∧ before.Nodup ∧
        (∀ earlier ∈ before, earlier ∉ seen) ∧ (name ∈ before ∨ name ∈ seen) := by
  induction names generalizing seen with
  | nil => simp [firstRepeated]
  | cons first rest ih =>
    by_cases h : first ∈ seen
    · rw [firstRepeated_of_mem h]
      constructor
      · intro hname
        obtain rfl : first = name := Option.some.inj hname
        exact ⟨[], rest, rfl, List.nodup_nil, by simp, .inr h⟩
      · rintro ⟨before, after, hsplit, -, hnew, -⟩
        cases before with
        | nil => rw [(List.cons.inj hsplit).1]
        | cons head before =>
          rw [← (List.cons.inj hsplit).1] at hnew
          exact absurd h (hnew first List.mem_cons_self)
    · rw [firstRepeated_of_not_mem h, ih]
      constructor
      · rintro ⟨before, after, rfl, hnodup, hnew, hlast⟩
        have hfirst : first ∉ before := fun hmem => hnew first hmem List.mem_cons_self
        refine ⟨first :: before, after, rfl, List.nodup_cons.mpr ⟨hfirst, hnodup⟩,
          List.forall_mem_cons.mpr ⟨h, fun earlier hearlier hseen => ?_⟩, ?_⟩
        · exact hnew earlier hearlier (List.mem_cons_of_mem _ hseen)
        · simp only [List.mem_cons] at hlast ⊢
          tauto
      · rintro ⟨before, after, hsplit, hnodup, hnew, hlast⟩
        cases before with
        | nil =>
          obtain rfl : first = name := (List.cons.inj hsplit).1
          exact absurd (hlast.resolve_left List.not_mem_nil) h
        | cons head before =>
          obtain ⟨rfl, rfl⟩ := List.cons.inj hsplit
          obtain ⟨hfirst, hnodup⟩ := List.nodup_cons.mp hnodup
          refine ⟨before, after, rfl, hnodup, fun earlier hearlier => ?_, ?_⟩
          · rw [List.mem_cons, not_or]
            exact ⟨fun heq => hfirst (heq ▸ hearlier),
              hnew earlier (List.mem_cons_of_mem _ hearlier)⟩
          · simp only [List.mem_cons] at hlast ⊢
            tauto

-- The rules for settings, in the order in which they are looked at.
inductive Rule where
  | address
  | connections
  | timeout
  | capacity
  | distinct
  | known
  deriving DecidableEq

def Rule.all : List Rule :=
  [.address, .connections, .timeout, .capacity, .distinct, .known]

namespace Settings

def Meets (env : Environment) (s : Settings) : Rule → Prop
  | .address => ∃ dsn, Dsn.parse env s.database.dsn = .ok dsn
  | .connections => 0 < s.database.maxConnections
  | .timeout => s.cycle.timeout ≠ .zero
  | .capacity => 0 < s.cycle.sinkCapacity
  | .distinct => s.cycle.scrapers.Nodup
  | .known => ∀ name ∈ s.cycle.scrapers, name ∈ Registry.builtin.names

-- What is said of a rule that is broken.
def Breaks (env : Environment) (s : Settings) : Rule → Rejection → Prop
  | .address, rejection => Dsn.parse env s.database.dsn = .error rejection
  | .connections, rejection =>
    s.database.maxConnections = 0 ∧ rejection = .violation .noConnections
  | .timeout, rejection => s.cycle.timeout = .zero ∧ rejection = .violation .noTimeout
  | .capacity, rejection => s.cycle.sinkCapacity = 0 ∧ rejection = .violation .noCapacity
  | .distinct, rejection =>
    ∃ before name after, s.cycle.scrapers = before ++ name :: after ∧ before.Nodup ∧
      name ∈ before ∧ rejection = .violation (.duplicateScraper name)
  | .known, rejection =>
    ∃ before name after, s.cycle.scrapers = before ++ name :: after ∧
      (∀ earlier ∈ before, earlier ∈ Registry.builtin.names) ∧
      name ∉ Registry.builtin.names ∧ rejection = .violation (.unknownScraper ⟨name⟩)

def breach (env : Environment) (s : Settings) : Rule → Option Rejection
  | .address =>
    match s.dsn env with
    | .error rejection => some rejection
    | .ok _ => none
  | .connections =>
    if s.database.maxConnections = 0 then some (.violation .noConnections) else none
  | .timeout => if s.cycle.timeout.isZero then some (.violation .noTimeout) else none
  | .capacity => if s.cycle.sinkCapacity = 0 then some (.violation .noCapacity) else none
  | .distinct =>
    (firstRepeated [] s.cycle.scrapers).map fun name => .violation (.duplicateScraper name)
  | .known =>
    (s.cycle.scrapers.find? (· ∉ Registry.builtin.names)).map fun name =>
      .violation (.unknownScraper ⟨name⟩)

theorem validate_eq (env : Environment) (s : Settings) :
    s.validate env =
      match Rule.all.findSome? (s.breach env) with
      | some rejection => .error rejection
      | none => .ok () := by
  simp only [validate, Rule.all, List.findSome?, breach, Registry.select_eq]
  cases s.dsn env with
  | error rejection => rfl
  | ok dsn =>
    by_cases hconnections : s.database.maxConnections = 0
    · simp only [hconnections]
      rfl
    by_cases htimeout : s.cycle.timeout.isZero
    · simp only [hconnections, htimeout]
      rfl
    by_cases hcapacity : s.cycle.sinkCapacity = 0
    · simp only [hconnections, htimeout, hcapacity]
      rfl
    cases firstRepeated [] s.cycle.scrapers with
    | some name =>
      simp only [hconnections, htimeout, hcapacity]
      rfl
    | none =>
      simp only [hconnections, htimeout, hcapacity]
      cases s.cycle.scrapers.find? (· ∉ Registry.builtin.names) <;> rfl

theorem breach_eq_none_iff {rule : Rule} : s.breach env rule = none ↔ s.Meets env rule := by
  cases rule with
  | address =>
    simp only [breach, Meets, Settings.dsn]
    cases Dsn.parse env s.database.dsn <;> simp
  | connections => simp [breach, Meets, UInt32.pos_iff_ne_zero]
  | timeout => simp [breach, Meets, ← Duration.isZero_iff]
  | capacity => simp [breach, Meets, UInt64.pos_iff_ne_zero]
  | distinct => simp [breach, Meets, firstRepeated_eq_none_iff]
  | known => rw [breach, Option.map_eq_none_iff, Registry.find?_unknown_eq_none_iff, Meets]

theorem breach_eq_some_iff {rule : Rule} :
    s.breach env rule = some rejection ↔ s.Breaks env rule rejection := by
  cases rule with
  | address =>
    simp only [breach, Breaks, Settings.dsn]
    cases Dsn.parse env s.database.dsn <;> simp
  | connections => simp [breach, Breaks, eq_comm (a := rejection)]
  | timeout => simp [breach, Breaks, Duration.isZero_iff, eq_comm (a := rejection)]
  | capacity => simp [breach, Breaks, eq_comm (a := rejection)]
  | distinct =>
    simp only [breach, Breaks, Option.map_eq_some_iff, firstRepeated_eq_some_iff]
    constructor
    · rintro ⟨name, ⟨before, after, hsplit, hnodup, -, hlast⟩, rfl⟩
      exact ⟨before, name, after, hsplit, hnodup, hlast.resolve_right List.not_mem_nil, rfl⟩
    · rintro ⟨before, name, after, hsplit, hnodup, hlast, rfl⟩
      exact ⟨name, ⟨before, after, hsplit, hnodup, by simp, .inl hlast⟩, rfl⟩
  | known =>
    simp only [breach, Breaks, Option.map_eq_some_iff, Registry.find?_unknown_iff]
    constructor
    · rintro ⟨name, ⟨before, after, hsplit, hbefore, hunknown⟩, rfl⟩
      exact ⟨before, name, after, hsplit, hbefore, hunknown, rfl⟩
    · rintro ⟨before, name, after, hsplit, hbefore, hunknown, rfl⟩
      exact ⟨name, ⟨before, after, hsplit, hbefore, hunknown⟩, rfl⟩

theorem not_meets_iff {rule : Rule} :
    ¬ s.Meets env rule ↔ ∃ rejection, s.Breaks env rule rejection := by
  rw [← breach_eq_none_iff, ← ne_eq, Option.ne_none_iff_exists']
  simp only [breach_eq_some_iff]

theorem validate_eq_ok_iff : s.validate env = .ok () ↔ ∀ rule, s.Meets env rule := by
  have hnone : Rule.all.findSome? (s.breach env) = none ↔ ∀ rule, s.Meets env rule := by
    rw [List.findSome?_eq_none_iff]
    simp only [breach_eq_none_iff]
    exact ⟨fun h rule => h rule (by cases rule <;> decide), fun h rule _ => h rule⟩
  rw [validate_eq, ← hnone]
  cases Rule.all.findSome? (s.breach env) <;> simp

theorem validate_eq_error_iff :
    s.validate env = .error rejection ↔
      ∃ before rule after, Rule.all = before ++ rule :: after ∧
        (∀ earlier ∈ before, s.Meets env earlier) ∧ s.Breaks env rule rejection := by
  have hsome : Rule.all.findSome? (s.breach env) = some rejection ↔
      ∃ before rule after, Rule.all = before ++ rule :: after ∧
        (∀ earlier ∈ before, s.Meets env earlier) ∧ s.Breaks env rule rejection := by
    rw [List.findSome?_eq_some_iff]
    simp only [breach_eq_none_iff, breach_eq_some_iff]
    tauto
  rw [validate_eq, ← hsome]
  cases Rule.all.findSome? (s.breach env) <;> simp

-- What a file says, before any rule is applied to it.
def ofFile : Option Text.Bytes → Except LoadFault Settings
  | none => .error .missing
  | some bytes =>
    match Text.decodeUtf8 bytes with
    | .error _ => .error .notText
    | .ok text => (ofDocument (Yaml.Document.ofText text)).mapError ReadingFault.toLoadFault

theorem load_eq (env : Environment) (file : Option Text.Bytes) :
    load env file = (ofFile file).bind fun s =>
      ((s.validate env).mapError .rejected).map fun _ => s := by
  cases file with
  | none => rfl
  | some bytes =>
    simp only [load, ofFile]
    cases Text.decodeUtf8 bytes with
    | error fault => rfl
    | ok text =>
      cases ofDocument (Yaml.Document.ofText text) with
      | error fault => rfl
      | ok s =>
        simp only [Except.mapError, bind, Except.bind]
        cases s.validate env <;> rfl

theorem load_eq_ok_iff {file : Option Text.Bytes} :
    load env file = .ok s ↔ ofFile file = .ok s ∧ s.validate env = .ok () := by
  rw [load_eq]
  cases ofFile file with
  | error fault => simp [Except.bind]
  | ok read =>
    have hunit (answer : Except Rejection Unit) :
        ((answer.mapError LoadFault.rejected).map fun _ => read) = .ok s ↔
          read = s ∧ answer = .ok () := by
      cases answer <;> simp [Except.mapError, Except.map]
    rw [Except.bind, hunit, Except.ok.injEq]
    exact and_congr_right fun heq => by rw [heq]

-- Settings are accepted if they meet all rules, and otherwise the first rule that
-- is broken is reported. What a file gives is accepted, and what is accepted has
-- an address and names scrapers that there are.
theorem validate_exact (env : Environment) (s : Settings) :
    (s.validate env = .ok () ↔ ∀ rule, s.Meets env rule) ∧
    (∀ rejection, s.validate env = .error rejection ↔
      ∃ before rule after, Rule.all = before ++ rule :: after ∧
        (∀ earlier ∈ before, s.Meets env earlier) ∧ s.Breaks env rule rejection) ∧
    (∀ rule, ¬ s.Meets env rule ↔ ∃ rejection, s.Breaks env rule rejection) ∧
    (∀ file, Settings.load env file = .ok s → s.validate env = .ok ()) ∧
    (s.validate env = .ok () →
      (∃ dsn, s.dsn env = .ok dsn) ∧
      ∃ chosen, Registry.builtin.select s.cycle.scrapers = .ok chosen ∧
        chosen.scrapers.Sublist Registry.builtin.scrapers ∧
        (s.cycle.scrapers = [] → chosen = Registry.builtin) ∧
        (s.cycle.scrapers ≠ [] → chosen.names.Perm s.cycle.scrapers)) := by
  refine ⟨validate_eq_ok_iff, fun _ => validate_eq_error_iff, fun _ => not_meets_iff,
    fun _ hload => (load_eq_ok_iff.mp hload).2, fun h => ?_⟩
  have hmeets := validate_eq_ok_iff.mp h
  have hknown := hmeets .known
  refine ⟨hmeets .address, _, Registry.select_eq_ok_iff.mpr ⟨hknown, rfl⟩,
    Registry.chosen_sublist _ _, fun hnil => ?_, fun hne => ?_⟩
  · rw [hnil]
    rfl
  · exact Registry.names_chosen_perm (List.nodup_singleton _) (hmeets .distinct) hknown hne

end Settings

end SysExporter.Config
