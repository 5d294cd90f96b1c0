import SysExporter.Proofs.Scrape.Polling

namespace SysExporter.Scrape.Contexts

-- What is done with contexts and the clock. A context is cancelled at once or
-- some time from now.
inductive Operation where
  | create
  | clone (i : Nat)
  | withTimeout (i : Nat) (d : Duration)
  | withDeadline (i t : Nat)
  | cancel (i span : Nat)
  | advance (span : Nat)

-- None if the context is not there or a deadline cannot be told.
def perform (s : Contexts) : Operation → Option Contexts
  | .create => some s.create
  | .clone i => if i < s.members.length then some (s.derive i id) else none
  | .withTimeout i d => if i < s.members.length then s.withTimeout? i d else none
  | .withDeadline i t =>
    if i < s.members.length then some (s.derive i (·.withDeadline t)) else none
  | .cancel i span => if i < s.members.length then some (s.cancelAt i (s.now + span)) else none
  | .advance span => some (s.advance span)

def run (s : Contexts) : List Operation → Option Contexts
  | [] => some s
  | operation :: rest => (s.perform operation).bind (run · rest)

-- The context that an operation needs.
def Operation.context? : Operation → Option Nat
  | .create | .advance _ => none
  | .clone i | .withTimeout i _ | .withDeadline i _ | .cancel i _ => some i

theorem perform_ne_none_iff {s : Contexts} {operation : Operation} :
    s.perform operation ≠ none ↔
      (∀ i, operation.context? = some i → i < s.members.length) ∧
        ∀ i d, operation = .withTimeout i d → after? s.now d ≠ none := by
  cases operation with
  | create => simp [perform, Operation.context?]
  | advance span => simp [perform, Operation.context?]
  | clone i => simp [perform, Operation.context?]
  | withTimeout i d => simp [perform, Operation.context?, withTimeout?]
  | withDeadline i t => simp [perform, Operation.context?]
  | cancel i span => simp [perform, Operation.context?]

-- Where a context comes from: nowhere, or another context, with a deadline set
-- on the way or none.
inductive Origin where
  | fresh
  | derived (source : Nat) (limit : Option Nat)

-- What operations come to by themselves: where the clock started and where it
-- stands, the origin of each context, and which contexts were cancelled and for when.
structure Record where
  epoch : Nat
  clock : Nat
  origins : List Origin
  cancellations : List (Nat × Nat)

namespace Record

def initial (clock : Nat) : Record := ⟨clock, clock, [.fresh], []⟩

def add (r : Record) (o : Origin) : Record :=
  { r with origins := r.origins ++ [o] }

def note (r : Record) : Operation → Record
  | .create => r.add .fresh
  | .clone i => r.add (.derived i none)
  | .withTimeout i d => r.add (.derived i (some (r.clock + d.inNanos)))
  | .withDeadline i t => r.add (.derived i (some t))
  | .cancel i span => { r with cancellations := r.cancellations ++ [(i, r.clock + span)] }
  | .advance span => { r with clock := r.clock + span }

def ofOperations (clock : Nat) (operations : List Operation) : Record :=
  operations.foldl note (initial clock)

end Record

-- The line of a context: the fresh one that it goes back to, and the deadlines
-- that were set on the way.
inductive Descends (origins : List Origin) : Nat → Nat → List Nat → Prop where
  | fresh {k : Nat} (origin : origins[k]? = some .fresh) : Descends origins k k []
  | derived {k source root : Nat} {limit : Option Nat} {limits : List Nat}
      (origin : origins[k]? = some (.derived source limit))
      (line : Descends origins source root limits) :
      Descends origins k root (limit.toList ++ limits)

-- Contexts that go back to the same fresh one.
def Kin (origins : List Origin) (j k : Nat) : Prop :=
  ∃ root xs ys, Descends origins j root xs ∧ Descends origins k root ys

namespace Descends

variable {origins : List Origin} {k root root' : Nat} {limits limits' : List Nat}

theorem unique (h : Descends origins k root limits) (h' : Descends origins k root' limits') :
    root = root' ∧ limits = limits' := by
  induction h generalizing root' limits' with
  | fresh origin =>
    cases h' with
    | fresh _ => exact ⟨rfl, rfl⟩
    | derived origin' _ => simp [origin] at origin'
  | derived origin _ ih =>
    cases h' with
    | fresh origin' => simp [origin] at origin'
    | derived origin' line' =>
      obtain ⟨rfl, rfl⟩ : _ = _ ∧ _ = _ := by simpa [origin] using origin'
      obtain ⟨rfl, rfl⟩ := ih line'
      exact ⟨rfl, rfl⟩

theorem append (h : Descends origins k root limits) (more : List Origin) :
    Descends (origins ++ more) k root limits := by
  have hkeep {j : Nat} {o : Origin} (ho : origins[j]? = some o) :
      (origins ++ more)[j]? = some o := by
    rw [List.getElem?_append_left (List.getElem?_eq_some_iff.mp ho).1, ho]
  induction h with
  | fresh origin => exact .fresh (hkeep origin)
  | derived origin _ ih => exact .derived (hkeep origin) ih

theorem lt_length (h : Descends origins k root limits) : k < origins.length := by
  cases h with
  | fresh origin => exact (List.getElem?_eq_some_iff.mp origin).1
  | derived origin _ => exact (List.getElem?_eq_some_iff.mp origin).1

theorem root_fresh (h : Descends origins k root limits) : origins[root]? = some .fresh := by
  induction h with
  | fresh origin => exact origin
  | derived _ _ ih => exact ih

theorem root_lt_length (h : Descends origins k root limits) : root < origins.length :=
  (List.getElem?_eq_some_iff.mp h.root_fresh).1

theorem kin_iff (h : Descends origins j root limits) (h' : Descends origins k root' limits') :
    Kin origins j k ↔ root = root' := by
  constructor
  · rintro ⟨founder, xs, ys, hx, hy⟩
    exact (h.unique hx).1.trans (hy.unique h').1
  · rintro rfl
    exact ⟨root, limits, limits', h, h'⟩

end Descends

theorem getElem?_concat_eq_some_iff {l : List α} {a b : α} {k : Nat} :
    (l ++ [a])[k]? = some b ↔ l[k]? = some b ∨ k = l.length ∧ a = b := by
  rcases Nat.lt_trichotomy k l.length with hlt | rfl | hlt
  · have hne : k ≠ l.length := Nat.ne_of_lt hlt
    simp [List.getElem?_append_left hlt, hne]
  · simp
  · have hne : k ≠ l.length := Nat.ne_of_gt hlt
    have hout : (l ++ [a]).length ≤ k := by
      rw [List.length_append, List.length_singleton]
      omega
    simp [List.getElem?_eq_none hout, List.getElem?_eq_none (Nat.le_of_lt hlt), hne]

theorem earliest_min? (limits : List Nat) (limit : Option Nat) :
    earliest [limits.min?, limit] = (limit.toList ++ limits).min? := by
  cases limit with
  | none => cases h : limits.min? <;> simp [earliest, h]
  | some t => cases h : limits.min? <;> simp [earliest, h, List.min?_cons, Nat.min_comm]

-- What an operation does to the contexts, and what is noted of it.
inductive Step (s : Contexts) (r : Record) : Operation → Contexts → Record → Prop where
  | created : Step s r .create s.create (r.add .fresh)
  | derived {operation : Operation} {i : Nat} {m : Member} (limit : Option Nat)
      (source : s.members[i]? = some m) (other : ∀ j span, operation ≠ .cancel j span) :
      Step s r operation
        { s with members := s.members ++ [⟨m.family, earliest [m.deadline, limit]⟩] }
        (r.add (.derived i limit))
  | cancelled {i : Nat} {m : Member} (span : Nat) (source : s.members[i]? = some m) :
      Step s r (.cancel i span)
        { s with families :=
            s.families.modify m.family fun old => earliest [old, some (s.now + span)] }
        { r with cancellations := r.cancellations ++ [(i, s.now + span)] }
  | advanced (span : Nat) :
      Step s r (.advance span) (s.advance span) { r with clock := r.clock + span }

theorem derive_eq {s : Contexts} {i : Nat} {m : Member} (h : s.members[i]? = some m)
    (f : Context → Context) :
    s.derive i f =
      { s with members := s.members ++
          [⟨m.family, (f ⟨m.deadline, s.families[m.family]?.join⟩).deadline⟩] } := by
  simp [derive, get?, h]

theorem after?_eq_some {now t : Nat} {d : Duration} (h : after? now d = some t) :
    t = now + d.inNanos := by
  simp only [after?, Option.ite_none_right_eq_some, Option.some.injEq] at h
  exact h.2.symm

theorem step_perform {s s' : Contexts} {r : Record} {operation : Operation}
    (hclock : s.now = r.clock) (h : s.perform operation = some s') :
    Step s r operation s' (r.note operation) := by
  have hmember {i : Nat} (hi : i < s.members.length) : s.members[i]? = some s.members[i] :=
    List.getElem?_eq_getElem hi
  cases operation with
  | create =>
    obtain rfl : s.create = s' := Option.some.inj h
    exact .created
  | advance span =>
    obtain rfl : s.advance span = s' := Option.some.inj h
    exact .advanced span
  | clone i =>
    simp only [perform, Option.ite_none_right_eq_some, Option.some.injEq] at h
    obtain ⟨hi, rfl⟩ := h
    rw [derive_eq (hmember hi)]
    have hsame : earliest [s.members[i].deadline, none] = s.members[i].deadline := by
      cases s.members[i].deadline <;> rfl
    have hstep : Step s r (.clone i) _ (r.note (.clone i)) :=
      .derived none (hmember hi) (by simp)
    rwa [hsame] at hstep
  | withTimeout i d =>
    simp only [perform, Option.ite_none_right_eq_some, withTimeout?, Option.map_eq_some_iff] at h
    obtain ⟨hi, t, ht, rfl⟩ := h
    obtain rfl := after?_eq_some ht
    rw [derive_eq (hmember hi)]
    simp only [Record.note, ← hclock]
    exact .derived _ (hmember hi) (by simp)
  | withDeadline i t =>
    simp only [perform, Option.ite_none_right_eq_some, Option.some.injEq] at h
    obtain ⟨hi, rfl⟩ := h
    rw [derive_eq (hmember hi)]
    exact .derived _ (hmember hi) (by simp)
  | cancel i span =>
    simp only [perform, Option.ite_none_right_eq_some, Option.some.injEq] at h
    obtain ⟨hi, rfl⟩ := h
    have hstep : Step s r (.cancel i span) _ _ := .cancelled span (hmember hi)
    simpa only [cancelAt, hmember hi, hclock, Record.note] using hstep

-- The contexts are as the record has them: a context has the family of the
-- fresh one that it goes back to, and each fresh one has a family of its own.
structure Agrees (s : Contexts) (r : Record) : Prop where
  epoch_eq : s.epoch = r.epoch
  epoch_le : s.epoch ≤ s.now
  now_eq : s.now = r.clock
  length_eq : s.members.length = r.origins.length
  line {k : Nat} {m : Member} : s.members[k]? = some m →
    ∃ root limits founder, Descends r.origins k root limits ∧ s.members[root]? = some founder ∧
      m.family = founder.family ∧ m.deadline = limits.min?
  family_lt {k : Nat} {m : Member} : s.members[k]? = some m → m.family < s.families.length
  founder_eq {j k : Nat} {m n : Member} : r.origins[j]? = some .fresh →
    r.origins[k]? = some .fresh → s.members[j]? = some m → s.members[k]? = some n →
      m.family = n.family → j = k
  known : ∀ c ∈ r.cancellations, c.1 < r.origins.length
  over_iff {k : Nat} {m : Member} (t : Nat) : s.members[k]? = some m →
    ((s.families[m.family]?.join.any (· ≤ t)) = true ↔
      ∃ c ∈ r.cancellations, Kin r.origins c.1 k ∧ c.2 ≤ t)

theorem eq_of_initial {clock k : Nat} {m : Member}
    (hm : (initial clock).members[k]? = some m) :
    k = 0 ∧ m = ⟨0, none⟩ := by
  simpa [eq_comm] using (getElem?_concat_eq_some_iff (l := [])).mp hm

theorem agrees_initial (clock : Nat) : Agrees (initial clock) (.initial clock) where
  epoch_eq := rfl
  epoch_le := Nat.le_refl clock
  now_eq := rfl
  length_eq := rfl
  line {k m} hm := by
    obtain ⟨rfl, rfl⟩ := eq_of_initial hm
    exact ⟨0, [], ⟨0, none⟩, .fresh rfl, rfl, rfl, rfl⟩
  family_lt {k m} hm := by
    obtain ⟨rfl, rfl⟩ := eq_of_initial hm
    exact Nat.one_pos
  founder_eq {j k m n} _ _ hm hn _ := by
    rw [(eq_of_initial hm).1, (eq_of_initial hn).1]
  known c hc := by cases hc
  over_iff {k m} t hm := by
    obtain ⟨rfl, rfl⟩ := eq_of_initial hm
    simp [initial, Record.initial]

namespace Agrees

variable {s : Contexts} {r : Record} {i j k : Nat} {m n source : Member} (h : Agrees s r)

include h

theorem family_eq_iff (hm : s.members[j]? = some m) (hn : s.members[k]? = some n) :
    m.family = n.family ↔ Kin r.origins j k := by
  obtain ⟨root, xs, founder, hj, hfounder, hfamily, -⟩ := h.line hm
  obtain ⟨root', ys, founder', hk, hfounder', hfamily', -⟩ := h.line hn
  rw [hj.kin_iff hk]
  constructor
  · intro heq
    exact h.founder_eq hj.root_fresh hk.root_fresh hfounder hfounder'
      (hfamily.symm.trans (heq.trans hfamily'))
  · rintro rfl
    obtain rfl := Option.some.inj (hfounder.symm.trans hfounder')
    exact hfamily.trans hfamily'.symm

theorem lt_length (hm : s.members[k]? = some m) : k < r.origins.length :=
  h.length_eq ▸ (List.getElem?_eq_some_iff.mp hm).1

theorem exists_line (hk : k < r.origins.length) :
    ∃ root limits, Descends r.origins k root limits := by
  have hm : s.members[k]? = some _ := List.getElem?_eq_getElem (h.length_eq ▸ hk)
  obtain ⟨root, limits, -, hline, -⟩ := h.line hm
  exact ⟨root, limits, hline⟩

-- What is added does not change how the contexts before it are related.
theorem kin_add (hj : j < r.origins.length) (hk : k < r.origins.length) (o : Origin) :
    Kin (r.add o).origins j k ↔ Kin r.origins j k := by
  obtain ⟨root, xs, hline⟩ := h.exists_line hj
  obtain ⟨root', ys, hline'⟩ := h.exists_line hk
  rw [hline.kin_iff hline', Record.add, (hline.append [o]).kin_iff (hline'.append [o])]

theorem not_kin_fresh (hj : j < r.origins.length) :
    ¬ Kin (r.add .fresh).origins j r.origins.length := by
  obtain ⟨root, xs, hline⟩ := h.exists_line hj
  have hold : Descends (r.add .fresh).origins j root xs := hline.append _
  have hnew : Descends (r.add .fresh).origins r.origins.length r.origins.length [] :=
    .fresh (by simp [Record.add])
  rw [hold.kin_iff hnew]
  exact Nat.ne_of_lt hline.root_lt_length

theorem kin_derived (hj : j < r.origins.length) (hi : i < r.origins.length) (limit : Option Nat) :
    Kin (r.add (.derived i limit)).origins j r.origins.length ↔ Kin r.origins j i := by
  obtain ⟨root, xs, hline⟩ := h.exists_line hj
  obtain ⟨root', ys, hline'⟩ := h.exists_line hi
  have hold : Descends (r.add (.derived i limit)).origins j root xs := hline.append _
  have hnew : Descends (r.add (.derived i limit)).origins r.origins.length root'
      (limit.toList ++ ys) :=
    .derived (by simp [Record.add]) (hline'.append _)
  rw [hline.kin_iff hline', hold.kin_iff hnew]

-- A context is added whose origin is noted.
theorem line_add (hm : s.members[k]? = some m) (n : Member) (o : Origin) :
    ∃ root limits founder, Descends (r.add o).origins k root limits ∧
      (s.members ++ [n])[root]? = some founder ∧
      m.family = founder.family ∧ m.deadline = limits.min? := by
  obtain ⟨root, limits, founder, hline, hfounder, hrest⟩ := h.line hm
  exact ⟨root, limits, founder, hline.append [o],
    getElem?_concat_eq_some_iff.mpr (.inl hfounder), hrest⟩

theorem origin_add (hm : s.members[k]? = some m) (o : Origin) :
    (r.add o).origins[k]? = r.origins[k]? :=
  List.getElem?_append_left (h.lt_length hm)

theorem known_add (o : Origin) : ∀ c ∈ (r.add o).cancellations, c.1 < (r.add o).origins.length := by
  intro c hc
  have hlt := h.known c hc
  rw [Record.add, List.length_append]
  omega

theorem over_add {t : Nat} (hm : s.members[k]? = some m) (o : Origin) :
    (s.families[m.family]?.join.any (· ≤ t)) = true ↔
      ∃ c ∈ (r.add o).cancellations, Kin (r.add o).origins c.1 k ∧ c.2 ≤ t := by
  rw [h.over_iff t hm]
  refine exists_congr fun c => and_congr_right fun hc => ?_
  rw [h.kin_add (h.known c hc) (h.lt_length hm)]

theorem created : Agrees s.create (r.add .fresh) where
  epoch_eq := h.epoch_eq
  epoch_le := h.epoch_le
  now_eq := h.now_eq
  length_eq := by simp [create, Record.add, h.length_eq]
  line {k m} hm := by
    rcases getElem?_concat_eq_some_iff.mp hm with hold | ⟨rfl, rfl⟩
    · exact h.line_add hold _ _
    · refine ⟨s.members.length, [], _, .fresh ?_, hm, rfl, rfl⟩
      exact getElem?_concat_eq_some_iff.mpr (.inr ⟨h.length_eq, rfl⟩)
  family_lt {k m} hm := by
    rw [create, List.length_append, List.length_singleton]
    rcases getElem?_concat_eq_some_iff.mp hm with hold | ⟨rfl, rfl⟩
    · have := h.family_lt hold
      omega
    · exact Nat.lt_succ_self _
  founder_eq {j k m n} hj hk hm hn heq := by
    rcases getElem?_concat_eq_some_iff.mp hm with hm | ⟨rfl, rfl⟩
    · rcases getElem?_concat_eq_some_iff.mp hn with hn | ⟨rfl, rfl⟩
      · rw [h.origin_add hm] at hj
        rw [h.origin_add hn] at hk
        exact h.founder_eq hj hk hm hn heq
      · exact absurd heq (Nat.ne_of_lt (h.family_lt hm))
    · rcases getElem?_concat_eq_some_iff.mp hn with hn | ⟨rfl, rfl⟩
      · exact absurd heq.symm (Nat.ne_of_lt (h.family_lt hn))
      · rfl
  known := h.known_add _
  over_iff {k m} t hm := by
    rcases getElem?_concat_eq_some_iff.mp hm with hold | ⟨rfl, rfl⟩
    · have hsame : s.create.families[m.family]? = s.families[m.family]? :=
        List.getElem?_append_left (h.family_lt hold)
      rw [hsame, h.over_add hold .fresh]
    · have hlive : s.create.families[s.families.length]?.join = none := by simp [create]
      rw [hlive, h.length_eq]
      constructor
      · intro hover
        cases hover
      · rintro ⟨c, hc, hkin, -⟩
        exact absurd hkin (h.not_kin_fresh (h.known c hc))

theorem derived (hi : s.members[i]? = some source) (limit : Option Nat) :
    Agrees
      { s with members := s.members ++ [⟨source.family, earliest [source.deadline, limit]⟩] }
      (r.add (.derived i limit)) where
  epoch_eq := h.epoch_eq
  epoch_le := h.epoch_le
  now_eq := h.now_eq
  length_eq := by simp [Record.add, h.length_eq]
  line {k m} hm := by
    rcases getElem?_concat_eq_some_iff.mp hm with hold | ⟨rfl, rfl⟩
    · exact h.line_add hold _ _
    · obtain ⟨root, limits, founder, hline, hfounder, hfamily, hdeadline⟩ :=
        h.line_add hi ⟨source.family, earliest [source.deadline, limit]⟩ (.derived i limit)
      refine ⟨root, limit.toList ++ limits, founder, .derived ?_ hline, hfounder, hfamily, ?_⟩
      · exact getElem?_concat_eq_some_iff.mpr (.inr ⟨h.length_eq, rfl⟩)
      · rw [hdeadline]
        exact earliest_min? limits limit
  family_lt {k m} hm := by
    rcases getElem?_concat_eq_some_iff.mp hm with hold | ⟨rfl, rfl⟩
    · exact h.family_lt hold
    · exact (h.family_lt hi :)
  founder_eq {j k m n} hj hk hm hn heq := by
    have hold {l : Nat} {o : Member} (hl : (r.add (.derived i limit)).origins[l]? = some .fresh)
        (ho : (s.members ++ [⟨source.family, earliest [source.deadline, limit]⟩])[l]? = some o) :
        r.origins[l]? = some .fresh ∧ s.members[l]? = some o := by
      rcases getElem?_concat_eq_some_iff.mp ho with ho | ⟨rfl, rfl⟩
      · exact ⟨h.origin_add ho _ ▸ hl, ho⟩
      · simp [h.length_eq, Record.add] at hl
    obtain ⟨hj, hm⟩ := hold hj hm
    obtain ⟨hk, hn⟩ := hold hk hn
    exact h.founder_eq hj hk hm hn heq
  known := h.known_add _
  over_iff {k m} t hm := by
    rcases getElem?_concat_eq_some_iff.mp hm with hold | ⟨rfl, rfl⟩
    · exact h.over_add hold _
    · rw [h.over_iff t hi, h.length_eq]
      refine exists_congr fun c => and_congr_right fun hc => ?_
      rw [h.kin_derived (h.known c hc) (h.lt_length hi)]

theorem cancelled (hi : s.members[i]? = some source) (instant : Nat) :
    Agrees
      { s with families :=
          s.families.modify source.family fun old => earliest [old, some instant] }
      { r with cancellations := r.cancellations ++ [(i, instant)] } where
  epoch_eq := h.epoch_eq
  epoch_le := h.epoch_le
  now_eq := h.now_eq
  length_eq := h.length_eq
  line := h.line
  family_lt hm := by
    rw [List.length_modify]
    exact h.family_lt hm
  founder_eq := h.founder_eq
  known c hc := by
    rcases List.mem_append.mp hc with hc | hc
    · exact h.known c hc
    · obtain rfl := List.mem_singleton.mp hc
      exact h.lt_length hi
  over_iff {k m} t hm := by
    obtain ⟨old, hold⟩ : ∃ old, s.families[m.family]? = some old :=
      ⟨_, List.getElem?_eq_getElem (h.family_lt hm)⟩
    have hover : old.any (· ≤ t) = true ↔
        ∃ c ∈ r.cancellations, Kin r.origins c.1 k ∧ c.2 ≤ t := by
      rw [← h.over_iff t hm, hold, Option.join_some]
    have hkin := h.family_eq_iff hi hm
    by_cases hsame : source.family = m.family
    · simp [hold, hsame, any_earliest, hover, or_and_right, exists_or,
        hkin.mp hsame]
    · simp [hold, hsame, hover, or_and_right, exists_or,
        mt hkin.mpr hsame]

theorem advanced (span : Nat) : Agrees (s.advance span) { r with clock := r.clock + span } :=
  { h with
    epoch_le := Nat.le_add_right_of_le h.epoch_le
    now_eq := congrArg (· + span) h.now_eq }

theorem step {operation : Operation} {s' : Contexts} {r' : Record}
    (hs : Step s r operation s' r') : Agrees s' r' := by
  cases hs with
  | created => exact h.created
  | derived limit hi _ => exact h.derived hi limit
  | cancelled span hi => exact h.cancelled hi (s.now + span)
  | advanced span => exact h.advanced span

theorem perform {s' : Contexts} {operation : Operation} (hs : s.perform operation = some s') :
    Agrees s' (r.note operation) :=
  h.step (step_perform h.now_eq hs)

end Agrees

theorem Agrees.run {s s' : Contexts} {r : Record} {operations : List Operation} (h : Agrees s r)
    (hs : s.run operations = some s') : Agrees s' (operations.foldl Record.note r) := by
  induction operations generalizing s r with
  | nil =>
    obtain rfl : s = s' := Option.some.inj hs
    exact h
  | cons operation rest ih =>
    obtain ⟨next, hnext, hrest⟩ := Option.bind_eq_some_iff.mp hs
    exact ih (h.perform hnext) hrest

theorem agrees_run {s : Contexts} {clock : Nat} {operations : List Operation}
    (h : (initial clock).run operations = some s) : Agrees s (.ofOperations clock operations) :=
  (agrees_initial clock).run h

end SysExporter.Scrape.Contexts
