import SysExporter.Proofs.Metric.Shown

namespace SysExporter.Metric

-- A missing name is a fault that is returned. A kind that promises nothing has no
-- form in the text at all, and the writer breaks off there.
def BreaksOff (result : Except RenderFault String) : Prop :=
  result = .error .untyped

-- What is in the way of writing a family, if anything is.
def Family.fault? (family : Family) : Option RenderFault :=
  match family.check with
  | .ok () => none
  | .error fault => some fault

theorem Family.check_of_fault? {family : Family} :
    family.check = match family.fault? with
      | none => .ok ()
      | some fault => .error fault := by
  unfold fault?
  cases family.check <;> rfl

-- The first family that cannot be written decides.
theorem renderFamilies_of_fault {grouped : List Family} {fault : RenderFault}
    (h : grouped.findSome? Family.fault? = some fault) :
    renderFamilies grouped = .error fault := by
  induction grouped with
  | nil => cases h
  | cons family rest ih =>
    have hcheck := family.check_of_fault?
    rw [List.findSome?_cons] at h
    cases hfault : family.fault? with
    | some first =>
      rw [hfault] at h hcheck
      rw [renderFamilies, hcheck, Option.some.inj h]
      rfl
    | none =>
      rw [hfault] at h hcheck
      rw [renderFamilies, hcheck, ih h]
      rfl

section

variable {α β : Type} [BEq α] [LawfulBEq α] {f : α → Option β}

theorem findSome?_filter_ne {x : α} (hx : f x = none) (xs : List α) :
    (xs.filter fun y => !y == x).findSome? f = xs.findSome? f := by
  induction xs with
  | nil => rfl
  | cons y rest ih =>
    by_cases hy : y = x
    · rw [List.filter_cons_of_neg (by simp [hy]), ih, hy, List.findSome?_cons, hx]
    · rw [List.filter_cons_of_pos (by simp [hy]), List.findSome?_cons, List.findSome?_cons, ih]

-- Looking for the first hit, repeated entries make no difference.
theorem findSome?_eraseDups (xs : List α) : xs.eraseDups.findSome? f = xs.findSome? f := by
  match xs with
  | [] => rfl
  | x :: rest =>
    rw [List.eraseDups_cons, List.findSome?_cons, List.findSome?_cons]
    cases hx : f x with
    | some hit => rfl
    | none => rw [findSome?_eraseDups, findSome?_filter_ne hx]
termination_by xs.length
decreasing_by exact Nat.lt_succ_of_le (List.length_filter_le _ _)

end

section

variable (observations : List Observation)

-- What is in the way of writing the family of a name.
def obstacle? (name : String) : Option RenderFault :=
  if name = "" then some .unnamed
  else if declaredKind observations name = some .untyped then some .untyped
  else none

-- An observation can be written if it has a name and if the first observation of
-- that name promises something about its values.
def Writable (o : Observation) : Prop :=
  o.descriptor.name ≠ "" ∧ declaredKind observations o.descriptor.name ≠ some .untyped

end

section

variable {observations : List Observation}

theorem fault?_family {family : Family} (h : family ∈ families observations) :
    family.fault? = obstacle? observations family.name := by
  unfold Family.fault? Family.check obstacle?
  rw [declaredKind_family h]
  by_cases hname : family.name = ""
  · simp only [hname, if_true]
  · by_cases hkind : family.kind = .untyped <;> simp [hname, hkind]

theorem findSome?_fault? :
    (families observations).findSome? Family.fault? =
      (observations.map (·.descriptor.name)).findSome? (obstacle? observations) := by
  have hfaults : (families observations).map Family.fault? =
      ((families observations).map Family.name).map (obstacle? observations) := by
    rw [List.map_map]
    exact List.map_congr_left fun family => fault?_family
  calc
    (families observations).findSome? Family.fault? =
        ((families observations).map Family.fault?).findSome? id := by
      rw [List.findSome?_map]
      rfl
    _ = ((families observations).map Family.name).findSome? (obstacle? observations) := by
      rw [hfaults, List.findSome?_map]
      rfl
    _ = (observations.map (·.descriptor.name)).findSome? (obstacle? observations) := by
      rw [names_families, findSome?_eraseDups]

theorem obstacle?_eq_none_iff {o : Observation} :
    obstacle? observations o.descriptor.name = none ↔ Writable observations o := by
  unfold obstacle? Writable
  by_cases hname : o.descriptor.name = ""
  · simp [hname]
  · by_cases hkind : declaredKind observations o.descriptor.name = some .untyped <;>
      simp [hname, hkind]

theorem render_of_writable (h : ∀ o ∈ observations, Writable observations o) :
    ∃ text, render observations = .ok text := by
  have hfaults : (families observations).findSome? Family.fault? = none := by
    rw [findSome?_fault?, List.findSome?_map, List.findSome?_eq_none_iff]
    exact fun o ho => obstacle?_eq_none_iff.mpr (h o ho)
  refine ⟨_, render_ok fun family hfamily => ?_⟩
  rw [family.check_of_fault?, List.findSome?_eq_none_iff.mp hfaults family hfamily]

theorem render_of_obstacle {before after : List Observation} {o : Observation}
    {fault : RenderFault} (hsplit : observations = before ++ o :: after)
    (hbefore : ∀ earlier ∈ before, Writable observations earlier)
    (ho : obstacle? observations o.descriptor.name = some fault) :
    render observations = .error fault := by
  have hfaults : (families observations).findSome? Family.fault? = some fault := by
    rw [findSome?_fault?, List.findSome?_map, List.findSome?_eq_some_iff]
    exact ⟨before, o, after, hsplit, ho, fun earlier hmem =>
      obstacle?_eq_none_iff.mpr (hbefore earlier hmem)⟩
  rw [render, renderFamilies_of_fault hfaults]
  rfl

-- Either all observations can be written, or there is a first one that cannot.
theorem writable_or_obstacle (observations : List Observation) :
    (∀ o ∈ observations, Writable observations o) ∨
      ∃ before o after fault, observations = before ++ o :: after ∧
        (∀ earlier ∈ before, Writable observations earlier) ∧
        obstacle? observations o.descriptor.name = some fault := by
  cases hfault : observations.findSome? fun o => obstacle? observations o.descriptor.name with
  | none =>
    left
    intro o ho
    exact obstacle?_eq_none_iff.mp (List.findSome?_eq_none_iff.mp hfault o ho)
  | some fault =>
    right
    obtain ⟨before, o, after, hsplit, ho, hbefore⟩ := List.findSome?_eq_some_iff.mp hfault
    exact ⟨before, o, after, fault, hsplit,
      fun earlier hmem => obstacle?_eq_none_iff.mp (hbefore earlier hmem), ho⟩

theorem render_eq_ok_iff :
    (∃ text, render observations = .ok text) ↔ ∀ o ∈ observations, Writable observations o := by
  constructor
  · rintro ⟨text, htext⟩
    rcases writable_or_obstacle observations with
      hall | ⟨before, o, after, fault, hsplit, hbefore, ho⟩
    · exact hall
    · rw [render_of_obstacle hsplit hbefore ho] at htext
      cases htext
  · exact render_of_writable

theorem render_eq_error_iff {fault : RenderFault} :
    render observations = .error fault ↔
      ∃ before o after, observations = before ++ o :: after ∧
        (∀ earlier ∈ before, Writable observations earlier) ∧
        obstacle? observations o.descriptor.name = some fault := by
  constructor
  · intro hfault
    rcases writable_or_obstacle observations with
      hall | ⟨before, o, after, first, hsplit, hbefore, ho⟩
    · obtain ⟨text, htext⟩ := render_of_writable hall
      rw [htext] at hfault
      cases hfault
    · rw [render_of_obstacle hsplit hbefore ho] at hfault
      cases hfault
      exact ⟨before, o, after, hsplit, hbefore, ho⟩
  · rintro ⟨before, o, after, hsplit, hbefore, ho⟩
    exact render_of_obstacle hsplit hbefore ho

theorem obstacle?_eq_unnamed_iff {name : String} :
    obstacle? observations name = some .unnamed ↔ name = "" := by
  unfold obstacle?
  by_cases hname : name = ""
  · simp [hname]
  · by_cases hkind : declaredKind observations name = some .untyped <;> simp [hname, hkind]

theorem obstacle?_eq_untyped_iff {name : String} :
    obstacle? observations name = some .untyped ↔
      name ≠ "" ∧ declaredKind observations name = some .untyped := by
  unfold obstacle?
  by_cases hname : name = ""
  · simp [hname]
  · by_cases hkind : declaredKind observations name = some .untyped <;> simp [hname, hkind]

end

theorem declaredKind_of_first {before : List Observation} {o : Observation}
    (h : ∀ earlier ∈ before, earlier.descriptor.name ≠ o.descriptor.name)
    (after : List Observation) :
    declaredKind (before ++ o :: after) o.descriptor.name = some o.descriptor.kind := by
  have hbefore : named o.descriptor.name before = [] := by
    apply List.filter_eq_nil_iff.mpr
    intro earlier hmem
    simpa using (h earlier hmem).symm
  have hnamed : named o.descriptor.name (before ++ o :: after) =
      o :: named o.descriptor.name after := by
    rw [named, List.filter_append, ← named, ← named, hbefore, named_cons_self, List.nil_append]
  rw [declaredKind, hnamed]
  rfl

-- An observation whose declared kind is in the way, and before which all can be
-- written, is the first of its name.
theorem obstacle?_of_opening {before after : List Observation} {o : Observation}
    (hbefore : ∀ earlier ∈ before, Writable (before ++ o :: after) earlier) :
    obstacle? (before ++ o :: after) o.descriptor.name = some .untyped ↔
      o.descriptor.name ≠ "" ∧ o.descriptor.kind = .untyped ∧
        ∀ earlier ∈ before, earlier.descriptor.name ≠ o.descriptor.name := by
  rw [obstacle?_eq_untyped_iff]
  constructor
  · rintro ⟨hname, hkind⟩
    have hfirst : ∀ earlier ∈ before, earlier.descriptor.name ≠ o.descriptor.name := by
      intro earlier hmem heq
      exact (hbefore earlier hmem).2 (heq ▸ hkind)
    rw [declaredKind_of_first hfirst] at hkind
    exact ⟨hname, Option.some.inj hkind, hfirst⟩
  · rintro ⟨hname, hkind, hfirst⟩
    exact ⟨hname, by rw [declaredKind_of_first hfirst, hkind]⟩

-- A text is had exactly if every observation has a name and no name is declared with
-- the kind that promises nothing. Else the first observation that is in the way
-- decides: one without a name makes rendering return a fault, and one that opens a
-- name with that kind makes it break off. Counters and gauges never do.
theorem render_breaks_off (observations : List Observation) :
    (BreaksOff (render observations) ↔ ∃ before o after, observations = before ++ o :: after ∧
      o.descriptor.name ≠ "" ∧ o.descriptor.kind = .untyped ∧
      (∀ earlier ∈ before, earlier.descriptor.name ≠ o.descriptor.name) ∧
      ∀ earlier ∈ before, Writable observations earlier) ∧
    (render observations = .error .unnamed ↔
      ∃ before o after, observations = before ++ o :: after ∧ o.descriptor.name = "" ∧
        ∀ earlier ∈ before, Writable observations earlier) ∧
    ((∃ text, render observations = .ok text) ↔ ∀ o ∈ observations, Writable observations o) ∧
    ((∀ o ∈ observations, o.descriptor.kind ≠ .untyped) → ¬ BreaksOff (render observations)) := by
  have hbreaks : BreaksOff (render observations) ↔
      ∃ before o after, observations = before ++ o :: after ∧
        o.descriptor.name ≠ "" ∧ o.descriptor.kind = .untyped ∧
        (∀ earlier ∈ before, earlier.descriptor.name ≠ o.descriptor.name) ∧
        ∀ earlier ∈ before, Writable observations earlier := by
    rw [BreaksOff, render_eq_error_iff]
    constructor
    · rintro ⟨before, o, after, rfl, hbefore, ho⟩
      obtain ⟨hname, hkind, hfirst⟩ := (obstacle?_of_opening hbefore).mp ho
      exact ⟨before, o, after, rfl, hname, hkind, hfirst, hbefore⟩
    · rintro ⟨before, o, after, rfl, hname, hkind, hfirst, hbefore⟩
      exact ⟨before, o, after, rfl, hbefore,
        (obstacle?_of_opening hbefore).mpr ⟨hname, hkind, hfirst⟩⟩
  refine ⟨hbreaks, ?_, render_eq_ok_iff, ?_⟩
  · rw [render_eq_error_iff]
    simp only [obstacle?_eq_unnamed_iff]
    constructor
    · rintro ⟨before, o, after, hsplit, hbefore, hname⟩
      exact ⟨before, o, after, hsplit, hname, hbefore⟩
    · rintro ⟨before, o, after, hsplit, hname, hbefore⟩
      exact ⟨before, o, after, hsplit, hbefore, hname⟩
  · intro hkinds hbroken
    obtain ⟨before, o, after, hsplit, -, hkind, -⟩ := hbreaks.mp hbroken
    exact hkinds o (hsplit ▸ List.mem_append_cons_self) hkind

-- One observation of a kind that promises nothing.
def unpromised : List Observation :=
  [⟨⟨"up", "Server up.", [], .untyped⟩, .ofNat 1, [], by decide⟩]

theorem render_unpromised : BreaksOff (render unpromised) ∧
    ¬ ∃ text, render unpromised = .ok text := by
  have hbroken : render unpromised = .error .untyped := rfl
  refine ⟨hbroken, ?_⟩
  rintro ⟨text, htext⟩
  rw [hbroken] at htext
  cases htext

end SysExporter.Metric
