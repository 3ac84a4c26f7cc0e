import ImportRules.Proofs.PathSegments
/-!
# Normal forms of paths

A path is refused exactly if it climbs above its root on the way: some of its first segments hold
more steps up than names. Otherwise it has a normal form, which holds names only. Such paths are
their own normal forms and the only ones that are, and a directory may be replaced by its normal
form before a path is joined to it.
-/

namespace ImportRules.UnitPath

variable {path base normal segment : String} {kept rest front : List String} {height : Nat}

/-! ## Climbing above the root -/

/-- Number of the segments that name something. -/
def nameCount (front : List String) : Nat :=
  front.countP (· ∉ dotSegments)

/-- Number of the steps up. -/
def upCount (front : List String) : Nat :=
  front.count ".."

/-- From so many names below the root the segments lead above it. -/
def Overclimbs (height : Nat) (front : List String) : Prop :=
  height + nameCount front < upCount front

theorem not_overclimbs_nil : ¬Overclimbs height [] := by
  simp [Overclimbs, upCount]

theorem overclimbs_name_cons (hsegment : segment ∉ dotSegments) :
    Overclimbs height (segment :: front) ↔ Overclimbs (height + 1) front := by
  have hup : segment ≠ ".." := by
    intro heq
    exact hsegment (by simp [heq, dotSegments])
  simp only [Overclimbs, nameCount, upCount, List.countP_cons, List.count_cons, hsegment, hup,
    not_false_eq_true, decide_true, if_true, beq_iff_eq, if_false]
  omega

theorem overclimbs_stay_cons (hsegment : segment = "" ∨ segment = ".") :
    Overclimbs height (segment :: front) ↔ Overclimbs height front := by
  rcases hsegment with rfl | rfl
  · simp [Overclimbs, nameCount, upCount, dotSegments]
  · simp [Overclimbs, nameCount, upCount, dotSegments]

theorem overclimbs_up_cons :
    Overclimbs (height + 1) (".." :: front) ↔ Overclimbs height front := by
  simp only [Overclimbs, nameCount, upCount, List.count_cons_self]
  rw [List.countP_cons_of_neg (by simp [dotSegments])]
  omega

/-- No segments at all lead nowhere, so that the first one is among those that lead above the
root. -/
theorem exists_overclimbs_cons :
    (∃ front, front <+: segment :: rest ∧ Overclimbs height front) ↔
      ∃ front, front <+: rest ∧ Overclimbs height (segment :: front) := by
  constructor
  · rintro ⟨front, hfront, hclimbs⟩
    rcases List.prefix_cons_iff.mp hfront with rfl | ⟨behind, rfl, hbehind⟩
    · exact absurd hclimbs not_overclimbs_nil
    · exact ⟨behind, hbehind, hclimbs⟩
  · rintro ⟨front, hfront, hclimbs⟩
    exact ⟨segment :: front, List.cons_prefix_cons.mpr ⟨rfl, hfront⟩, hclimbs⟩

/-- The walk along the segments fails exactly if some of the first of them lead above the root. -/
theorem foldlM_climb_eq_none_iff :
    rest.foldlM climb kept = none ↔ ∃ front, front <+: rest ∧ Overclimbs kept.length front := by
  induction rest generalizing kept with
  | nil => simp [not_overclimbs_nil]
  | cons segment rest ih =>
      rw [exists_overclimbs_cons, List.foldlM_cons, Option.bind_eq_bind]
      by_cases hname : segment ∉ dotSegments
      · rw [climb_of_notMem hname, Option.bind_some, ih, List.length_cons]
        simp only [overclimbs_name_cons hname]
      by_cases hstay : segment = "" ∨ segment = "."
      · have hclimb : climb kept segment = some kept := by
          rcases hstay with rfl | rfl <;> rfl
        rw [hclimb, Option.bind_some, ih]
        simp only [overclimbs_stay_cons hstay]
      · obtain rfl : segment = ".." := by
          simp only [dotSegments, List.mem_cons, List.not_mem_nil, or_false, not_not] at hname
          exact (hname.resolve_left fun hempty => hstay (.inl hempty)).resolve_left
            fun hdot => hstay (.inr hdot)
        cases kept with
        | nil =>
            -- The step up fails at the root, and it leads above the root by itself.
            have hfails : climb [] ".." = none := rfl
            rw [hfails, Option.bind_none]
            refine iff_of_true rfl ⟨[], List.nil_prefix, ?_⟩
            simp [Overclimbs, nameCount, upCount, dotSegments]
        | cons name kept =>
            have hclimb : climb (name :: kept) ".." = some kept := rfl
            rw [hclimb, Option.bind_some, ih, List.length_cons]
            simp only [overclimbs_up_cons]

theorem normalize?_eq_none_iff :
    normalize? path = none ↔
      ∃ front, front <+: segments path ∧ nameCount front < upCount front := by
  rw [normalize?, Option.map_eq_none_iff, foldlM_climb_eq_none_iff]
  simp only [Overclimbs, List.length_nil, Nat.zero_add]

/-! ## Normal forms -/

/-- The path is empty or holds names only. -/
def IsNormal (path : String) : Prop :=
  path = "" ∨ IsCanonical path

theorem isNormal_of_normalize? (hnormal : normalize? path = some normal) : IsNormal normal := by
  obtain ⟨names, hnames, rfl, -⟩ := exists_names_of_normalize? hnormal
  by_cases hempty : names = []
  · left
    rw [hempty]
    rfl
  · right
    have hsegments : segments (Text.joined "/" names) = names :=
      segments_joined hempty fun name hname => (hnames name hname).2
    intro segment hsegment
    rw [hsegments] at hsegment
    exact (hnames segment hsegment).1

theorem normalize?_of_isNormal (hnormal : IsNormal path) : normalize? path = some path := by
  rcases hnormal with rfl | hcanonical
  · rfl
  · rw [normalize?, foldlM_climb_names hcanonical, Option.map_some, List.append_nil,
      List.reverse_reverse, joined_segments]

/-- A path has no normal form exactly if some of its first segments hold more steps up than names. A
normal form is empty or holds names only, and the paths of this kind are those that are their own
normal form. Where a path below a directory leads is settled by the normal form of the directory. -/
theorem normalize?_normal_form :
    (∀ path, normalize? path = none ↔
      ∃ front, front <+: segments path ∧ nameCount front < upCount front) ∧
    (∀ path normal, normalize? path = some normal →
      IsNormal normal ∧ normalize? normal = some normal) ∧
    (∀ path, normalize? path = some path ↔ IsNormal path) ∧
    ∀ base path,
      (normalize? base = none → normalize? (join base path) = none) ∧
      ∀ normal, normalize? base = some normal →
        normalize? (join base path) = normalize? (join normal path) := by
  refine ⟨fun path => normalize?_eq_none_iff, ?_, ?_, ?_⟩
  · intro path normal hnormal
    have hisNormal := isNormal_of_normalize? hnormal
    exact ⟨hisNormal, normalize?_of_isNormal hisNormal⟩
  · intro path
    exact ⟨isNormal_of_normalize?, normalize?_of_isNormal⟩
  · intro base path
    refine ⟨fun hbase => normalize?_join_eq_none hbase path, ?_⟩
    intro normal hnormal
    exact (normalize?_join_of_normalize? hnormal path).symm

/-- A detour leaves no trace in a normal form, and one step up too many has none. -/
theorem normalize?_normal_form_detour :
    normalize? "src/a/.." = some "src" ∧
      normalize? (join "src/a/.." "../b") = normalize? (join "src" "../b") ∧
      normalize? "a/../../b" = none := by
  have hbase : normalize? "src/a/.." = some "src" := by decide
  obtain ⟨hrefused, -, -, hjoin⟩ := normalize?_normal_form
  refine ⟨hbase, (hjoin "src/a/.." "../b").2 "src" hbase, ?_⟩
  exact (hrefused "a/../../b").mpr ⟨["a", "..", ".."], by decide, by decide⟩

end ImportRules.UnitPath
