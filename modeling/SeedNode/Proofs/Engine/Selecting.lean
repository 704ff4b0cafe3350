import SeedNode.Proofs.Engine.Loading

/-!
# Which entry point is selected

Of the entry points of one name, only the last that is enumerated is left to be found. So the
candidates for a name are all entry points of that name, and without a name they are all that are
installed, provided that these share one name (`rivals`). The last candidate is loaded, and where
there is none a report says why (`run_loadFactory_of_last`, `run_loadFactory_of_no_rivals`). Which
one is last is a matter of the enumeration. Selection is therefore unambiguous just if the
candidates come to the same when they are loaded (`selection_unambiguous_iff`).
-/

namespace SeedNode.Plugin

variable {τ : Type} {registry : Registry τ} {name asked' : Option String} {wanted n : String}
  {installed order : List EntryPoint} {e a : EntryPoint} {records : List Record}

/-! ## One entry point for each name -/

theorem name_of_last (e : EntryPoint) (rest : List EntryPoint) :
    ((rest.filter (·.name == e.name)).getLast?.getD e).name = e.name := by
  cases hlast : (rest.filter (·.name == e.name)).getLast? with
  | none => rfl
  | some last => exact beq_iff_eq.mp (List.mem_filter.mp (List.mem_of_getLast? hlast)).2

/-- Of the entry points of one name, the last is left. -/
theorem find?_distinct (installed : List EntryPoint) (wanted : String) :
    (distinct installed).find? (·.name == wanted)
      = (installed.filter (·.name == wanted)).getLast? := by
  induction installed with
  | nil => rfl
  | cons e rest ih =>
      have hlast := name_of_last e rest
      rw [distinct, List.find?_cons, hlast, List.filter_cons]
      by_cases hname : e.name = wanted
      · rw [beq_iff_eq.mpr hname, if_pos rfl, List.getLast?_cons, hname]
      · have hother : (e.name == wanted) = false := beq_eq_false_iff_ne.mpr hname
        -- what is left out goes by the name of `e`, so none of it is wanted
        have hskip : (fun x : EntryPoint => decide ((x.name != e.name) = true
            ∧ (x.name == wanted) = true)) = fun x => x.name == wanted := by
          funext x
          by_cases hx : x.name = wanted
          · simp [hx, Ne.symm hname]
          · simp [hx]
        rw [hother, if_neg Bool.false_ne_true, ← ih, List.find?_filter, hskip]

theorem mem_names_distinct :
    n ∈ (distinct installed).map (·.name) ↔ n ∈ installed.map (·.name) := by
  have hnamed : ∀ l : List EntryPoint,
      n ∈ l.map (·.name) ↔ l.find? (·.name == n) ≠ none := by
    intro l
    simp [List.find?_eq_none]
  rw [hnamed, find?_distinct, ne_eq, List.getLast?_eq_none_iff, List.filter_eq_nil_iff]
  simp

theorem nodup_names_distinct (installed : List EntryPoint) :
    ((distinct installed).map (·.name)).Nodup := by
  induction installed with
  | nil => exact List.nodup_nil
  | cons e rest ih =>
      rw [distinct, List.map_cons, List.nodup_cons, name_of_last]
      refine ⟨fun hmem => ?_, (List.filter_sublist.map _).nodup ih⟩
      obtain ⟨x, hx, hname⟩ := List.mem_map.mp hmem
      exact bne_iff_ne.mp (List.mem_filter.mp hx).2 hname

/-! ## Candidates -/

/-- All of the entry points have one name. -/
def Uniform (installed : List EntryPoint) : Prop :=
  ∀ a ∈ installed, ∀ b ∈ installed, a.name = b.name

instance : Decidable (Uniform installed) :=
  inferInstanceAs (Decidable (∀ a ∈ installed, ∀ b ∈ installed, a.name = b.name))

/-- Where every name is that of one entry point, only one can have the name of all. -/
theorem length_le_one_of_uniform (huniform : Uniform installed)
    (hnames : (installed.map (·.name)).Nodup) : installed.length ≤ 1 := by
  match installed with
  | [] => exact Nat.zero_le 1
  | [_] => exact Nat.le_refl 1
  | a :: b :: rest =>
      have hsame : a.name = b.name := huniform a (by simp) b (by simp)
      simp [hsame] at hnames

/-- The entry points that may be loaded for a name, or without one. -/
def rivals (installed : List EntryPoint) : Option String → List EntryPoint
  | some wanted => installed.filter (·.name == wanted)
  | none => if Uniform installed then installed else []

/-- What is reported where no entry point can be loaded. -/
def refusal (installed : List EntryPoint) : Option String → Failure
  | some wanted => failed s!"Network engine '{wanted}' is not installed"
  | none =>
    if installed = [] then
      failed "No network engine installed (entry point group 'bootstrapd.engines')"
    else
      let names := ", ".intercalate (((distinct installed).map (·.name)).mergeSort (· ≤ ·))
      failed (s!"Several network engines installed ({names}), "
        ++ "set BOOTSTRAPD_NETWORK_ENGINE to pick one")

theorem distinct_eq_nil : distinct installed = [] ↔ installed = [] := by
  cases installed <;> simp [distinct]

/-- Entry points that share one name come down to the last of them. -/
theorem distinct_of_uniform (huniform : Uniform installed) (hlast : installed.getLast? = some e) :
    distinct installed = [e] := by
  have hall : installed.filter (·.name == e.name) = installed :=
    List.filter_eq_self.mpr fun x hx =>
      beq_iff_eq.mpr (huniform x hx e (List.mem_of_getLast? hlast))
  have hfound := find?_distinct installed e.name
  rw [hall, hlast] at hfound
  have huniform' : Uniform (distinct installed) := by
    have hsame : ∀ x ∈ distinct installed, x.name = e.name := by
      intro x hx
      obtain ⟨y, hy, hname⟩ := List.mem_map.mp (mem_names_distinct.mp (List.mem_map_of_mem hx))
      exact hname.symm.trans (huniform y hy e (List.mem_of_getLast? hlast))
    exact fun a ha b hb => (hsame a ha).trans (hsame b hb).symm
  have hlength := length_le_one_of_uniform huniform' (nodup_names_distinct installed)
  rcases hdistinct : distinct installed with _ | ⟨x, _ | ⟨y, rest⟩⟩
  · rw [hdistinct] at hfound
    cases hfound
  · rw [hdistinct, List.find?_singleton] at hfound
    split at hfound
    · rw [Option.some.inj hfound]
    · cases hfound
  · simp [hdistinct] at hlength

theorem several_of_not_uniform (h : ¬Uniform installed) :
    ∃ x y rest, distinct installed = x :: y :: rest := by
  rcases hdistinct : distinct installed with _ | ⟨x, _ | ⟨y, rest⟩⟩
  · rw [distinct_eq_nil.mp hdistinct] at h
    exact absurd (fun a ha => absurd ha List.not_mem_nil) h
  · refine absurd (fun a ha b hb => ?_) h
    have honly : ∀ z ∈ installed, z.name = x.name := by
      intro z hz
      have hname := mem_names_distinct.mpr (List.mem_map_of_mem (f := (·.name)) hz)
      rw [hdistinct] at hname
      exact List.mem_singleton.mp hname
    exact (honly a ha).trans (honly b hb).symm
  · exact ⟨x, y, rest, rfl⟩

theorem select_of_last (h : (rivals installed asked').getLast? = some e) :
    select installed asked' = .ok e := by
  cases asked' with
  | some wanted =>
      simp only [select, find?_distinct]
      rw [show (installed.filter (·.name == wanted)).getLast? = some e from h]
  | none =>
      rw [rivals] at h
      split at h
      · rename_i huniform
        simp only [select, distinct_of_uniform huniform h]
      · cases h

theorem select_of_no_rivals (h : rivals installed asked' = []) :
    select installed asked' = .error (refusal installed asked') := by
  cases asked' with
  | some wanted =>
      have hnone : installed.filter (·.name == wanted) = [] := h
      simp only [select, find?_distinct, hnone, List.getLast?_nil]
      rfl
  | none =>
      rw [rivals] at h
      split at h
      · rename_i huniform
        subst h
        rfl
      · rename_i hdiffer
        obtain ⟨x, y, rest, hseveral⟩ := several_of_not_uniform hdiffer
        have hnonempty : installed ≠ [] := by
          rintro rfl
          cases hseveral
        simp only [select, hseveral, refusal, if_neg hnonempty]

/-! ## Loading the last candidate -/

/-- What loading comes to when an entry point has been selected. -/
def loading (registry : Registry τ) (records : List Record) (e : EntryPoint) :
    Except Failure (Factory τ) × List Record :=
  match e.load registry with
  | .error raised => (.error (if isExit raised then raised
      else failed s!"Couldn't load network engine '{e.name}': {raised.message}"), records)
  | .ok o => (instantiate e.name o, records ++ [chosenRecord e])

theorem run_loadFactory_of_last (registry : Registry τ) (hname : reference? name = none)
    (h : (rivals registry.entryPoints (asked name)).getLast? = some e) :
    (loadFactory registry name).run records = loading registry records e := by
  rw [run_loadFactory_entry hname, select_of_last h]
  rfl

theorem run_loadFactory_of_no_rivals (registry : Registry τ) (hname : reference? name = none)
    (h : rivals registry.entryPoints (asked name) = []) :
    (loadFactory registry name).run records
      = (.error (refusal registry.entryPoints (asked name)), records) := by
  rw [run_loadFactory_entry hname, select_of_no_rivals h]

/-! ## The order of enumeration -/

/-- The registry with its entry points enumerated in another way. -/
def Registry.listing (registry : Registry τ) (order : List EntryPoint) : Registry τ :=
  { registry with entryPoints := order }

/-- What an entry point leads to does not depend on the others. -/
theorem loading_listing (registry : Registry τ) (order : List EntryPoint) (records : List Record)
    (e : EntryPoint) : loading (registry.listing order) records e = loading registry records e :=
  rfl

theorem uniform_iff_of_perm (h : order.Perm installed) : Uniform order ↔ Uniform installed := by
  simp only [Uniform, h.mem_iff]

theorem rivals_perm (h : order.Perm installed) (asked' : Option String) :
    (rivals order asked').Perm (rivals installed asked') := by
  cases asked' with
  | some wanted => exact h.filter _
  | none =>
      rw [rivals, rivals]
      by_cases huniform : Uniform installed
      · rwa [if_pos huniform, if_pos ((uniform_iff_of_perm h).mpr huniform)]
      · rw [if_neg huniform, if_neg fun hu => huniform ((uniform_iff_of_perm h).mp hu)]

theorem pairwise_sorted (names : List String) :
    (names.mergeSort (· ≤ ·)).Pairwise fun a b => decide (a ≤ b) = true := by
  refine List.pairwise_mergeSort (fun a b c hab hbc => ?_) (fun a b => ?_) names
  · exact decide_eq_true (String.le_trans (of_decide_eq_true hab) (of_decide_eq_true hbc))
  · simpa using String.le_total a b

/-- A report names the installed entry points in alphabetical order. -/
theorem refusal_perm (h : order.Perm installed) (asked' : Option String) :
    refusal order asked' = refusal installed asked' := by
  cases asked' with
  | some wanted => rfl
  | none =>
      have hempty : order = [] ↔ installed = [] := by
        rw [← List.length_eq_zero_iff, h.length_eq, List.length_eq_zero_iff]
      have hnames : ((distinct order).map (·.name)).Perm ((distinct installed).map (·.name)) := by
        rw [List.perm_ext_iff_of_nodup (nodup_names_distinct _) (nodup_names_distinct _)]
        intro n
        rw [mem_names_distinct, mem_names_distinct, (h.map (·.name)).mem_iff]
      -- both lists are sorted, so they are the same as soon as they hold the same names
      have hsorted : ((distinct order).map (·.name)).mergeSort (· ≤ ·)
          = ((distinct installed).map (·.name)).mergeSort (· ≤ ·) := by
        refine List.Perm.eq_of_pairwise (fun a b _ _ hab hba => ?_) (pairwise_sorted _)
          (pairwise_sorted _) ?_
        · exact String.le_antisymm (of_decide_eq_true hab) (of_decide_eq_true hba)
        · exact ((List.mergeSort_perm _ _).trans hnames).trans (List.mergeSort_perm _ _).symm
      simp only [refusal, hempty, hsorted]

/-- Every candidate is the last one in some enumeration. -/
theorem last_in_some_order (h : a ∈ rivals installed asked') :
    ∃ order, order.Perm installed ∧ (rivals order asked').getLast? = some a := by
  have hmem : a ∈ installed := by
    cases asked' with
    | some wanted => exact (List.mem_filter.mp h).1
    | none =>
        rw [rivals] at h
        split at h
        · exact h
        · cases h
  -- the candidate is taken out and put last
  have hperm : (installed.erase a ++ [a]).Perm installed :=
    (List.perm_append_singleton a _).trans (List.perm_cons_erase hmem).symm
  refine ⟨_, hperm, ?_⟩
  cases asked' with
  | some wanted =>
      have hkept : [a].filter (·.name == wanted) = [a] := by
        simpa using beq_iff_eq.mp (List.mem_filter.mp h).2
      rw [rivals, List.filter_append, hkept]
      exact List.getLast?_concat
  | none =>
      rw [rivals] at h
      split at h
      · rename_i huniform
        rw [rivals, if_pos ((uniform_iff_of_perm hperm).mpr huniform)]
        exact List.getLast?_concat
      · cases h

/-- Loading does not depend on the order of enumeration just if the candidates come to the same. -/
theorem order_irrelevant_iff (registry : Registry τ) (hname : reference? name = none)
    (records : List Record) :
    (∀ order : List EntryPoint, order.Perm registry.entryPoints →
        (loadFactory (registry.listing order) name).run records
          = (loadFactory registry name).run records)
      ↔ ∀ a ∈ rivals registry.entryPoints (asked name),
        ∀ b ∈ rivals registry.entryPoints (asked name),
        loading registry records a = loading registry records b := by
  constructor
  · intro h
    -- each candidate is loaded in some order, and all orders come to the same
    have hwhole : ∀ a ∈ rivals registry.entryPoints (asked name),
        loading registry records a = (loadFactory registry name).run records := by
      intro a ha
      obtain ⟨order, hperm, hlast⟩ := last_in_some_order ha
      rw [← h order hperm]
      exact (run_loadFactory_of_last (registry.listing order) hname hlast).symm
    exact fun a ha b hb => (hwhole a ha).trans (hwhole b hb).symm
  · intro h order hperm
    have hrivals := rivals_perm hperm (asked name)
    cases hlast : (rivals order (asked name)).getLast? with
    | none =>
        have hnone : rivals order (asked name) = [] := List.getLast?_eq_none_iff.mp hlast
        have hnone' : rivals registry.entryPoints (asked name) = [] :=
          List.nil_perm.mp (hnone ▸ hrivals)
        rw [run_loadFactory_of_no_rivals (registry.listing order) hname hnone,
          run_loadFactory_of_no_rivals registry hname hnone', ← refusal_perm hperm]
        rfl
    | some a =>
        obtain ⟨b, hb⟩ : ∃ b, (rivals registry.entryPoints (asked name)).getLast? = some b := by
          cases hlast' : (rivals registry.entryPoints (asked name)).getLast? with
          | some b => exact ⟨b, rfl⟩
          | none =>
              rw [List.getLast?_eq_none_iff.mp hlast'] at hrivals
              rw [hrivals.eq_nil] at hlast
              cases hlast
        rw [run_loadFactory_of_last (registry.listing order) hname hlast,
          run_loadFactory_of_last registry hname hb, loading_listing]
        exact h a (hrivals.mem_iff.mp (List.mem_of_getLast? hlast)) b (List.mem_of_getLast? hb)

/-! ## The law -/

theorem rivals_sublist (installed : List EntryPoint) (asked' : Option String) :
    (rivals installed asked').Sublist installed := by
  cases asked' with
  | some wanted => exact List.filter_sublist
  | none =>
      rw [rivals]
      split
      · exact List.Sublist.refl _
      · exact List.nil_sublist _

theorem rivals_uniform (installed : List EntryPoint) (asked' : Option String) :
    Uniform (rivals installed asked') := by
  cases asked' with
  | some wanted =>
      intro a ha b hb
      exact (beq_iff_eq.mp (List.mem_filter.mp ha).2).trans
        (beq_iff_eq.mp (List.mem_filter.mp hb).2).symm
  | none =>
      rw [rivals]
      split
      · assumption
      · exact fun a ha => absurd ha List.not_mem_nil

theorem rivals_named_ne_nil_iff :
    rivals installed (some wanted) ≠ [] ↔ ∃ e ∈ installed, e.name = wanted := by
  rw [rivals, ne_eq, List.filter_eq_nil_iff]
  simp

theorem rivals_unnamed_ne_nil_iff :
    rivals installed none ≠ [] ↔ installed ≠ [] ∧ Uniform installed := by
  rw [rivals]
  split
  · rename_i huniform
    exact ⟨fun h => ⟨h, huniform⟩, And.left⟩
  · rename_i hdiffer
    exact ⟨fun h => absurd rfl h, fun h => absurd h.2 hdiffer⟩

/-- Selecting an entry point, for a name that is no reference. The last candidate is loaded, and
where there is none a report says so. The candidates for a name are the installed entry points of
that name. Without a name there are candidates just if the installed entry points have one name, so
that one is loaded only if just one is installed, unless several share their name. The order in
which they are enumerated is irrelevant just if the candidates come to the same, as where no two
installed entry points share a name. -/
theorem selection_unambiguous_iff (registry : Registry τ) (hname : reference? name = none)
    (records : List Record) :
    let installed := registry.entryPoints
    let candidates := rivals installed (asked name)
    let outcome := (loadFactory registry name).run records
    (∀ e, candidates.getLast? = some e → outcome = loading registry records e)
      ∧ (candidates = [] →
        outcome = (.error (refusal installed (asked name)), records))
      ∧ (∀ wanted, asked name = some wanted → (∀ e ∈ candidates, e.name = wanted)
        ∧ (candidates ≠ [] ↔ ∃ e ∈ installed, e.name = wanted))
      ∧ (asked name = none → (candidates ≠ [] ↔ installed ≠ [] ∧ Uniform installed)
        ∧ ((candidates ≠ [] → installed.length = 1)
          ↔ ¬(1 < installed.length ∧ Uniform installed)))
      ∧ ((∀ order : List EntryPoint, order.Perm installed →
          (loadFactory (registry.listing order) name).run records = outcome)
        ↔ ∀ a ∈ candidates, ∀ b ∈ candidates,
          loading registry records a = loading registry records b)
      ∧ ((installed.map (·.name)).Nodup → candidates.length ≤ 1) := by
  intro installed candidates outcome
  refine ⟨fun e => run_loadFactory_of_last registry hname,
    run_loadFactory_of_no_rivals registry hname, fun wanted hasked => ?_, fun hasked => ?_,
    order_irrelevant_iff registry hname records, fun hnames => ?_⟩
  · simp only [candidates, hasked]
    exact ⟨fun e he => beq_iff_eq.mp (List.mem_filter.mp he).2, rivals_named_ne_nil_iff⟩
  · simp only [candidates, hasked, rivals_unnamed_ne_nil_iff, true_and]
    rw [← List.length_pos_iff]
    constructor
    · rintro honly ⟨hseveral, huniform⟩
      exact absurd (honly ⟨by omega, huniform⟩) (by omega)
    · rintro hnot ⟨hsome, huniform⟩
      exact Nat.le_antisymm (Nat.not_lt.mp fun hseveral => hnot ⟨hseveral, huniform⟩) hsome
  · exact length_le_one_of_uniform (rivals_uniform installed _)
      (((rivals_sublist installed _).map _).nodup hnames)

/-! ## Entry points that share a name -/

/-- A factory with keys of a given size that makes no engines. -/
def barren (size : Int) : Factory Unit where
  sizes := ⟨size, size⟩
  generateKeypair _ := .error (.fault (.raised "NotImplementedError" "no keys"))
  create _ := .error (.fault (.raised "NotImplementedError" "no engine"))

/-- Two packages that call their engines the same. -/
def twins : Registry Unit where
  entryPoints := [⟨"only", "toy_engine:short"⟩, ⟨"only", "toy_engine:long"⟩]
  load _ := .ok (.other "module 'toy_engine'"
    [("short", .factory "'Factory' object" [] (barren 16)),
      ("long", .factory "'Factory' object" [] (barren 32))])

theorem selection_unambiguous_iff_for_twins :
    reference? none = none
      ∧ (loadFactory twins none).run [] = loading twins [] ⟨"only", "toy_engine:long"⟩
      ∧ ¬∀ order : List EntryPoint, order.Perm twins.entryPoints →
        (loadFactory (twins.listing order) none).run [] = (loadFactory twins none).run [] := by
  have hname : reference? none = none := rfl
  obtain ⟨hlast, -, -, -, horder, -⟩ := selection_unambiguous_iff twins hname []
  refine ⟨hname, hlast _ (by decide), fun h => ?_⟩
  have hsame := horder.mp h ⟨"only", "toy_engine:short"⟩ (by decide)
    ⟨"only", "toy_engine:long"⟩ (by decide)
  have hsizes := congrArg (fun result => result.1.map (·.sizes)) hsame
  cases hsizes

/-- Where two entry points of one name are installed, one of them is loaded without having been
named. It is the other if they are enumerated the other way round, and so it is where the name is
given. -/
theorem selection_depends_on_order :
    twins.entryPoints.length = 2
      ∧ ((loadFactory twins none).run []).1.map (·.sizes) = .ok ⟨32, 32⟩
      ∧ ((loadFactory (twins.listing twins.entryPoints.reverse) none).run []).1.map (·.sizes)
        = .ok ⟨16, 16⟩
      ∧ ((loadFactory twins (some "only")).run []).1.map (·.sizes) = .ok ⟨32, 32⟩
      ∧ ((loadFactory (twins.listing twins.entryPoints.reverse) (some "only")).run []).1.map
        (·.sizes) = .ok ⟨16, 16⟩ :=
  ⟨rfl, rfl, rfl, rfl, rfl⟩

end SeedNode.Plugin
