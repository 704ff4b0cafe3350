import SeedNode.Engine.Plugin
import SeedNode.Proofs.Effects

/-!
# What gets out of loading an engine

Loading should end with a factory or with a report of the network stage. A reference is checked
before it is followed, and what an entry point leads to is caught, but two steps let a plugin's own
failures through: importing the module of a reference, unless what is raised descends from
`ImportError`, and calling what makes a factory, however that was named. Besides these, what does
not descend from `Exception` is not held back when an entry point is loaded. `Escapes` says which
failures these are, and no other gets out (`loadFactory_contained`).
-/

namespace SeedNode.Plugin

variable {τ : Type} {registry : Registry τ} {name : Option String} {reference label : String}
  {entry : EntryPoint} {o : Object τ} {f : Factory τ} {e : Failure}

theorem failed_ne (hnetwork : e.isReportOf .network = false) (message : String) :
    failed message ≠ e := by
  rintro rfl
  cases hnetwork

/-! ## Classes that count -/

/-- A class that a plugin derives from another. -/
def derived (name : String) (base : Kind) : Kind :=
  ⟨name, base.lineage⟩

theorem isExit_iff : isExit e = true ↔
    ∃ kind text, kind.descendsFrom "Exception" = false ∧ e = .fault (.raised kind text) := by
  constructor
  · intro h
    cases e with
    | fault f =>
        cases f with
        | raised kind text => exact ⟨kind, text, by simpa [isExit] using h, rfl⟩
        | _ => cases h
    | _ => cases h
  · rintro ⟨kind, text, h, rfl⟩
    simp [isExit, h]

/-- A plugin may have an import error of its own, and something else that it calls so. -/
example :
    isImportFailure (.fault (.raised (derived "PluginMissing" "ModuleNotFoundError") "")) = true
    ∧ isImportFailure (.fault (.raised (derived "ImportError" "Exception") "")) = false
    ∧ isExit (.fault (.raised (derived "CancelledError" "BaseException") "")) = true := by
  decide

/-! ## References -/

def moduleOf (reference : String) : String :=
  String.ofList (reference.toList.takeWhile (· != ':'))

def attributesOf (reference : String) : List Char :=
  (reference.toList.dropWhile (· != ':')).drop 1

/-- A part of the reference is empty. -/
def IllFormed (reference : String) : Prop :=
  moduleOf reference = "" ∨ attributesOf reference = []

theorem dereference_of_malformed (registry : Registry τ) (h : IllFormed reference) :
    dereference registry reference = .error
      (failed s!"Invalid engine reference '{reference}', expected 'module:attribute'") := by
  simp only [IllFormed, moduleOf, attributesOf] at h
  simp only [dereference, if_pos h]
  rfl

theorem dereference_of_wellFormed (registry : Registry τ) (h : ¬ IllFormed reference) :
    dereference registry reference = match registry.load (moduleOf reference) with
      | .ok found => match found.follow (dotted (attributesOf reference)) with
        | .ok o => .ok o
        | .error _ => .error (failed s!"Network engine '{reference}' not found")
      | .error e => .error (if isImportFailure e then
          failed s!"Couldn't import network engine module '{moduleOf reference}': {e.message}"
        else e) := by
  simp only [IllFormed] at h
  rw [dereference]
  change (if moduleOf reference = "" ∨ attributesOf reference = [] then _ else _) = _
  rw [if_neg h]
  change (match registry.load (moduleOf reference) with | .ok _ => _ | .error _ => _) = _
  cases registry.load (moduleOf reference) with
  | error e => rfl
  | ok found =>
      change (match found.follow (dotted (attributesOf reference)) with
        | .ok _ => _ | .error _ => _)
        = match found.follow (dotted (attributesOf reference)) with
        | .ok _ => _ | .error _ => _
      cases found.follow (dotted (attributesOf reference)) <;> rfl

/-- The reference has both of its parts, and importing its module comes to this. -/
structure Imports (registry : Registry τ) (reference : String)
    (outcome : Except Failure (Object τ)) : Prop where
  wellFormed : ¬ IllFormed reference
  load : registry.load (moduleOf reference) = outcome

theorem dereference_eq_ok :
    dereference registry reference = .ok o ↔
      ∃ found, Imports registry reference (.ok found)
        ∧ found.follow (dotted (attributesOf reference)) = .ok o := by
  by_cases hmalformed : IllFormed reference
  · rw [dereference_of_malformed registry hmalformed]
    constructor
    · intro h
      cases h
    · rintro ⟨found, himports, -⟩
      exact absurd hmalformed himports.wellFormed
  rw [dereference_of_wellFormed registry hmalformed]
  constructor
  · intro h
    split at h
    case h_2 => cases h
    case h_1 found hload =>
      split at h
      case h_2 => cases h
      case h_1 target hfollow =>
        rw [Except.ok.inj h] at hfollow
        exact ⟨found, ⟨hmalformed, hload⟩, hfollow⟩
  · rintro ⟨found, himports, hfollow⟩
    rw [himports.load]
    simp only [hfollow]

/-- A failure of a reference is reported, unless the module raised it and is there to import. -/
theorem dereference_eq_error (hnetwork : e.isReportOf .network = false) :
    dereference registry reference = .error e ↔
      Imports registry reference (.error e) ∧ isImportFailure e = false := by
  by_cases hmalformed : IllFormed reference
  · rw [dereference_of_malformed registry hmalformed]
    constructor
    · exact fun h => absurd (Except.error.inj h) (failed_ne hnetwork _)
    · rintro ⟨himports, -⟩
      exact absurd hmalformed himports.wellFormed
  rw [dereference_of_wellFormed registry hmalformed]
  constructor
  · intro h
    split at h
    case h_1 =>
      split at h
      case h_1 => cases h
      case h_2 => exact absurd (Except.error.inj h) (failed_ne hnetwork _)
    case h_2 raised hload =>
      have hraised := Except.error.inj h
      split at hraised
      case isTrue => exact absurd hraised (failed_ne hnetwork _)
      case isFalse hkind =>
        rw [hraised] at hload hkind
        exact ⟨⟨hmalformed, hload⟩, Bool.eq_false_iff.mpr hkind⟩
  · rintro ⟨himports, hkind⟩
    rw [himports.load]
    simp only [hkind, Bool.false_eq_true, if_false]

/-! ## Making a factory -/

/-- The object is a factory, or makes it. -/
inductive Provides : Object τ → Factory τ → Prop where
  | itself {shown attributes f} : Provides (.factory shown attributes f) f
  | made {shown attributes shown' attributes' f} :
      Provides (.maker shown attributes (.ok (.factory shown' attributes' f))) f

theorem instantiate_eq_ok : instantiate label o = .ok f ↔ Provides o f := by
  constructor
  · intro h
    cases o with
    | factory shown attributes g =>
        rw [← Except.ok.inj h]
        exact .itself
    | other => cases h
    | maker shown attributes made =>
        cases made with
        | error raised => cases h
        | ok made =>
            cases made with
            | factory shown' attributes' g =>
                rw [← Except.ok.inj h]
                exact .made
            | maker | other => cases h
  · rintro (_ | _) <;> rfl

/-- What a plugin raises in making an object is passed on. -/
theorem instantiate_eq_error (hnetwork : e.isReportOf .network = false) :
    instantiate label o = .error e ↔
      ∃ shown attributes, o = .maker shown attributes (.error e) := by
  constructor
  · intro h
    cases o with
    | factory => cases h
    | other => exact absurd (Except.error.inj h) (failed_ne hnetwork _)
    | maker shown attributes made =>
        cases made with
        | error raised => exact ⟨shown, attributes, by rw [Except.error.inj h]⟩
        | ok made =>
            cases made with
            | factory => cases h
            | maker | other => exact absurd (Except.error.inj h) (failed_ne hnetwork _)
  · rintro ⟨shown, attributes, rfl⟩
    rfl

/-! ## Names -/

theorem select_eq_error {installed : List EntryPoint} (h : select installed name = .error e) :
    e.isReportOf .network = true := by
  simp only [select] at h
  cases name with
  | some wanted =>
      cases hfound : (distinct installed).find? (·.name == wanted) <;> simp only [hfound] at h
      · rw [← Except.error.inj h]
        rfl
      · cases h
  | none =>
      rcases hdistinct : distinct installed with _ | ⟨entry, _ | _⟩ <;> simp only [hdistinct] at h
      case cons.nil => cases h
      all_goals
        rw [← Except.error.inj h]
        rfl

/-- What is asked for: an empty name asks for nothing. -/
def asked (name : Option String) : Option String :=
  name.filter (· != "")

/-- The reference that a name is. -/
def reference? (name : Option String) : Option String :=
  (asked name).filter fun n => n.toList.contains ':'

theorem run_loadFactory_reference (hname : reference? name = some reference)
    (records : List Record) :
    (loadFactory registry name).run records
      = (dereference registry reference >>= instantiate reference, records) := by
  simp only [reference?, asked] at hname
  simp only [loadFactory, hname]
  cases dereference registry reference >>= instantiate reference <;> rfl

/-- The record of which entry point was loaded. -/
def chosenRecord (entry : EntryPoint) : Record :=
  { level := Level.info, source,
    message := s!"Using network engine '{entry.name}' ({entry.value})" }

theorem run_loadFactory_entry (hname : reference? name = none) (records : List Record) :
    (loadFactory registry name).run records
      = match select registry.entryPoints (asked name) with
        | .error e => (.error e, records)
        | .ok entry => match entry.load registry with
          | .error e =>
            (.error (if isExit e then e
              else failed s!"Couldn't load network engine '{entry.name}': {e.message}"), records)
          | .ok o => (instantiate entry.name o, records ++ [chosenRecord entry]) := by
  simp only [reference?, asked] at hname
  simp only [loadFactory, hname, asked]
  cases select registry.entryPoints (name.filter (· != "")) with
  | error e => rfl
  | ok entry =>
      simp only [pure_bind]
      cases entry.load registry with
      | error e => rfl
      | ok o =>
          simp only [chosenRecord]
          cases instantiate entry.name o <;> rfl

/-! ## Loading -/

/-- How a name leads to an object, and what that is called in reports. -/
inductive Located (registry : Registry τ) (name : Option String) : String → Object τ → Prop where
  | named {reference : String} {found o : Object τ} (hname : reference? name = some reference)
      (himports : Imports registry reference (.ok found))
      (hfollow : found.follow (dotted (attributesOf reference)) = .ok o) :
      Located registry name reference o
  | installed {entry : EntryPoint} {o : Object τ} (hname : reference? name = none)
      (hselect : select registry.entryPoints (asked name) = .ok entry)
      (hload : entry.load registry = .ok o) :
      Located registry name entry.name o

/-- The failures of a plugin that are passed on as they were raised. -/
inductive Escapes (registry : Registry τ) (name : Option String) (e : Failure) : Prop where
  /-- What makes a factory fails, whichever way it was named. -/
  | making {label shown : String} {attributes : List (String × Object τ)}
      (hlocated : Located registry name label (.maker shown attributes (.error e)))
  /-- The module of a reference raises something that does not descend from `ImportError`. -/
  | importing {reference : String} (hname : reference? name = some reference)
      (himports : Imports registry reference (.error e))
      (hother : e.hasRaised "ImportError" = false)
  /-- An entry point raises something that does not descend from `Exception`. -/
  | ending {entry : EntryPoint} {kind : Kind} {text : String} (hname : reference? name = none)
      (hselect : select registry.entryPoints (asked name) = .ok entry)
      (hload : entry.load registry = .error e) (hraised : e = .fault (.raised kind text))
      (hkind : kind.descendsFrom "Exception" = false)

theorem loadFactory_eq_ok (records : List Record) :
    ((loadFactory registry name).run records).1 = .ok f ↔
      ∃ label o, Located registry name label o ∧ Provides o f := by
  cases hname : reference? name with
  | some reference =>
      rw [run_loadFactory_reference hname, except_bind_eq_ok]
      constructor
      · rintro ⟨o, hdereference, hinstantiate⟩
        obtain ⟨found, himports, hfollow⟩ := dereference_eq_ok.mp hdereference
        exact ⟨reference, o, .named hname himports hfollow, instantiate_eq_ok.mp hinstantiate⟩
      · rintro ⟨label, o, hlocated, hprovides⟩
        cases hlocated with
        | named hname' himports hfollow =>
            cases hname.symm.trans hname'
            exact ⟨o, dereference_eq_ok.mpr ⟨_, himports, hfollow⟩, instantiate_eq_ok.mpr hprovides⟩
        | installed hname' => cases hname.symm.trans hname'
  | none =>
      rw [run_loadFactory_entry hname]
      constructor
      · intro h
        split at h
        case h_1 => cases h
        case h_2 entry hselect =>
          split at h
          case h_1 => cases h
          case h_2 o hload =>
            exact ⟨entry.name, o, .installed hname hselect hload, instantiate_eq_ok.mp h⟩
      · rintro ⟨label, o, hlocated, hprovides⟩
        cases hlocated with
        | named hname' => cases hname.symm.trans hname'
        | installed _ hselect hload =>
            simp only [hselect, hload]
            exact instantiate_eq_ok.mpr hprovides

theorem loadFactory_eq_error (hnetwork : e.isReportOf .network = false) (records : List Record) :
    ((loadFactory registry name).run records).1 = .error e ↔ Escapes registry name e := by
  cases hname : reference? name with
  | some reference =>
      rw [run_loadFactory_reference hname, except_bind_eq_error]
      constructor
      · rintro (hdereference | ⟨o, hdereference, hinstantiate⟩)
        · obtain ⟨himports, hkind⟩ := (dereference_eq_error hnetwork).mp hdereference
          exact .importing hname himports hkind
        · obtain ⟨found, himports, hfollow⟩ := dereference_eq_ok.mp hdereference
          obtain ⟨shown, attributes, rfl⟩ := (instantiate_eq_error hnetwork).mp hinstantiate
          exact .making (.named hname himports hfollow)
      · rintro (hlocated | ⟨hname', himports, hkind⟩ | ⟨hname'⟩)
        · cases hlocated with
          | named hname' himports hfollow =>
              cases hname.symm.trans hname'
              exact .inr ⟨_, dereference_eq_ok.mpr ⟨_, himports, hfollow⟩, rfl⟩
          | installed hname' => cases hname.symm.trans hname'
        · cases hname.symm.trans hname'
          exact .inl ((dereference_eq_error hnetwork).mpr ⟨himports, hkind⟩)
        · cases hname.symm.trans hname'
  | none =>
      rw [run_loadFactory_entry hname]
      constructor
      · intro h
        split at h
        case h_1 raised hselect =>
          rw [Except.error.inj h] at hselect
          rw [select_eq_error hselect] at hnetwork
          cases hnetwork
        case h_2 entry hselect =>
          split at h
          case h_1 raised hload =>
            have hraised := Except.error.inj h
            split at hraised
            case isTrue hkind =>
              rw [hraised] at hload hkind
              obtain ⟨kind, text, hexit, hraised⟩ := isExit_iff.mp hkind
              exact .ending hname hselect hload hraised hexit
            case isFalse => exact absurd hraised (failed_ne hnetwork _)
          case h_2 o hload =>
            obtain ⟨shown, attributes, rfl⟩ := (instantiate_eq_error hnetwork).mp h
            exact .making (.installed hname hselect hload)
      · rintro (hlocated | ⟨hname'⟩ | ⟨_, hselect, hload, hraised, hkind⟩)
        · cases hlocated with
          | named hname' => cases hname.symm.trans hname'
          | installed _ hselect hload =>
              simp only [hselect, hload]
              rfl
        · cases hname.symm.trans hname'
        · have hexit : isExit e = true := isExit_iff.mpr ⟨_, _, hkind, hraised⟩
          simp only [hselect, hload, hexit, if_true]

/-- Loading ends with the factory that the object provides which the name leads to, with a report
of the network stage, or with a failure of the plugin that nothing holds back. -/
theorem loadFactory_contained (registry : Registry τ) (name : Option String)
    (records : List Record) :
    (∀ f, ((loadFactory registry name).run records).1 = .ok f ↔
      ∃ label o, Located registry name label o ∧ Provides o f)
    ∧ (∀ e, (((loadFactory registry name).run records).1 = .error e
        ∧ e.isReportOf .network = false) ↔
      (Escapes registry name e ∧ e.isReportOf .network = false)) :=
  ⟨fun _ => loadFactory_eq_ok records,
    fun _ => and_congr_left fun hnetwork => loadFactory_eq_error hnetwork records⟩

/-! ## Plugins that fail -/

/-- One module has a class that cannot be made an object of, and the rest fail when they are
imported. Relative names are refused before anything is looked for. -/
def crashing : Registry Unit where
  entryPoints := [⟨"only", "toy_engine:Exploding"⟩]
  load moduleName :=
    if moduleName.toList.head? = some '.' then
      .error (.fault (.raised "TypeError" ("the 'package' argument is required to perform a "
        ++ s!"relative import for '{moduleName}'")))
    else if moduleName = "toy_engine" then
      .ok (.other "module 'toy_engine'" [("Exploding", .maker "type object 'Exploding'" []
        (.error (.fault (.raised "ValueError" "constructor exploded"))))])
    else .error (.fault (.raised "RuntimeError" s!"{moduleName} crashed"))

/-- What a module raises gets out by a reference, and so does the refusal of a relative name. What
the making of an object raises gets out by an entry point too. -/
theorem crashing_uncontained :
    ((loadFactory crashing (some "toy_crash:Factory")).run []).1
        = .error (.fault (.raised "RuntimeError" "toy_crash crashed"))
      ∧ ((loadFactory crashing (some ".toy_engine:Factory")).run []).1
        = .error (.fault (.raised "TypeError" ("the 'package' argument is required to perform a "
          ++ "relative import for '.toy_engine'")))
      ∧ ((loadFactory crashing none).run []).1
        = .error (.fault (.raised "ValueError" "constructor exploded"))
      ∧ ∀ kind text, (Failure.fault (.raised kind text)).isReportOf .network = false :=
  ⟨rfl, rfl, rfl, fun _ _ => rfl⟩

end SeedNode.Plugin
