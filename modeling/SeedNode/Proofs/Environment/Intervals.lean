import SeedNode.Environment.Settings
import SeedNode.Proofs.Effects
import SeedNode.Proofs.Json.Reading
import SeedNode.Proofs.Numeric.Nearest

/-!
# The time between turns

The settings tell the time between two turns of the service loop as a whole number of milliseconds,
which is at least one. Every decimal text of such a number is accepted up to the limit on digits
(`read_digits`), and that is far beyond the binary numbers, in which the loop counts. So the time in
seconds can be computed for some of the settings that are accepted and not for others
(`tickSeconds_of_lt`, `tickSeconds_of_le`).
-/

namespace SeedNode

variable {text : List Char} {c : Char} {n : Nat}

/-! ## Digits -/

/-- Whatever can be seen of each of the ten digits holds of a digit. -/
theorem of_isDigit {P : Char → Prop} (hall : ∀ m < 10, P (Char.ofNat (48 + m)))
    (h : c.isDigit = true) : P c := by
  have hrange : 48 ≤ c.toNat ∧ c.toNat ≤ 57 := by
    simpa [Char.isDigit, UInt32.le_iff_toNat_le] using h
  have hc := hall (c.toNat - 48) (by omega)
  rwa [Nat.add_sub_cancel' hrange.1, Char.ofNat_toNat] at hc

theorem Blank.trim_of_not_mem {isOne : Char → Bool} (h : ∀ c ∈ text, isOne c = false) :
    Blank.trim isOne text = text := by
  have hkept : ∀ cs : List Char, (∀ c ∈ cs, isOne c = false) → cs.dropWhile isOne = cs := by
    rintro (_ | ⟨c, cs⟩) hcs
    · rfl
    · rw [List.dropWhile_cons_of_neg (by simp [hcs c List.mem_cons_self])]
  have hreverse : ∀ c ∈ text.reverse, isOne c = false := fun c hc => h c (List.mem_reverse.mp hc)
  rw [Blank.trim, Blank.trimEnd, hkept text h, hkept _ hreverse, List.reverse_reverse]

theorem Reading.ungroup_of_not_mem (h : '_' ∉ text) : Reading.ungroup text = some text := by
  induction text with
  | nil => rfl
  | cons c rest ih =>
      rw [List.mem_cons, not_or] at h
      cases rest with
      | nil =>
          rw [ungroup]
          exact Ne.symm h.1
      | cons d rest =>
          rw [ungroup, ih h.2]
          · rfl
          · exact Ne.symm h.1
          · exact List.cons_ne_nil d rest
          · rintro rest' heq
            exact h.2 (heq ▸ List.mem_cons_self)

namespace IntegerText

/-- A text of digits has nothing to be dropped if it does not begin with a zero. -/
theorem cleaned?_digits (hdigits : ∀ c ∈ text, c.isDigit = true) (hsome : text ≠ [])
    (hhead : text.head? ≠ some '0') : cleaned? text = some text := by
  have hblank : ∀ c ∈ text, Blank.isBlank c = false := fun c hc =>
    of_isDigit (P := fun c => Blank.isBlank c = false) (by decide) (hdigits c hc)
  have hpoint : text.dropWhile (· != '.') = [] :=
    List.dropWhile_eq_nil_iff.mpr fun c hc =>
      of_isDigit (P := fun c => (c != '.') = true) (by decide) (hdigits c hc)
  have hgroup : '_' ∉ text := fun hmem => absurd (hdigits _ hmem) (by decide)
  have hsign : Reading.sign text = (false, text) := by
    rw [Reading.sign]
    · rintro rest rfl
      exact absurd (hdigits _ List.mem_cons_self) (by decide)
    · rintro rest rfl
      exact absurd (hdigits _ List.mem_cons_self) (by decide)
  have hunpadded : unpadded? text = some text := by
    obtain ⟨c, rest, rfl⟩ := List.exists_cons_of_ne_nil hsome
    have hc : ¬c = '0' := fun heq => hhead (heq ▸ rfl)
    rw [unpadded?, if_neg hc, if_pos (hdigits c List.mem_cons_self)]
  have hwhole : withoutFraction? text = some text := by
    rw [withoutFraction?, hpoint]
  rw [cleaned?, Blank.trim_of_not_mem hblank, hsign]
  simp only [hunpadded, Option.bind_eq_bind, Option.bind_some, Bool.false_eq_true, if_false, hwhole,
    Reading.ungroup_of_not_mem hgroup]
  rfl

theorem split_digits (hdigits : ∀ c ∈ text, c.isDigit = true) : split text = (false, text, []) := by
  have hwhole : text.takeWhile Char.isDigit = text := List.takeWhile_eq_self_iff.mpr hdigits
  have hnone : text.dropWhile Char.isDigit = [] := List.dropWhile_eq_nil_iff.mpr hdigits
  rw [split, hwhole, hnone]
  rintro rest rfl
  exact absurd (hdigits _ List.mem_cons_self) (by decide)

end IntegerText

namespace ProcessSettings

variable {environment : Variables} {files : Tree} {settings : ProcessSettings}

/-! ## Texts of numbers -/

theorem head?_toDigits (hn : 0 < n) : (Nat.toDigits 10 n).head? ≠ some '0' := by
  intro h
  have hshort := Json.Reader.length_of_leading_zero n h
  have hsmall := (Nat.length_toDigits_le_iff (by decide) (by decide)).mp (Nat.le_of_eq hshort)
  have hall : ∀ m < 10, 0 < m → (Nat.toDigits 10 m).head? ≠ some '0' := by decide
  exact hall n hsmall hn h

theorem integer_toString (hn : 0 < n) (hlength : (Nat.toDigits 10 n).length ≤ maxDigits) :
    integer (toString n) = .ok (n : Int) := by
  have htext : (toString n).toList = Nat.toDigits 10 n := by
    rw [Nat.toString_eq_ofList_toDigits, String.toList_ofList]
  have hdigits : ∀ c ∈ Nat.toDigits 10 n, c.isDigit = true := fun c =>
    Json.Reader.isDigit_of_mem
  have hhead := head?_toDigits hn
  rw [integer, htext, IntegerText.cleaned?_digits hdigits Nat.toDigits_ne_nil hhead]
  simp only [IntegerText.split_digits hdigits, Json.Reader.valueOf_toDigits]
  rw [if_neg (by simp [hhead]), if_neg (Nat.not_lt.mpr hlength), if_neg (by simp)]
  rfl

theorem milliseconds_toString (hn : 0 < n) (hlength : (Nat.toDigits 10 n).length ≤ maxDigits) :
    milliseconds (toString n) = .ok (n : Int) := by
  rw [milliseconds, integer_toString hn hlength]
  exact if_neg (by omega)

theorem find_singleton (name text setting : String) :
    find [(name, text)] [] setting
      = if foldName name = "bootstrapd_" ++ setting then some text else none := by
  simp only [find, textOf, List.map_cons, List.map_nil, List.filter_cons, List.filter_nil,
    beq_iff_eq]
  split <;> rfl

/-- The settings of a process in which the time between turns is set and nothing else. -/
theorem read_digits (hfile : files.isFile filePath = false) (hn : 0 < n)
    (hlength : (Nat.toDigits 10 n).length ≤ maxDigits) :
    ProcessSettings.read [("BOOTSTRAPD_TICK_INTERVAL_MS", toString n)] files
      = .ok { default with tickMilliseconds := n } := by
  have hname : foldName "BOOTSTRAPD_TICK_INTERVAL_MS" = "bootstrapd_" ++ "tick_interval_ms" := by
    decide +kernel
  have hnames : ∀ setting ∈ ["lan_discovery_interval_seconds", "log_level", "log_format",
      "network_engine"], foldName "BOOTSTRAPD_TICK_INTERVAL_MS" ≠ "bootstrapd_" ++ setting := by
    decide +kernel
  have hfind := find_singleton "BOOTSTRAPD_TICK_INTERVAL_MS" (toString n)
  have htick := (hfind "tick_interval_ms").trans (if_pos hname)
  have hother := fun setting hsetting => (hfind setting).trans (if_neg (hnames setting hsetting))
  simp only [List.forall_mem_cons] at hother
  obtain ⟨hlan, hlevel, hformat, hengine, -⟩ := hother
  have hbindings : fileBindings [("BOOTSTRAPD_TICK_INTERVAL_MS", toString n)] files = .ok [] := by
    rw [fileBindings, hfile]
    rfl
  rw [ProcessSettings.read, hbindings]
  change ofBindings _ [] = _
  simp only [ofBindings, htick, hlan, hlevel, hformat, hengine, option,
    milliseconds_toString hn hlength]
  rfl

/-! ## Accepted settings -/

/-- The settings were read from some environment and some environment file. -/
def Accepted (settings : ProcessSettings) : Prop :=
  ∃ environment files, ProcessSettings.read environment files = .ok settings

theorem one_le_of_milliseconds {text : String} {milliseconds : Int}
    (h : ProcessSettings.milliseconds text = .ok milliseconds) : 1 ≤ milliseconds := by
  obtain ⟨n, -, hn⟩ := except_bind_eq_ok.mp h
  split at hn
  · cases hn
  · obtain rfl := Except.ok.inj hn
    omega

theorem Accepted.one_le (h : settings.Accepted) : 1 ≤ settings.tickMilliseconds := by
  obtain ⟨environment, files, h⟩ := h
  obtain ⟨bindings, -, h⟩ := except_bind_eq_ok.mp h
  simp only [ofBindings] at h
  split at h
  case h_2 => cases h
  case h_1 tick lan htick hlan =>
    obtain rfl := Except.ok.inj h
    change 1 ≤ tick
    rcases hfound : find environment bindings "tick_interval_ms" with _ | text
    · rw [hfound] at htick
      obtain rfl := Except.ok.inj htick
      decide
    · rw [hfound] at htick
      change (milliseconds text).mapError _ = _ at htick
      cases hread : milliseconds text with
      | error complaint =>
          rw [hread] at htick
          cases htick
      | ok n =>
          rw [hread] at htick
          obtain rfl := Except.ok.inj htick
          exact one_le_of_milliseconds hread

/-! ## Seconds -/

theorem Accepted.tickSeconds_of_lt (h : settings.Accepted)
    (hlimit : settings.tickMilliseconds < Rounding.limit) : ∃ x, settings.tickSeconds = .ok x
      ∧ Rounding.Approximates x (settings.tickMilliseconds / 1000) := by
  obtain ⟨n, hn⟩ := Int.eq_ofNat_of_zero_le (Int.le_of_lt h.one_le)
  have hpos : 0 < n := by have := h.one_le; omega
  have hfinite : ¬(Decimal.toFloat ⟨n, 0⟩).isInf = true := by
    rw [Rounding.isInf_toFloat hpos]
    omega
  rw [tickSeconds, hn, Int.natAbs_natCast, Int.cast_natCast]
  exact ⟨_, if_neg hfinite, Rounding.approximates_thousandth hpos (by omega)⟩

theorem Accepted.tickSeconds_of_le (h : settings.Accepted)
    (hlimit : Rounding.limit ≤ settings.tickMilliseconds) :
    settings.tickSeconds = .error (.fault .overflow) := by
  obtain ⟨n, hn⟩ := Int.eq_ofNat_of_zero_le (Int.le_of_lt h.one_le)
  have hpos : 0 < n := by have := h.one_le; omega
  rw [tickSeconds, hn, Int.natAbs_natCast]
  exact if_pos ((Rounding.isInf_toFloat hpos).mpr (by omega))

end ProcessSettings

end SeedNode
