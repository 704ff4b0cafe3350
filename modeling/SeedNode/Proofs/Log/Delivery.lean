import Mathlib.Tactic.FinCases
import SeedNode.Proofs.Daemon.Logging

/-!
# Records that are written once

The two handlers of the terminal share a form and part the levels between them: a record that counts
is taken by just one of them, so it is written once, to the one stream or to the other
(`dispatch_terminal`). What could fail is to put it as text. A record that carries no value for
structured output always has a text, unless its time is some thirty million years away
(`writable_of_plain`).
-/

namespace SeedNode

variable {now : Int} {r : Record} {text : String}

/-! ## Records as text -/

/-- Four hundred years have more days than that, so the year is not further away than the days. -/
theorem Calendar.natAbs_civil_le (days : Int) :
    (Calendar.civil days).1.natAbs ≤ days.natAbs / 365 + 2401 := by
  let day := ((days + daysTo1970) % 146097).toNat
  let year := (day - day / 1460 + day / 36524 - day / 146096) / 365
  have hyear : year ≤ 400 := by
    have hday : day ≤ 146096 := by omega
    omega
  obtain ⟨next, hnext, hcivil⟩ : ∃ next : Nat, next ≤ 1 ∧ (Calendar.civil days).1
      = (days + daysTo1970) / 146097 * 400 + year + next := by
    refine ⟨_, ?_, rfl⟩
    split <;> omega
  rw [hcivil, daysTo1970]
  omega

theorem LineFormat.stamp_of_near (h : now.natAbs ≤ 1000000000000000) :
    ∃ text, LineFormat.stamp now = .ok text := by
  have hyear := Calendar.natAbs_civil_le (now / 86400)
  rcases hcivil : Calendar.civil (now / 86400) with ⟨year, month, day⟩
  rw [hcivil] at hyear
  simp only [LineFormat.stamp, hcivil, maxTime, maxYear]
  rw [if_neg (by omega), if_neg (by omega), if_neg (by omega)]
  exact ⟨_, rfl⟩

theorem Json.writeEntries_of_texts {entries : Table}
    (h : ∀ entry ∈ entries, ∃ s, entry.2 = .str s) :
    ∃ parts, Json.writeEntries entries = .ok parts := by
  induction entries with
  | nil => exact ⟨[], rfl⟩
  | cons entry rest ih =>
      obtain ⟨name, v⟩ := entry
      obtain ⟨s, rfl⟩ : ∃ s, v = .str s := h (name, v) List.mem_cons_self
      obtain ⟨parts, hparts⟩ := ih fun entry hmem => h entry (List.mem_cons_of_mem _ hmem)
      refine ⟨(Json.quoted name ++ ": " ++ Json.quoted s) :: parts, ?_⟩
      rw [Json.writeEntries, Json.write, hparts]
      rfl

namespace LineFormat

/-- The record has a text in this form. -/
def Writable (format : LineFormat) (now : Int) (r : Record) : Prop :=
  ∃ text, format.write now r = .ok text

theorem writable_of_plain (format : LineFormat) (hextra : r.extra = none)
    (htime : (r.created.getD now).natAbs ≤ 1000000000000000) : format.Writable now r := by
  cases format with
  | standard colored =>
      obtain ⟨time, htime⟩ := stamp_of_near htime
      rw [Writable, write, htime]
      exact ⟨_, rfl⟩
  | system => exact ⟨_, rfl⟩
  | json =>
      obtain ⟨parts, hparts⟩ : ∃ parts, Json.writeEntries (toTable now r) = .ok parts := by
        refine Json.writeEntries_of_texts fun entry hmem => ?_
        simp only [toTable, members, hextra, List.mem_append, Option.map_none, Option.toList_none,
          List.not_mem_nil, or_false, Option.mem_toList, Option.map_eq_some_iff] at hmem
        rcases hmem with hmem | ⟨text, -, rfl⟩
        · fin_cases hmem <;> exact ⟨_, rfl⟩
        · exact ⟨text, rfl⟩
      rw [Writable, write, Json.write, hparts]
      exact ⟨_, rfl⟩

/-- Structured output fails where the value that a record carries has no structured form. -/
theorem write_json_of_extra {v : Value} {e : Failure} (hextra : r.extra = some v)
    (hform : Json.write v = .error e) (now : Int) : LineFormat.json.write now r = .error e := by
  rw [write, toTable, members, hextra]
  cases r.cause.text? <;> simp [Json.write, Json.writeEntries, hform] <;> rfl

end LineFormat

/-! ## Streams -/

/-- A text for the record was added to one stream, as its level asks, and to nothing else. -/
def WrittenOnce (format : LineFormat) (now : Int) (r : Record) (l l' : Logging) : Prop :=
  ∃ text, format.write now r = .ok text ∧ l'.wire = l.wire ∧
    if r.level < Level.warning then l'.stdout = l.stdout ++ text ++ "\n" ∧ l'.stderr = l.stderr
    else l'.stdout = l.stdout ∧ l'.stderr = l.stderr ++ text ++ "\n"

/-- A record that was written once did not leave the streams as they were. -/
theorem not_writtenOnce_self (format : LineFormat) (now : Int) (r : Record) (l : Logging) :
    ¬ WrittenOnce format now r l l := by
  rintro ⟨text, -, -, hstreams⟩
  have hlonger : ∀ stream : String, stream ≠ stream ++ text ++ "\n" := by
    intro stream heq
    have hlength := congrArg String.length heq
    rw [String.length_append, String.length_append, show "\n".length = 1 from rfl] at hlength
    omega
  split at hstreams
  · exact hlonger _ hstreams.1
  · exact hlonger _ hstreams.2

namespace Logging

variable {l : Logging} {i j : Nat} {format : LineFormat}

theorem dispatch_of_not_admitted (h : l.admits r = false) : l.dispatch now r = l := by
  rw [dispatch, h]
  rfl

theorem emit_of_unwritten {h : Handler} {e : Failure} (hformat : h.format.write now r = .error e) :
    emit now r l h = l := by
  simp [emit, hformat]

/-- A record that no attached handler can put as text is written nowhere. -/
theorem foldl_emit_of_unwritten {handlers : List Handler}
    (h : ∀ handler ∈ handlers, ∃ e, handler.format.write now r = .error e) :
    handlers.foldl (emit now r) l = l := by
  induction handlers with
  | nil => rfl
  | cons handler rest ih =>
      obtain ⟨e, he⟩ := h handler List.mem_cons_self
      rw [List.foldl_cons, emit_of_unwritten he]
      exact ih fun other hmem => h other (List.mem_cons_of_mem _ hmem)

/-- Each stream takes what the other does not. -/
theorem dispatch_terminal (hhandlers : l.handlers = [⟨i, .out, format⟩, ⟨j, .err, format⟩])
    (hadmits : l.admits r = true) (hwritable : format.Writable now r) :
    WrittenOnce format now r l (l.dispatch now r) := by
  obtain ⟨text, htext⟩ := hwritable
  refine ⟨text, htext, ?_⟩
  rw [dispatch, hadmits, if_pos rfl, hhandlers, List.foldl_cons, List.foldl_cons, List.foldl_nil]
  by_cases hlevel : r.level < Level.warning
  · have hout : Sink.out.takes r.level = true := decide_eq_true hlevel
    have herr : Sink.err.takes r.level = false := decide_eq_false (Int.not_le.mpr hlevel)
    simp [emit, hout, herr, htext, hlevel]
  · have hout : Sink.out.takes r.level = false := decide_eq_false hlevel
    have herr : Sink.err.takes r.level = true := decide_eq_true (Int.not_lt.mp hlevel)
    simp [emit, hout, herr, htext, hlevel]

end Logging

end SeedNode
