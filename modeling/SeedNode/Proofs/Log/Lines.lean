import SeedNode.Log.Format
import SeedNode.Proofs.Json.RoundTrip

/-!
# Lines that say what the record says

Whatever a record holds, its structured form is one line of printable characters, and whoever reads
that line gets the record back: no text of the record can end the line, or add to it a name or a
value of its own (`structured_lines_faithful`).
-/

namespace SeedNode.LineFormat

variable {line level source message : String} {exception : Option String} {extra : Option Value}
  {entries : Table}

/-- What a reader of structured output finds in a line under a name. -/
def found (line name : String) : Option Value :=
  match Json.Reader.read line with
  | some (.table entries) => entries.lookup name
  | _ => none

/-- The line is a single one that holds one object, of distinct names, and gives back all that the
record says. -/
structure Faithful (line level source message : String) (exception : Option String)
    (extra : Option Value) : Prop where
  printable : Json.Printable line
  object : ∃ entries, Json.Reader.read line = some (.table entries)
    ∧ (entries.map Prod.fst).Nodup
  level : found line "level" = some (.str level)
  source : found line "logger" = some (.str source)
  message : found line "message" = some (.str message)
  exception : found line "exception" = exception.map .str
  extra : found line "extra" = extra

theorem plain_members (time level source message : String) (exception : Option String)
    (hextra : ∀ v ∈ extra, Json.Expressible v) :
    Json.Expressible (.table (members time level source message exception extra)) := by
  refine .table fun entry hmem => ?_
  simp only [members, List.mem_append, List.mem_cons, List.not_mem_nil, or_false,
    Option.mem_toList, Option.map_eq_some_iff] at hmem
  rcases hmem with ((rfl | rfl | rfl | rfl) | ⟨text, -, rfl⟩) | ⟨v, hv, rfl⟩
  · exact .str _
  · exact .str _
  · exact .str _
  · exact .str _
  · exact .str _
  · exact hextra v hv

theorem nodup_members (time level source message : String) (exception : Option String)
    (extra : Option Value) :
    ((members time level source message exception extra).map Prod.fst).Nodup := by
  cases exception <;> cases extra <;> simp [members]

theorem faithful_of_survives {time : String}
    (h : Json.Survives (.table (members time level source message exception extra)) line) :
    Faithful line level source message exception extra := by
  have hfound : ∀ name, found line name
      = (members time level source message exception extra).lookup name := by
    intro name
    rw [found, h.read]
  refine ⟨h.printable, ⟨_, h.read, nodup_members ..⟩, ?_, ?_, ?_, ?_, ?_⟩
  all_goals
    rw [hfound]
    cases exception <;> cases extra <;> rfl

theorem written_faithfully (time level source message : String) (exception : Option String)
    (extra : Option Value) (hextra : ∀ v ∈ extra, Json.Expressible v) :
    ∃ line, Json.write (.table (members time level source message exception extra)) = .ok line
      ∧ Faithful line level source message exception extra := by
  obtain ⟨line, hline⟩ := (plain_members time level source message exception hextra).survives
  exact ⟨line, hline.written, faithful_of_survives hline⟩

/-- Structured output is faithful, be it of a record of the daemon or of any other texts. A record
tells of a failure just if one was stated. -/
theorem structured_lines_faithful :
    (∀ (time level source message : String) (exception : Option String) (extra : Option Value),
      (∀ v ∈ extra, Json.Expressible v) →
      ∃ line, Json.write (.table (members time level source message exception extra)) = .ok line
        ∧ Faithful line level source message exception extra)
    ∧ ∀ (now : Int) (r : Record), (∀ v ∈ r.extra, Json.Expressible v) →
      ∃ line, json.write now r = .ok line
        ∧ Faithful line r.level.name r.source r.message r.cause.text? r.extra
        ∧ ((found line "exception").isSome ↔ r.cause ≠ .unstated) := by
  refine ⟨written_faithfully, fun now r hextra => ?_⟩
  obtain ⟨line, hwritten, hfaithful⟩ := written_faithfully (Calendar.ofEpoch now).text r.level.name
    r.source r.message r.cause.text? r.extra hextra
  refine ⟨line, hwritten, hfaithful, ?_⟩
  rw [hfaithful.exception, Option.isSome_map]
  cases r.cause <;> simp [Cause.text?]

/-- Quotation marks, a line break and a character in two halves, and texts that look like the line
itself. -/
theorem structured_lines_faithful_of_forgeries :
    ∃ line, json.write 0 ⟨30, "a\"b\\", "\", \"level\": \"DEBUG\"\x7d\n\x7b🌱\u2028", none,
        .absent, some (.list [.table [("\n", .int (-7))], .str "\x00", .null])⟩ = .ok line
      ∧ Faithful line "WARNING" "a\"b\\" "\", \"level\": \"DEBUG\"\x7d\n\x7b🌱\u2028"
        (some "NoneType: None")
        (some (.list [.table [("\n", .int (-7))], .str "\x00", .null]))
      ∧ ((found line "exception").isSome ↔ Cause.absent ≠ .unstated) := by
  refine structured_lines_faithful.2 0 ⟨30, _, _, none, .absent, some _⟩ fun v hv => ?_
  obtain rfl := Option.some.inj hv
  have hnumber : Json.Expressible (.int (-7)) :=
    .int (@writable_of_natAbs_lt (-7) 1 (by decide) (by decide))
  refine .list fun v hv => ?_
  simp only [List.mem_cons, List.not_mem_nil, or_false] at hv
  rcases hv with rfl | rfl | rfl
  · refine .table fun entry hmem => ?_
    obtain rfl := List.mem_singleton.mp hmem
    exact hnumber
  · exact .str _
  · exact .null

end SeedNode.LineFormat
