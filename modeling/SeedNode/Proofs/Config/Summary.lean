import SeedNode.Proofs.Config.Lookups

/-!
# The summary of a configuration

The summary has one line for each option of one value that counts in the configuration (`shown`),
with its text and source. What else is logged with it is no warning and no such line, so the line of
an option is the only record of its kind.
-/

namespace SeedNode.Config

/-! ## Lines -/

/-- The line of the summary about an option. -/
def line (name text : String) (origin : OptionSource) : Record :=
  { level := Level.info, source, message := s!"'{name}': {text} ({origin.name})" }

theorem isLine_line (name text : String) (origin : OptionSource) :
    isLine (line name text origin) = true := by
  simp [isLine, line, toString, List.isPrefixOf]

theorem tellsValue_lead (name : String) :
    s!"'{name}': ".toList = '\'' :: (name.toList ++ '\'' :: [':', ' ']) := by
  simp [toString]

theorem isLine_of_tellsValue {name : String} {r : Record} (h : tellsValue name r = true) :
    isLine r = true := by
  rw [tellsValue, tellsValue_lead, Bool.and_eq_true, List.isPrefixOf_iff_prefix] at h
  obtain ⟨hlevel, rest, hrest⟩ := h
  rw [isLine, hlevel, ← hrest]
  rfl

theorem tellsValue_line {name other : String} (text : String) (origin : OptionSource)
    (hname : '\'' ∉ name.toList) (hother : '\'' ∉ other.toList) :
    tellsValue name (line other text origin) = true ↔ name = other := by
  obtain ⟨rest, hmessage⟩ : ∃ rest, (line other text origin).message.toList
      = '\'' :: (other.toList ++ '\'' :: ([':', ' '] ++ rest)) := by
    refine ⟨text.toList ++ s!" ({origin.name})".toList, ?_⟩
    simp [line, toString]
  have hlevel : (line other text origin).level = Level.info := rfl
  rw [tellsValue, tellsValue_lead, hlevel, hmessage, beq_self_eq_true, Bool.true_and,
    List.isPrefixOf_iff_prefix, List.cons_prefix_cons]
  constructor
  · rintro ⟨-, more, hmore⟩
    have hsplit : name.toList ++ '\'' :: ([':', ' '] ++ more)
        = other.toList ++ '\'' :: ([':', ' '] ++ rest) := by
      simpa using hmore
    rcases append_mark_cases hother hsplit with heq | ⟨hmark, -⟩
    · exact String.toList_inj.mp heq
    · exact absurd hmark hname
  · rintro rfl
    exact ⟨rfl, rest, by simp⟩

/-- The record is the line about an option, with its text and source. -/
def IsLineOf (sources : Sources) (option : String × Except TooLong String) (r : Record) : Prop :=
  ∃ text, option.2 = .ok text ∧ r = line option.1 text (sources.of option.1)

/-! ## Code that shows options -/

/-- Records of a summary: its lines are about certain options, with their texts and sources, and no
warning is among them. -/
structure Summary (sources : Sources) (lines : List (String × Except TooLong String))
    (told : List Record) : Prop where
  lines : List.Forall₂ (IsLineOf sources) lines (told.filter isLine)
  quiet : ∀ r ∈ told, r.level ≠ Level.warning

/-- When the code returns it has added a summary of certain options. -/
def Shows (sources : Sources) (lines : List (String × Except TooLong String)) (x : LogM Unit) :
    Prop :=
  ∀ records records', x.run records = (.ok (), records') →
    ∃ told, records' = records ++ told ∧ Summary sources lines told

section Shows

variable {sources : Sources} {lines lines' : List (String × Except TooLong String)}
  {x y : LogM Unit}

theorem Summary.append {told told' : List Record} (h : Summary sources lines told)
    (h' : Summary sources lines' told') : Summary sources (lines ++ lines') (told ++ told') where
  lines := by
    rw [List.filter_append]
    exact List.rel_append h.lines h'.lines
  quiet r hr := (List.mem_append.mp hr).elim (h.quiet r) (h'.quiet r)

theorem Shows.bind (hx : Shows sources lines x) (hy : Shows sources lines' y) :
    Shows sources (lines ++ lines') (x >>= fun _ => y) := by
  intro records records' hrun
  obtain ⟨_, between, hfirst, hsecond⟩ := run_bind_eq_ok.mp hrun
  obtain ⟨told, rfl, hsummary⟩ := hx records between hfirst
  obtain ⟨told', rfl, hsummary'⟩ := hy _ records' hsecond
  exact ⟨told ++ told', List.append_assoc _ _ _, hsummary.append hsummary'⟩

theorem Shows.of_adds (h : AddsRecords Passing x) : Shows sources [] x := by
  intro records records' hrun
  obtain ⟨result, told, hadds, htold⟩ := h
  refine ⟨told, (Prod.mk.inj (hrun.symm.trans (hadds records))).2, ?_, fun r hr => (htold r hr).1⟩
  have hnone : told.filter isLine = [] := by
    rw [List.filter_eq_nil_iff]
    intro r hr hline
    rw [(htold r hr).2] at hline
    cases hline
  rw [hnone]
  exact .nil

theorem summaryLine_shows {α : Type} (kind : OptionKind α) (name : String) (value : α) :
    Shows sources [(name, kind.text value)] (summaryLine kind sources name value) := by
  intro records records' hrun
  rw [summaryLine] at hrun
  cases htext : kind.text value with
  | error e =>
      rw [htext] at hrun
      cases hrun
  | ok text =>
      rw [htext] at hrun
      obtain ⟨-, rfl⟩ := Prod.mk.inj hrun
      have hquiet : Level.info ≠ Level.warning := by decide
      refine ⟨[line name text (sources.of name)], rfl, ?_, fun r hr => ?_⟩
      · rw [List.filter_cons_of_pos (isLine_line _ _ _)]
        exact .cons ⟨text, rfl, rfl⟩ .nil
      · rw [List.mem_singleton.mp hr]
        exact hquiet

theorem Shows.skip (hx : AddsRecords Passing x) (hy : Shows sources lines y) :
    Shows sources lines (x >>= fun _ => y) := (Shows.of_adds hx).bind hy

theorem Shows.line {α : Type} {kind : OptionKind α} {name : String} {value : α}
    (hy : Shows sources lines y) : Shows sources ((name, kind.text value) :: lines)
      (summaryLine kind sources name value >>= fun _ => y) :=
  (summaryLine_shows kind name value).bind hy

/-! ## What a configuration shows -/

/-- The message of the day, if it counts in a configuration, with its text. -/
def shownMotd (c : DaemonConfig) : List (String × Except TooLong String) :=
  if c.enableMotd then (c.motd.map fun m => ("motd", OptionKind.string.text m)).toList else []

/-- The options of one value that count in a configuration, with their texts, in the order of the
summary. -/
def shown (c : DaemonConfig) : List (String × Except TooLong String) :=
  ("pid_file_path", OptionKind.string.text c.pidFilePath)
    :: ("keys_file_path", OptionKind.string.text c.keysFilePath)
    :: ("port", OptionKind.integer.text c.port)
    :: ("enable_ipv6", OptionKind.boolean.text c.enableIpv6)
    :: ("enable_ipv4_fallback", OptionKind.boolean.text c.enableIpv4Fallback)
    :: ("enable_lan_discovery", OptionKind.boolean.text c.enableLanDiscovery)
    :: ("enable_tcp_relay", OptionKind.boolean.text c.enableTcpRelay)
    :: ("enable_motd", OptionKind.boolean.text c.enableMotd)
    :: shownMotd c

theorem map_shown (c : DaemonConfig) : (shown c).map Prod.fst
    = ["pid_file_path", "keys_file_path", "port", "enable_ipv6", "enable_ipv4_fallback",
        "enable_lan_discovery", "enable_tcp_relay", "enable_motd"]
      ++ if c.enableMotd && c.motd.isSome then ["motd"] else [] := by
  rw [shown, shownMotd]
  cases c.enableMotd <;> cases c.motd <;> rfl

theorem shown_plain (c : DaemonConfig) : ((shown c).map Prod.fst).Nodup
    ∧ ∀ name ∈ (shown c).map Prod.fst, '\'' ∉ name.toList := by
  rw [map_shown]
  split <;> decide

theorem logSummary_shows (r : Resolved) : Shows r.sources (shown r.config) (logSummary r) := by
  rw [logSummary, shown]
  refine .skip (.note (passing_info rfl)) ?_
  refine .line <| .line <| .line <| .line <| .line <| .line <| .line ?_
  dsimp only
  split
  case' isTrue => split
  case' isTrue.isTrue => refine .skip (.note (passing_error _)) ?_
  case' isTrue.isFalse =>
    refine .skip (.note (passing_info ?_)) (.skip (informPorts_adds _ 0) ?_)
    · simp [toString, List.isPrefixOf]
  -- What is left in each case is the message of the day.
  all_goals
    refine .line ?_
    rw [shownMotd]
    cases r.config.motd with
    | none => split <;> exact .of_adds (.pure ())
    | some motd =>
        split
        · exact summaryLine_shows .string "motd" motd
        · exact .of_adds (.pure ())

/-! ## One line for each option -/

/-- A line whose option is not among those of a summary is none of its lines. -/
theorem filter_eq_nil_of_lines {records : List Record} {name : String}
    (h : List.Forall₂ (IsLineOf sources) lines records) (hname : '\'' ∉ name.toList)
    (hplain : ∀ l ∈ lines, '\'' ∉ l.1.toList) (hnone : name ∉ lines.map Prod.fst) :
    records.filter (tellsValue name) = [] := by
  induction h with
  | nil => rfl
  | @cons l r lines records hline _ ih =>
      obtain ⟨text, -, rfl⟩ := hline
      rw [List.map_cons, List.mem_cons, not_or] at hnone
      rw [List.forall_mem_cons] at hplain
      rw [List.filter_cons_of_neg, ih hplain.2 hnone.2]
      rw [tellsValue_line text _ hname hplain.1]
      exact hnone.1

theorem filter_eq_singleton_of_lines {records : List Record} {name : String}
    {text : Except TooLong String} (h : List.Forall₂ (IsLineOf sources) lines records)
    (hplain : ∀ l ∈ lines, '\'' ∉ l.1.toList) (hnodup : (lines.map Prod.fst).Nodup)
    (hmem : (name, text) ∈ lines) :
    ∃ shown, text = .ok shown
      ∧ records.filter (tellsValue name) = [line name shown (sources.of name)] := by
  induction h with
  | nil => cases hmem
  | @cons l r lines records hline hlines ih =>
      obtain ⟨shown, htext, rfl⟩ := hline
      rw [List.map_cons, List.nodup_cons] at hnodup
      rw [List.forall_mem_cons] at hplain
      rcases List.mem_cons.mp hmem with rfl | hmem
      · refine ⟨shown, htext, ?_⟩
        rw [List.filter_cons_of_pos ((tellsValue_line _ _ hplain.1 hplain.1).mpr rfl),
          filter_eq_nil_of_lines hlines hplain.1 hplain.2 hnodup.1]
      · obtain ⟨shown', htext', hfilter⟩ := ih hplain.2 hnodup.2 hmem
        refine ⟨shown', htext', ?_⟩
        rw [List.filter_cons_of_neg, hfilter]
        rw [tellsValue_line _ _ (hplain.2 _ hmem) hplain.1]
        rintro rfl
        exact hnodup.1 (List.mem_map.mpr ⟨_, hmem, rfl⟩)

end Shows

end SeedNode.Config
