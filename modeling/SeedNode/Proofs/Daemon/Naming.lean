import Mathlib.Data.List.DropRight
import SeedNode.Proofs.Daemon.Forking
import SeedNode.Proofs.Text.Utf8

/-!
# Which process the file names

Whoever looks for the service reads the last line of the file. A run ends the line that it writes,
but it does not look at how the text before it ends: what somebody else left there without a newline
is a line that is not finished, and the number is appended to that line (`lastLine_append_pidLine`).
So the last line is the number of the service just if the text before was finished, and after a
second run it always is (`last_line_names_service_iff`).
-/

namespace SeedNode

/-! ## Lines -/

namespace Lines

variable {text line : Bytes}

/-- The byte that ends a line. -/
def newline : UInt8 := 10

/-- What stands after the last newline of a text: a line that is not finished, unless it is
empty. -/
def unfinished (text : Bytes) : Bytes :=
  text.rtakeWhile (· != newline)

/-- The last line of a text, finished or not. -/
def lastLine (text : Bytes) : Bytes :=
  if text.getLast? = some newline then unfinished text.dropLast else unfinished text

/-- The text is empty or ends with a newline. -/
def Finished (text : Bytes) : Prop :=
  text = [] ∨ text.getLast? = some newline

instance : Decidable (Finished text) :=
  inferInstanceAs (Decidable (_ ∨ _))

theorem unfinished_eq_nil_iff : unfinished text = [] ↔ Finished text := by
  rw [unfinished, List.rtakeWhile_eq_nil_iff, Finished]
  rcases List.eq_nil_or_concat text with rfl | ⟨front, last, rfl⟩ <;> simp

/-- A text without a newline goes on with the line that was not finished. -/
theorem unfinished_append (h : newline ∉ line) :
    unfinished (text ++ line) = unfinished text ++ line := by
  have hall : ∀ b ∈ line.reverse, (b != newline) = true := by
    intro b hb
    exact bne_iff_ne.mpr fun hend => h (hend ▸ List.mem_reverse.mp hb)
  rw [unfinished, List.rtakeWhile, List.reverse_append, List.takeWhile_append_of_pos hall,
    List.reverse_append, List.reverse_reverse]
  rfl

/-- A line that is appended is preceded by what was not finished. -/
theorem lastLine_append (h : newline ∉ line) :
    lastLine (text ++ (line ++ [newline])) = unfinished text ++ line := by
  rw [← List.append_assoc, lastLine, if_pos List.getLast?_concat, List.dropLast_concat,
    unfinished_append h]

/-- The newline at the end ends the last line and begins none. -/
example : lastLine (Utf8.encode "1\n42\n") = Utf8.encode "42" := by decide

end Lines

/-! ## Lines of numbers -/

namespace Detach

open Lines

variable {pid : Int} {text : Bytes} {entries : List PidEntry}

/-- The decimal text of a process number. -/
def decimal (pid : Int) : Bytes :=
  Utf8.encode (toString pid)

theorem pidLine_eq (pid : Int) : pidLine pid = decimal pid ++ [newline] := by
  have hchars : (s!"{pid}\n").toList = (toString pid).toList ++ ['\n'] := String.toList_append
  rw [pidLine, Utf8.encode, hchars, Utf8.encodeChars_append]
  rfl

theorem newline_not_mem_repr (n : Nat) : '\n' ∉ n.repr.toList := by
  intro h
  rw [Nat.repr, String.toList_ofList] at h
  have hdigit : '\n'.isDigit = true := Nat.isDigit_of_mem_toDigits (by decide) (by decide) h
  cases hdigit

theorem newline_not_mem_toString (pid : Int) : '\n' ∉ (toString pid).toList := by
  cases pid with
  | ofNat n => exact newline_not_mem_repr n
  | negSucc n =>
      change '\n' ∉ ("-" ++ (n + 1).repr).toList
      rw [String.toList_append, List.mem_append]
      rintro (hminus | hdigits)
      · simp at hminus
      · exact newline_not_mem_repr _ hdigits

theorem newline_not_mem_decimal (pid : Int) : newline ∉ decimal pid := by
  intro h
  obtain ⟨c, hc, hnewline⟩ := (Utf8.mem_encodeChars (by decide)).mp h
  have hc₀ : c = '\n' := Char.toNat_inj.mp hnewline
  exact newline_not_mem_toString pid (hc₀ ▸ hc)

theorem lastLine_append_pidLine (text : Bytes) (pid : Int) :
    lastLine (text ++ pidLine pid) = unfinished text ++ decimal pid := by
  rw [pidLine_eq, lastLine_append (newline_not_mem_decimal pid)]

theorem lastLine_eq_decimal_iff :
    lastLine (text ++ pidLine pid) = decimal pid ↔ Finished text := by
  rw [lastLine_append_pidLine, List.append_left_eq_self, unfinished_eq_nil_iff]

/-- A line that was written as a whole ends the text with a newline, whatever was there. -/
theorem finished_append_wholes (pids : List Int) :
    Finished (text ++ (pids.map PidEntry.whole).flatMap PidEntry.text) ↔
      pids ≠ [] ∨ Finished text := by
  rcases List.eq_nil_or_concat pids with rfl | ⟨earlier, last, rfl⟩
  · simp
  · -- the last line that was appended brings its newline, whatever stands before it
    have hlast : (text ++ ((earlier.concat last).map PidEntry.whole).flatMap PidEntry.text).getLast?
        = some newline := by
      rw [List.concat_eq_append, List.map_append, List.flatMap_append, List.map_singleton,
        List.flatMap_singleton, PidEntry.text, PidEntry.whole, stored, pidLine_eq,
        ← List.append_assoc, ← List.append_assoc, List.getLast?_concat]
    exact iff_of_true (.inr hlast) (.inl (by simp))

/-! ## Runs -/

/-- A run that recorded a process number leaves it in the last line, behind whatever stood in an
unfinished line before. So the last line is the number just if the text before was finished, and
after any runs just if what they found and appended until then was. Where no write broke off, that
is so if the text was finished before all of them or they recorded a number before the last. -/
theorem last_line_names_service_iff (path : Path) :
    (∀ {τ : Type} (os : Processes τ) (keepStdio : Bool) (s s' : Session τ) (pid : Int),
      (fork os path keepStdio).run s = (.ok .parent, s') →
      os.fork (s.calls ++ [.fork]) = .ok pid →
      let old := Tree.recorded path s.files
      let last := lastLine (Tree.recorded path s'.files)
      last = unfinished old ++ decimal pid ∧ (last = decimal pid ↔ Finished old))
      ∧ (∀ {τ : Type} (os : Processes τ) (s s' : Session τ),
        (stay os path).run s = (.ok .service, s') →
        let old := Tree.recorded path s.files
        let last := lastLine (Tree.recorded path s'.files)
        last = unfinished old ++ decimal os.pid ∧ (last = decimal os.pid ↔ Finished old))
      ∧ (∀ (t t' : Tree) (entries : List PidEntry) (pid : Int),
        Launches path t (entries ++ [.whole pid]) t' →
        (lastLine (Tree.recorded path t') = decimal pid
          ↔ Finished (Tree.recorded path t ++ entries.flatMap PidEntry.text)))
      ∧ ∀ (t t' : Tree) (pids : List Int) (pid : Int),
        Launches path t (pids.map .whole ++ [.whole pid]) t' →
        (lastLine (Tree.recorded path t') = decimal pid
          ↔ pids ≠ [] ∨ Finished (Tree.recorded path t)) := by
  have hlast : ∀ (t t' : Tree) (entries : List PidEntry) (pid : Int),
      Launches path t (entries ++ [.whole pid]) t' →
      (lastLine (Tree.recorded path t') = decimal pid
        ↔ Finished (Tree.recorded path t ++ entries.flatMap PidEntry.text)) := by
    intro t t' entries pid hlaunches
    rw [hlaunches.recorded, List.flatMap_append, List.flatMap_singleton, ← List.append_assoc]
    exact lastLine_eq_decimal_iff
  refine ⟨fun os keepStdio s s' pid hrun hpid => ?_, fun os s s' hrun => ?_, hlast,
    fun t t' pids pid hlaunches => ?_⟩
  · dsimp only
    rw [recorded_of_fork hrun hpid]
    exact ⟨lastLine_append_pidLine _ pid, lastLine_eq_decimal_iff⟩
  · dsimp only
    rw [recorded_of_stay hrun]
    exact ⟨lastLine_append_pidLine _ os.pid, lastLine_eq_decimal_iff⟩
  · rw [hlast t t' _ pid hlaunches, finished_append_wholes]

/-! ## A line that was left unfinished -/

def pidPath : Path := ⟨"", ["pid"]⟩

/-- A system that grants the launch of a child. -/
def launcher : Processes Nat :=
  .granting 4242 3

/-- A process before it detaches. -/
def beginning (t : Tree) : Session Nat :=
  .start t [] ⟨true, [], 0⟩

/-- A tree in which the file holds a text. -/
def holding (text : Bytes) : Tree :=
  ⟨[], [(["pid"], .file 0o600 text)]⟩

theorem opens_holding (text : Bytes) :
    ∃ t, (holding text).openForWriting pidPath 0o666 = .ok (["pid"], t) := by
  have hnamed : (holding text).NamedAt pidPath ["pid"] := Tree.namedAt_home _ (by decide)
  exact Tree.openForWriting_of_plain 0o666 hnamed (by decide) (Tree.plain_of_file rfl)

theorem recorded_holding (text : Bytes) : Tree.recorded pidPath (holding text) = text := by
  obtain ⟨t, hopen⟩ := opens_holding text
  exact (Tree.Targets.of_opened hopen).recorded_eq

theorem fork_holding (text : Bytes) :
    ∃ s', (fork launcher pidPath false).run (beginning (holding text)) = (.ok .parent, s') := by
  obtain ⟨t, hopen⟩ := opens_holding text
  exact ⟨_, run_fork_of_launched false hopen rfl rfl (by decide) rfl⟩

theorem stay_holding (text : Bytes) :
    ∃ s', (stay launcher pidPath).run (beginning (holding text)) = (.ok .service, s') := by
  obtain ⟨t, hopen⟩ := opens_holding text
  exact ⟨_, run_stay_of_opened hopen rfl⟩

theorem last_line_names_service_iff_after_run :
    ∃ s s' : Session Nat,
      (fork launcher pidPath false).run (beginning (holding (Utf8.encode "1\n"))) = (.ok .parent, s)
        ∧ lastLine (Tree.recorded pidPath s.files) = decimal 4242
        ∧ (stay launcher pidPath).run (beginning (holding (Utf8.encode "12"))) = (.ok .service, s')
        ∧ lastLine (Tree.recorded pidPath s'.files) = Utf8.encode "127"
        ∧ Launches pidPath (holding (Utf8.encode "12")) [.whole 7] s'.files
        ∧ lastLine (Tree.recorded pidPath s'.files) ≠ decimal 7 := by
  obtain ⟨s, hfork⟩ := fork_holding (Utf8.encode "1\n")
  obtain ⟨s', hstay⟩ := stay_holding (Utf8.encode "12")
  have hlaunches : Launches pidPath (holding (Utf8.encode "12")) [.whole 7] s'.files :=
    Launches.none.stayed rfl hstay
  obtain ⟨hforks, hstays, -, hruns⟩ := last_line_names_service_iff pidPath
  refine ⟨s, s', hfork, ?_, hstay, ?_, hlaunches, ?_⟩
  · refine (hforks launcher false _ s 4242 hfork rfl).2.mpr ?_
    exact (recorded_holding _).symm ▸ (by decide : Finished (Utf8.encode "1\n"))
  · refine (hstays launcher _ s' hstay).1.trans ?_
    exact (recorded_holding _).symm ▸
      (by decide : unfinished (Utf8.encode "12") ++ decimal 7 = Utf8.encode "127")
  · rw [ne_eq, hruns _ _ [] 7 hlaunches, recorded_holding]
    decide

/-- Where the file held a number without a newline, the last line names a process that neither run
started. -/
theorem number_runs_on :
    ∃ s' : Session Nat,
      (fork launcher pidPath false).run (beginning (holding (Utf8.encode "12"))) = (.ok .parent, s')
        ∧ launcher.fork [.fork] = .ok 4242
        ∧ Tree.recorded pidPath s'.files = Utf8.encode "124242\n"
        ∧ lastLine (Tree.recorded pidPath s'.files) = decimal 124242
        ∧ decimal 124242 ≠ decimal 4242 := by
  obtain ⟨s', hfork⟩ := fork_holding (Utf8.encode "12")
  have hcontent : Tree.recorded pidPath s'.files = Utf8.encode "124242\n" := by
    refine (recorded_of_fork hfork rfl).trans ?_
    exact (recorded_holding _).symm ▸
      (by decide : Utf8.encode "12" ++ pidLine 4242 = Utf8.encode "124242\n")
  refine ⟨s', hfork, rfl, hcontent, ?_, by decide⟩
  rw [hcontent]
  decide

end Detach

end SeedNode
