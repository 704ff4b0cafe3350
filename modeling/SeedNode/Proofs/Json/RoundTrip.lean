import SeedNode.Proofs.Json.Reading

/-!
# Values that survive structured output

A value made of texts, truth values, integers that can be written, lists and tables is written on a
single line of printable characters, and read back from it as it was (`Expressible.survives`).
-/

namespace SeedNode.Json

/-! ## Characters of a line -/

/-- The text has no character but those from the blank to the tilde, so it is a single line. -/
def Printable (text : String) : Prop :=
  ∀ c ∈ text.toList, ' ' ≤ c ∧ c ≤ '~'

instance (text : String) : Decidable (Printable text) :=
  List.decidableBAll (fun c => ' ' ≤ c ∧ c ≤ '~') text.toList

namespace Printable

variable {s t : String} {texts : List String}

theorem append (hs : Printable s) (ht : Printable t) : Printable (s ++ t) := by
  intro c hc
  rw [String.toList_append] at hc
  exact (List.mem_append.mp hc).elim (hs c) (ht c)

theorem intercalate (h : ∀ text ∈ texts, Printable text) :
    Printable (", ".intercalate texts) := by
  induction texts with
  | nil => decide
  | cons text texts ih =>
      cases texts with
      | nil =>
          rw [String.intercalate_singleton]
          exact h text List.mem_cons_self
      | cons next texts =>
          rw [String.intercalate_cons_cons]
          refine ((h text List.mem_cons_self).append (by decide)).append (ih fun t ht => ?_)
          exact h t (List.mem_cons_of_mem _ ht)

end Printable

theorem printable_of_mem_unit {n : Nat} {c : Char} (h : n < 65536) (hc : c ∈ unit n) :
    ' ' ≤ c ∧ c ≤ '~' := by
  have hdigit : ∀ m < 16, ' ' ≤ Nat.digitChar m ∧ Nat.digitChar m ≤ '~' := by decide
  rw [unit, Hex.padded_four h] at hc
  simp only [List.mem_cons, List.not_mem_nil, or_false] at hc
  rcases hc with rfl | rfl | rfl | rfl | rfl | rfl
  · decide
  · decide
  · exact hdigit _ (by omega)
  all_goals exact hdigit _ (Nat.mod_lt _ (by decide))

theorem printable_of_mem_shorthand {c d : Char} (hc : ' ' ≤ c ∧ c ≤ '~') (h : d ∈ ['\\', c]) :
    ' ' ≤ d ∧ d ≤ '~' := by
  rcases List.mem_pair.mp h with rfl | rfl
  · decide
  · exact hc

theorem printable_of_mem_escape {c d : Char} (h : d ∈ escape c) : ' ' ≤ d ∧ d ≤ '~' := by
  have hsize := Reader.toNat_lt c
  rw [escape] at h
  -- the characters with a letter of their own
  iterate 7
    split at h
    · exact printable_of_mem_shorthand (by decide) h
  split at h
  case isTrue hprintable =>
    obtain rfl := List.mem_singleton.mp h
    exact hprintable
  split at h
  case isTrue hsmall => exact printable_of_mem_unit hsmall h
  case isFalse hlarge =>
    rcases List.mem_append.mp h with h | h
    · exact printable_of_mem_unit (by omega) h
    · exact printable_of_mem_unit (by omega) h

theorem toList_quoted (text : String) :
    (quoted text).toList = '"' :: (text.toList.flatMap escape ++ ['"']) := by
  rw [quoted, String.toList_ofList, List.cons_append]

theorem quoted_printable (text : String) : Printable (quoted text) := by
  intro c hc
  rw [toList_quoted] at hc
  rcases List.mem_cons.mp hc with rfl | hc
  · decide
  rcases List.mem_append.mp hc with hc | hc
  · obtain ⟨d, -, hc⟩ := List.mem_flatMap.mp hc
    exact printable_of_mem_escape hc
  · obtain rfl := List.mem_singleton.mp hc
    decide

/-! ## Values -/

/-- A value made of texts, truth values, integers that can be written, lists and named entries. -/
inductive Expressible : Value → Prop
  | null : Expressible .null
  | bool (b : Bool) : Expressible (.bool b)
  | int {n : Int} (h : SeedNode.Writable n) : Expressible (.int n)
  | str (s : String) : Expressible (.str s)
  | list {items : List Value} (h : ∀ v ∈ items, Expressible v) : Expressible (.list items)
  | table {entries : Table} (h : ∀ entry ∈ entries, Expressible entry.2) :
      Expressible (.table entries)

/-- The value is written as the text, on a single line, and read back from it. -/
structure Survives (v : Value) (text : String) : Prop where
  written : write v = .ok text
  printable : Printable text
  reads : ∀ depth, text.length ≤ depth → Reader.ReadsAs (Reader.value? depth) v text

/-- The depth that a text is read to allows for what stands behind its first character. -/
theorem depth_succ {text : String} {c : Char} {cs : List Char} {depth : Nat}
    (htext : text.toList = c :: cs) (hdepth : text.length ≤ depth) :
    ∃ d, depth = d + 1 ∧ cs.length ≤ d := by
  rw [← String.length_toList, htext, List.length_cons] at hdepth
  exact ⟨depth - 1, by omega, by omega⟩

theorem survives_word {v : Value} {text : String} (hwritten : write v = .ok text)
    (hprintable : Printable text)
    (hbegins : ∃ c cs, text.toList = c :: cs ∧ Reader.isBlank c = false ∧ c ≠ ']' ∧ c ≠ '\x7d')
    (hread : ∀ depth rest, Reader.Closes rest →
      Reader.value? (depth + 1) (text.toList ++ rest) = some (v, rest)) : Survives v text := by
  refine ⟨hwritten, hprintable, fun depth hdepth => ⟨hbegins, fun rest hrest => ?_⟩⟩
  obtain ⟨c, cs, htext, -⟩ := hbegins
  obtain ⟨depth, rfl, -⟩ := depth_succ htext hdepth
  exact hread depth rest hrest

theorem survives_null : Survives .null "null" :=
  survives_word rfl (by decide) ⟨'n', _, rfl, by decide⟩ fun _ _ _ => rfl

theorem survives_bool (b : Bool) : Survives (.bool b) (if b then "true" else "false") := by
  cases b with
  | false => exact survives_word rfl (by decide) ⟨'f', _, rfl, by decide⟩ fun _ _ _ => rfl
  | true => exact survives_word rfl (by decide) ⟨'t', _, rfl, by decide⟩ fun _ _ _ => rfl

theorem survives_str (s : String) : Survives (.str s) (quoted s) := by
  refine survives_word rfl (quoted_printable s) ⟨'"', _, toList_quoted s, by decide⟩ ?_
  intro depth rest hrest
  rw [toList_quoted, List.cons_append, List.append_assoc, List.singleton_append, Reader.value?,
    Reader.text?_quoted]
  rfl

theorem isNumeral_bounds {c : Char} (h : Reader.isNumeral c = true) :
    (' ' ≤ c ∧ c ≤ '~') ∧ Reader.isBlank c = false ∧ c ≠ ']' ∧ c ≠ '\x7d' := by
  have hne : ∀ d, Reader.isNumeral d = false → c ≠ d := by
    rintro d hd rfl
    rw [h] at hd
    cases hd
  have hblank : Reader.isBlank c = false := by
    simp only [Reader.isBlank, Bool.or_eq_false_iff, beq_eq_false_iff_ne]
    exact ⟨⟨⟨hne _ rfl, hne _ rfl⟩, hne _ rfl⟩, hne _ rfl⟩
  refine ⟨?_, hblank, hne _ rfl, hne _ rfl⟩
  simp only [Reader.isNumeral, Bool.or_eq_true, beq_iff_eq] at h
  rcases h with ((((h | rfl) | rfl) | rfl) | rfl) | rfl
  · obtain ⟨hlow, hhigh⟩ := Char.isDigit_iff_toNat.mp h
    exact ⟨UInt32.le_iff_toNat_le.mpr (Nat.le_trans (by decide) hlow),
      UInt32.le_iff_toNat_le.mpr (Nat.le_trans hhigh (by decide))⟩
  all_goals decide

theorem survives_int {n : Int} (h : SeedNode.Writable n) : Survives (.int n) (toString n) := by
  have hwritten : write (.int n) = .ok (toString n) := by
    rw [write, decimalText_of_writable h]
    rfl
  obtain ⟨c, cs, htext, hfirst⟩ := Reader.toString_begins h
  refine survives_word hwritten (fun d hd => (isNumeral_bounds ?_).1)
    ⟨c, cs, htext, (isNumeral_bounds hfirst).2⟩ fun depth rest => Reader.value?_toString h
  exact Reader.isNumeral_of_mem_toString hd

/-- What holds of all elements with their texts, where each text may be used as one of them. -/
theorem forall₂_of_mem {α : Type} {R S : α → String → Prop} {as : List α} {texts : List String}
    (h : List.Forall₂ R as texts) (himp : ∀ a, ∀ text ∈ texts, R a text → S a text) :
    List.Forall₂ S as texts := by
  obtain ⟨hlength, hpairs⟩ := List.forall₂_iff_zip.mp h
  refine List.forall₂_iff_zip.mpr ⟨hlength, fun hmem => ?_⟩
  exact himp _ _ (List.of_mem_zip hmem).2 (hpairs hmem)

theorem printable_of_forall₂ {α : Type} {R : α → String → Prop} {as : List α}
    {texts : List String} (h : List.Forall₂ R as texts)
    (hprintable : ∀ a text, R a text → Printable text) : Printable (", ".intercalate texts) := by
  refine .intercalate fun text hmem => ?_
  induction h with
  | nil => cases hmem
  | cons hfirst hrest ih =>
      rcases List.mem_cons.mp hmem with rfl | hmem
      · exact hprintable _ _ hfirst
      · exact ih hmem

/-- Elements that are written and read back one by one are so together, between brackets or
braces. -/
theorem survives_group {α : Type} {element? : Nat → List Char → Option (α × List Char)}
    {R : α → String → Prop} {opening closing : Char} {v : Value} {as : List α}
    {texts : List String} {text : String}
    (hkind : opening = '[' ∧ closing = ']' ∨ opening = '\x7b' ∧ closing = '\x7d')
    (hprintable : ∀ a text, R a text → Printable text)
    (hreads : ∀ a text depth, R a text → text.length ≤ depth →
      Reader.ReadsAs (element? depth) a text)
    (hvalue : ∀ depth cs rest, Reader.group? (element? depth) closing cs = some (as, rest) →
      Reader.value? (depth + 1) (opening :: cs) = some (v, rest))
    (h : List.Forall₂ R as texts) (hwritten : write v = .ok text)
    (htext : text.toList = opening :: ((", ".intercalate texts).toList ++ [closing])) :
    Survives v text := by
  have hopening : (' ' ≤ opening ∧ opening ≤ '~') ∧ Reader.isBlank opening = false
      ∧ opening ≠ ']' ∧ opening ≠ '\x7d' := by
    rcases hkind with ⟨rfl, -⟩ | ⟨rfl, -⟩ <;> decide
  have hclosing : closing = ']' ∨ closing = '\x7d' := hkind.imp And.right And.right
  have hshown : Printable text := by
    intro c hc
    rw [htext] at hc
    rcases List.mem_cons.mp hc with rfl | hc
    · exact hopening.1
    rcases List.mem_append.mp hc with hc | hc
    · exact printable_of_forall₂ h hprintable c hc
    · obtain rfl := List.mem_singleton.mp hc
      rcases hclosing with rfl | rfl <;> decide
  refine ⟨hwritten, hshown, fun depth hdepth =>
    ⟨⟨opening, _, htext, hopening.2⟩, fun rest hrest => ?_⟩⟩
  obtain ⟨depth, rfl, hinner⟩ := depth_succ htext hdepth
  have helements : List.Forall₂ (Reader.ReadsAs (element? depth)) as texts := by
    refine forall₂_of_mem h fun a text hmem ha => hreads a text depth ha ?_
    have hle := Reader.length_le_intercalate hmem
    rw [List.length_append, String.length_toList] at hinner
    omega
  rw [htext, List.cons_append, List.append_assoc, List.singleton_append]
  exact hvalue depth _ _ (Reader.group?_intercalate hclosing helements rest)

/-! ### Lists -/

theorem writeItems_of_survives {items : List Value} {texts : List String}
    (h : List.Forall₂ Survives items texts) : writeItems items = .ok texts := by
  induction h with
  | nil => rfl
  | cons hfirst hrest ih =>
      rw [writeItems, hfirst.written, ih]
      rfl

theorem survives_list {items : List Value} {texts : List String}
    (h : List.Forall₂ Survives items texts) :
    Survives (.list items) ("[" ++ ", ".intercalate texts ++ "]") := by
  refine survives_group (.inl ⟨rfl, rfl⟩) (fun _ _ hv => hv.printable)
    (fun _ _ depth hv => hv.reads depth) (fun depth cs rest hgroup => ?_) h ?_ ?_
  · rw [Reader.value?, hgroup]
    rfl
  · rw [write, writeItems_of_survives h]
    rfl
  · rw [String.toList_append, String.toList_append]
    rfl

/-! ### Tables -/

/-- A name with its value: both are written, and read back. -/
def MemberSurvives (entry : String × Value) (text : String) : Prop :=
  ∃ shown, Survives entry.2 shown ∧ text = quoted entry.1 ++ ": " ++ shown

theorem writeEntries_of_survives {entries : Table} {texts : List String}
    (h : List.Forall₂ MemberSurvives entries texts) : writeEntries entries = .ok texts := by
  induction h with
  | nil => rfl
  | @cons entry text entries texts hfirst hrest ih =>
      obtain ⟨shown, hshown, rfl⟩ := hfirst
      obtain ⟨name, v⟩ := entry
      rw [writeEntries, hshown.written, ih]
      rfl

theorem MemberSurvives.printable {entry : String × Value} {text : String}
    (h : MemberSurvives entry text) : Printable text := by
  obtain ⟨shown, hshown, rfl⟩ := h
  exact ((quoted_printable _).append (by decide)).append hshown.printable

theorem MemberSurvives.reads {entry : String × Value} {text : String} {depth : Nat}
    (h : MemberSurvives entry text) (hdepth : text.length ≤ depth) :
    Reader.ReadsAs (Reader.member? (Reader.value? depth)) entry text := by
  obtain ⟨shown, hshown, rfl⟩ := h
  have hreads := hshown.reads depth (by
    rw [String.length_append] at hdepth
    omega)
  have htext : (quoted entry.1 ++ ": " ++ shown).toList
      = '"' :: (entry.1.toList.flatMap escape ++ '"' :: ':' :: ' ' :: shown.toList) := by
    rw [String.toList_append, String.toList_append, toList_quoted]
    simp
  refine ⟨⟨'"', _, htext, by decide⟩, fun rest hrest => ?_⟩
  have hblank : ∀ cs, Reader.skip (' ' :: cs) = Reader.skip cs := fun _ => rfl
  obtain ⟨c, cs, hbegins, hc, -⟩ := hreads.begins
  have hvalue : Reader.value? depth (Reader.skip (shown.toList ++ rest))
      = some (entry.2, rest) := by
    rw [hbegins, List.cons_append, Reader.skip_of_not_blank hc, ← List.cons_append, ← hbegins]
    exact hreads.reads rest hrest
  rw [htext, List.cons_append, List.append_assoc, List.cons_append, List.cons_append,
    List.cons_append, Reader.member?, Reader.text?_quoted]
  simp only [Option.bind_eq_bind, Option.bind_some,
    Reader.skip_of_not_blank (show Reader.isBlank ':' = false from rfl), hblank, hvalue]
  rfl

theorem survives_table {entries : Table} {texts : List String}
    (h : List.Forall₂ MemberSurvives entries texts) :
    Survives (.table entries) ("\x7b" ++ ", ".intercalate texts ++ "\x7d") := by
  refine survives_group (.inr ⟨rfl, rfl⟩) (fun _ _ hentry => hentry.printable)
    (fun _ _ depth hentry => hentry.reads) (fun depth cs rest hgroup => ?_) h ?_ ?_
  · rw [Reader.value?, hgroup]
    rfl
  · rw [write, writeEntries_of_survives h]
    rfl
  · rw [String.toList_append, String.toList_append]
    rfl

/-! ### All values -/

theorem exists_texts {α : Type} {R : α → String → Prop} {as : List α}
    (h : ∀ a ∈ as, ∃ text, R a text) : ∃ texts, List.Forall₂ R as texts := by
  induction as with
  | nil => exact ⟨[], .nil⟩
  | cons a as ih =>
      obtain ⟨text, htext⟩ := h a List.mem_cons_self
      obtain ⟨texts, htexts⟩ := ih fun b hb => h b (List.mem_cons_of_mem _ hb)
      exact ⟨text :: texts, .cons htext htexts⟩

theorem Expressible.survives {v : Value} (h : Expressible v) : ∃ text, Survives v text := by
  induction h with
  | null => exact ⟨_, survives_null⟩
  | bool b => exact ⟨_, survives_bool b⟩
  | int h => exact ⟨_, survives_int h⟩
  | str s => exact ⟨_, survives_str s⟩
  | list h ih =>
      obtain ⟨texts, htexts⟩ := exists_texts ih
      exact ⟨_, survives_list htexts⟩
  | table h ih =>
      obtain ⟨texts, htexts⟩ := exists_texts (R := MemberSurvives) fun entry hmem => by
        obtain ⟨shown, hshown⟩ := ih entry hmem
        exact ⟨_, shown, hshown, rfl⟩
      exact ⟨_, survives_table htexts⟩

theorem Survives.read {v : Value} {text : String} (h : Survives v text) :
    Reader.read text = some v := by
  have hreads := h.reads text.length (Nat.le_refl _)
  obtain ⟨c, cs, htext, hblank, -⟩ := hreads.begins
  have hread := hreads.reads [] Reader.closes_nil
  have hskip : Reader.skip text.toList = text.toList := by
    rw [htext, Reader.skip_of_not_blank hblank]
  rw [List.append_nil] at hread
  rw [Reader.read, hskip, hread]
  rfl

end SeedNode.Json
