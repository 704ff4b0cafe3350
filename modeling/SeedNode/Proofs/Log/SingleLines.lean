import SeedNode.Log.Format
import SeedNode.Proofs.Json.RoundTrip

/-!
# Records on a single line

In the form for the system log nothing is escaped: a record is a single line just if no text in its
message has a line break of its own (`Record.tidy_iff`). Numbers never have one, nor have the names
of levels, ports and kinds of values.
-/

namespace SeedNode

variable {s t : String}

/-! ## Texts without line breaks -/

/-- The characters at which a text is taken apart into lines. -/
def lineBreaks : List Char :=
  ['\n', '\r', '\x0b', '\x0c', '\x1c', '\x1d', '\x1e', '\u0085', '\u2028', '\u2029']

/-- The text has no line break. -/
def Unbroken (text : String) : Prop :=
  ∀ c ∈ text.toList, c ∉ lineBreaks

instance (text : String) : Decidable (Unbroken text) :=
  List.decidableBAll (· ∉ lineBreaks) text.toList

@[simp] theorem unbroken_append : Unbroken (s ++ t) ↔ Unbroken s ∧ Unbroken t := by
  rw [Unbroken, String.toList_append]
  exact List.forall_mem_append

theorem Unbroken.append (hs : Unbroken s) (ht : Unbroken t) : Unbroken (s ++ t) :=
  unbroken_append.mpr ⟨hs, ht⟩

/-- Around a text, what has no line break does not count. -/
theorem unbroken_around {before after : String} (hbefore : Unbroken before)
    (hafter : Unbroken after) : Unbroken (before ++ s ++ after) ↔ Unbroken s := by
  rw [unbroken_append, unbroken_append, and_iff_left hafter, and_iff_right hbefore]

theorem unbroken_behind {before : String} (hbefore : Unbroken before) :
    Unbroken (before ++ s) ↔ Unbroken s := by
  rw [unbroken_append, and_iff_right hbefore]

theorem unbroken_of_printable (h : Json.Printable s) : Unbroken s := by
  have hbreaks : (lineBreaks.all fun c => ¬(' ' ≤ c ∧ c ≤ '~')) = true := by decide
  intro c hc hbreak
  exact of_decide_eq_true (List.all_eq_true.mp hbreaks c hbreak) (h c hc)

/-! ## Numbers -/

theorem unbroken_int (n : Int) : Unbroken (toString n) :=
  unbroken_of_printable fun _ hc =>
    (Json.isNumeral_bounds (Json.Reader.isNumeral_of_mem_toString hc)).1

theorem unbroken_nat (n : Nat) : Unbroken (toString n) :=
  unbroken_int n

theorem unbroken_decimalText {n : Int} (h : decimalText n = .ok s) : Unbroken s := by
  rw [decimalText] at h
  split at h
  · obtain rfl := Except.ok.inj h
    exact unbroken_int n
  · cases h

/-- All the characters are among those that numbers are made of. -/
def Numeral (cs : List Char) : Prop :=
  ∀ c ∈ cs, Json.Reader.isNumeral c = true

theorem numeral_zeros (n : Nat) : Numeral (List.replicate n '0') := by
  intro c hc
  rw [(List.mem_replicate.mp hc).2]
  rfl

theorem numeral_digits (n : Nat) : Numeral (Nat.toDigits 10 n) := by
  intro c hc
  simp [Json.Reader.isNumeral, Json.Reader.isDigit_of_mem hc]

namespace Numeral

variable {cs ds : List Char} {c : Char}

theorem append (hcs : Numeral cs) (hds : Numeral ds) : Numeral (cs ++ ds) :=
  List.forall_mem_append.mpr ⟨hcs, hds⟩

theorem cons (hc : Json.Reader.isNumeral c = true) (hcs : Numeral cs) : Numeral (c :: cs) :=
  List.forall_mem_cons.mpr ⟨hc, hcs⟩

theorem take (h : Numeral cs) (n : Nat) : Numeral (cs.take n) :=
  fun c hc => h c (List.mem_of_mem_take hc)

theorem drop (h : Numeral cs) (n : Nat) : Numeral (cs.drop n) :=
  fun c hc => h c (List.mem_of_mem_drop hc)

theorem positional (h : Numeral cs) (exponent : Int) :
    Numeral (Decimal.positional cs exponent) := by
  simp only [Decimal.positional]
  split
  · exact (h.append (numeral_zeros _)).append (.cons rfl (.cons rfl (List.forall_mem_nil _)))
  split
  · exact (h.take _).append (.cons rfl (h.drop _))
  · exact (cons rfl (cons rfl (numeral_zeros _))).append h

theorem scientific (h : Numeral cs) (leading : Int) (width : Nat) :
    Numeral (Decimal.scientific cs leading width) := by
  have hfraction : Numeral (if (cs.drop 1).isEmpty then [] else '.' :: cs.drop 1) := by
    split
    · exact List.forall_mem_nil _
    · exact .cons rfl (h.drop 1)
  have hsign : Json.Reader.isNumeral (if leading < 0 then '-' else '+') = true := by
    split <;> rfl
  simp only [Decimal.scientific]
  exact (((h.take 1).append hfraction).append (cons rfl (cons hsign (numeral_zeros _)))).append
    (numeral_digits _)

theorem unbroken (h : Numeral cs) : Unbroken (String.ofList cs) := by
  refine unbroken_of_printable fun c hc => ?_
  rw [String.toList_ofList] at hc
  exact (Json.isNumeral_bounds (h c hc)).1

end Numeral

theorem numeral_decimal (d : Decimal) (style : Notation) : Numeral (d.chars style) := by
  simp only [Decimal.chars]
  split
  · exact .cons rfl (.cons rfl (.cons rfl (List.forall_mem_nil _)))
  split
  · exact (numeral_digits _).positional _
  · exact (numeral_digits _).scientific _ _

theorem unbroken_float (x : Float) : Unbroken (Value.numberStyle.write x) := by
  have hsign : ∀ b : Bool, Unbroken (if b then "-" else "") := by decide
  simp only [Notation.write]
  split
  · decide
  split
  · exact (hsign _).append (by decide)
  · exact (hsign _).append (numeral_decimal _ _).unbroken

/-! ## Records -/

theorem Level.unbroken_name (level : Level) : Unbroken level.name := by
  have hnamed : ∀ entry ∈ named, Unbroken entry.2 := by decide
  rw [name]
  cases hfound : named.lookup level with
  | none => exact .append (by decide) (unbroken_int level)
  | some text =>
      obtain ⟨before, after, hsplit, -⟩ := List.lookup_eq_some_iff.mp hfound
      exact hnamed (level, text) (by rw [hsplit]; simp)

namespace Record

variable {r : Record}

/-- In the form for the system log, the record is a single line. -/
def Tidy (r : Record) : Prop :=
  ∀ now, ∃ line, LineFormat.system.write now r = .ok line ∧ Unbroken line

/-- Where a record states no cause, it is a single line just if its message is. -/
theorem tidy_iff (hcause : r.cause = .unstated) : r.Tidy ↔ Unbroken r.message := by
  have hwrite : ∀ now, LineFormat.system.write now r = .ok (r.level.name ++ ": " ++ r.message) := by
    intro now
    rw [LineFormat.write, hcause]
    rfl
  have hline : Unbroken (r.level.name ++ ": " ++ r.message) ↔ Unbroken r.message :=
    unbroken_behind (r.level.unbroken_name.append (by decide))
  constructor
  · intro h
    obtain ⟨line, hsome, hunbroken⟩ := h 0
    rw [hwrite] at hsome
    exact hline.mp (Except.ok.inj hsome ▸ hunbroken)
  · exact fun h now => ⟨_, hwrite now, hline.mpr h⟩

end Record

/-- Records that show certain texts as they are: without a line break in these, each record is a
single line, and where all of them are shown, only then. -/
structure Repeats (texts : List String) (records : List Record) (whole : Prop) : Prop where
  tidy : (∀ text ∈ texts, Unbroken text) → ∀ r ∈ records, r.Tidy
  broken : whole → (∃ text ∈ texts, ¬Unbroken text) → ∃ r ∈ records, ¬r.Tidy

end SeedNode
