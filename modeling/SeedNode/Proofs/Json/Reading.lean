import Mathlib.Data.List.Forall2
import Mathlib.Data.List.TakeWhile
import SeedNode.Proofs.Json.Reader
import SeedNode.Proofs.Numeric.Writing

/-!
# Structured output, read part by part

What was written is read from the front of a longer text: a character of a text whatever follows it
(`numbers?_escape`), an integer where a comma, a closing bracket or brace or the end follows
(`value?_toString`), and elements with commas between them up to the character that closes them
(`group?_intercalate`), if each of them is read so by itself (`ReadsAs`).
-/

namespace SeedNode

/-! ## Hexadecimal numbers -/

namespace Hex

variable {n : Nat}

/-- The last digit apart, a number is padded as what is left of it. -/
theorem padded_succ {width : Nat} (hwidth : width ≠ 0) (n : Nat) :
    padded (width + 1) n = padded width (n / 16) ++ [Nat.digitChar (n % 16)] := by
  obtain ⟨width, rfl⟩ := Nat.exists_eq_succ_of_ne_zero hwidth
  rcases Nat.lt_or_ge n 16 with hsmall | hlarge
  · rw [padded, padded, Nat.toDigits_of_lt_base hsmall, Nat.div_eq_of_lt hsmall,
      Nat.mod_eq_of_lt hsmall, Nat.toDigits_zero]
    simp [List.replicate_succ']
  · rw [padded, padded, Nat.toDigits_of_base_le (by decide) hlarge, List.length_append,
      List.length_singleton, Nat.add_sub_add_right, List.append_assoc]

theorem padded_four (h : n < 65536) :
    padded 4 n = [Nat.digitChar (n / 16 / 16 / 16), Nat.digitChar (n / 16 / 16 % 16),
      Nat.digitChar (n / 16 % 16), Nat.digitChar (n % 16)] := by
  rw [padded_succ (by decide), padded_succ (by decide), padded_succ (by decide), padded,
    Nat.toDigits_of_lt_base (show n / 16 / 16 / 16 < 16 by omega)]
  rfl

theorem digit?_digitChar (h : n < 16) : digit? (Nat.digitChar n) = some n := by
  revert n
  decide

end Hex

namespace Json

namespace Reader

variable {n : Nat} {c : Char} {cs rest : List Char} {ns : List Nat}

/-! ## Texts -/

theorem hexNumber?_padded (h : n < 65536) : hexNumber? (Hex.padded 4 n) = some n := by
  rw [Hex.padded_four h]
  simp only [hexNumber?, List.foldlM_cons, List.foldlM_nil,
    Hex.digit?_digitChar (show n / 16 / 16 / 16 < 16 by omega),
    Hex.digit?_digitChar (Nat.mod_lt _ (show 0 < 16 by decide)), Option.map_some,
    Option.bind_eq_bind, Option.bind_some]
  exact congrArg some (by omega)

theorem numbers?_unit (h : n < 65536) (cs : List Char) :
    numbers? (unit n ++ cs) = (numbers? cs).map (Prod.map (n :: ·) id) := by
  have hnumber := hexNumber?_padded h
  rw [Hex.padded_four h] at hnumber
  rw [unit, Hex.padded_four h]
  simp only [List.cons_append, List.nil_append, numbers?, hnumber]
  cases numbers? cs <;> rfl

/-- The numbers that a character is written by: its own, or those of its halves. -/
def numbersOf (c : Char) : List Nat :=
  if c.toNat < 0x10000 then [c.toNat]
  else [0xD800 + (c.toNat - 0x10000) / 0x400, 0xDC00 + (c.toNat - 0x10000) % 0x400]

theorem toNat_lt (c : Char) : c.toNat < 0x110000 := by
  rcases c.valid with h | ⟨-, h⟩
  · exact Nat.lt_trans h (by decide)
  · exact h

theorem chars?_numbersOf (c : Char) (ns : List Nat) :
    chars? (numbersOf c ++ ns) = (chars? ns).map (c :: ·) := by
  have hsize := toNat_lt c
  rw [numbersOf]
  split
  case isTrue hsmall =>
    have hwhole : ¬(0xD800 ≤ c.toNat ∧ c.toNat < 0xE000) := by
      rintro ⟨hlow, hhigh⟩
      rcases c.valid with h | ⟨h, -⟩
      · exact absurd (show c.toNat < 0xD800 from h) (by omega)
      · exact absurd (show 0xDFFF < c.toNat from h) (by omega)
    rw [List.singleton_append, chars?.eq_def]
    simp only
    rw [if_neg (by omega), if_neg (by omega), Char.ofNat_toNat]
  case isFalse hlarge =>
    have hjoined : 0x10000 + (0xD800 + (c.toNat - 0x10000) / 0x400 - 0xD800) * 0x400
        + (0xDC00 + (c.toNat - 0x10000) % 0x400 - 0xDC00) = c.toNat := by omega
    rw [List.cons_append, List.singleton_append, chars?, if_pos (by omega), if_pos (by omega),
      hjoined, Char.ofNat_toNat]

theorem numbers?_raw (hquote : c ≠ '"') (hbackslash : c ≠ '\\') (hcontrol : ¬c < ' ')
    (cs : List Char) : numbers? (c :: cs) = (numbers? cs).map (Prod.map (c.toNat :: ·) id) := by
  rw [numbers?.eq_def]
  simp only
  rw [if_neg hquote, if_neg hbackslash, if_neg hcontrol]
  cases numbers? cs <;> rfl

/-- A character is read as it was written, whatever follows. -/
theorem numbers?_escape (c : Char) (cs : List Char) :
    numbers? (escape c ++ cs) = (numbers? cs).map (Prod.map (numbersOf c ++ ·) id) := by
  have hsize := toNat_lt c
  have hshort : ∀ {m : Nat}, numbersOf c = [m] →
      (numbers? cs).bind (fun p => some (m :: p.1, p.2))
        = (numbers? cs).map (Prod.map (numbersOf c ++ ·) id) := by
    intro m hnumber
    rw [hnumber]
    cases numbers? cs <;> rfl
  rw [escape]
  -- the characters with a letter of their own
  iterate 7
    split
    · subst c
      exact hshort rfl
  split
  case isTrue hprintable =>
    have hsmall : c.toNat < 0x10000 :=
      Nat.lt_of_le_of_lt (UInt32.le_iff_toNat_le.mp hprintable.2) (by decide)
    rw [numbersOf, if_pos hsmall]
    exact numbers?_raw ‹_› ‹_› (Char.not_lt.mpr hprintable.1) cs
  split
  case isTrue hsmall =>
    rw [numbersOf, if_pos hsmall]
    exact numbers?_unit hsmall cs
  case isFalse hlarge =>
    rw [numbersOf, if_neg hlarge, List.append_assoc, numbers?_unit (by omega),
      numbers?_unit (by omega), Option.map_map]
    rfl

theorem numbers?_quoted (text rest : List Char) :
    numbers? (text.flatMap escape ++ '"' :: rest) = some (text.flatMap numbersOf, rest) := by
  induction text with
  | nil =>
      rw [List.flatMap_nil, List.nil_append, numbers?.eq_def]
      rfl
  | cons c text ih =>
      rw [List.flatMap_cons, List.append_assoc, numbers?_escape, ih, List.flatMap_cons]
      rfl

theorem chars?_flatMap (text : List Char) : chars? (text.flatMap numbersOf) = some text := by
  induction text with
  | nil => rfl
  | cons c text ih =>
      rw [List.flatMap_cons, chars?_numbersOf, ih]
      rfl

/-- Behind its opening quotation mark, a text ends where it was ended, and nowhere before. -/
theorem text?_quoted (text : String) (rest : List Char) :
    text? (text.toList.flatMap escape ++ '"' :: rest) = some (text, rest) := by
  rw [text?, numbers?_quoted]
  simp only [Option.bind_eq_bind, Option.bind_some, chars?_flatMap, String.ofList_toList]
  rfl

/-! ## Integers -/

/-- What can follow a value: the end, or a character that goes on with what is around it. -/
def Closes (rest : List Char) : Prop :=
  ∀ c ∈ rest.head?, c = ',' ∨ c = ']' ∨ c = '\x7d'

theorem closes_nil : Closes [] :=
  fun _ h => absurd h (Option.not_mem_none _)

theorem closes_cons (h : c = ',' ∨ c = ']' ∨ c = '\x7d') : Closes (c :: rest) := by
  intro d hd
  obtain rfl := Option.mem_some.mp hd
  exact h

theorem Closes.not_numeral (h : Closes rest) : ∀ c ∈ rest.head?, isNumeral c = false := by
  intro c hc
  rcases h c hc with rfl | rfl | rfl <;> rfl

theorem split_numeral (hnumeral : ∀ c ∈ cs, isNumeral c = true) (h : Closes rest) :
    (cs ++ rest).takeWhile isNumeral = cs ∧ (cs ++ rest).dropWhile isNumeral = rest := by
  have hrest : rest.takeWhile isNumeral = [] ∧ rest.dropWhile isNumeral = rest := by
    cases rest with
    | nil => exact ⟨rfl, rfl⟩
    | cons c rest =>
        have hc : ¬isNumeral c = true := by simp [h.not_numeral c rfl]
        exact ⟨List.takeWhile_cons_of_neg hc, List.dropWhile_cons_of_neg hc⟩
  rw [List.takeWhile_append_of_pos hnumeral, List.dropWhile_append_of_pos hnumeral, hrest.1,
    hrest.2, List.append_nil]
  exact ⟨rfl, rfl⟩

theorem isDigit_of_mem (h : c ∈ Nat.toDigits 10 n) : c.isDigit = true :=
  Nat.isDigit_of_mem_toDigits (by decide) (by decide) h

/-- Only zero begins with a zero. -/
theorem length_of_leading_zero (n : Nat) (h : (Nat.toDigits 10 n).head? = some '0') :
    (Nat.toDigits 10 n).length = 1 := by
  induction n using Nat.strongRecOn with
  | ind n ih =>
      rcases Nat.lt_or_ge n 10 with hsmall | hlarge
      · rw [Nat.toDigits_of_lt_base hsmall]
        rfl
      · rw [Nat.toDigits_of_base_le (by decide) hlarge,
          List.head?_append_of_ne_nil _ Nat.toDigits_ne_nil] at h
        have hshort := ih (n / 10) (by omega) h
        have hsmall := (Nat.length_toDigits_le_iff (by decide) (by decide)).mp (Nat.le_of_eq hshort)
        have hzero : ∀ m < 10, 1 ≤ m → (Nat.toDigits 10 m).head? ≠ some '0' := by decide
        exact absurd h (hzero _ hsmall (by omega))

theorem valueOf_toDigits (n : Nat) : Reading.valueOf (Nat.toDigits 10 n) = n := by
  have hvalue := @Nat.ofDigitChars_ten_toDigits n
  rw [Nat.ofDigitChars_eq_foldl] at hvalue
  rw [Reading.valueOf]
  simp only [Nat.mul_comm _ 10]
  exact hvalue

theorem length_toDigits_le {k : Nat} (hk : 0 < k) (h : n < Nat.pow 10 k) :
    (Nat.toDigits 10 n).length ≤ k := by
  rw [Nat.pow_eq] at h
  exact (Nat.length_toDigits_le_iff (by decide) hk).mpr h

theorem unsigned?_toDigits (negative : Bool) (h : n < Nat.pow 10 maxDigits) :
    unsigned? negative (Nat.toDigits 10 n) = some (.int (if negative then -n else n)) := by
  have hdigits : ∀ c ∈ Nat.toDigits 10 n, c.isDigit = true := fun c => isDigit_of_mem
  have hlength : (Nat.toDigits 10 n).length ≤ maxDigits := length_toDigits_le (by decide) h
  have hleading : ¬((Nat.toDigits 10 n).head? = some '0' ∧ (Nat.toDigits 10 n).length ≠ 1) :=
    fun h => h.2 (length_of_leading_zero n h.1)
  have hwhole : (Nat.toDigits 10 n).takeWhile Char.isDigit = Nat.toDigits 10 n :=
    List.takeWhile_eq_self_iff.mpr hdigits
  have htail : (Nat.toDigits 10 n).dropWhile Char.isDigit = [] :=
    List.dropWhile_eq_nil_iff.mpr hdigits
  simp only [unsigned?, hwhole, htail, valueOf_toDigits]
  rw [if_neg (not_or.mpr ⟨Nat.toDigits_ne_nil, hleading⟩), if_pos True.intro,
    if_neg (Nat.not_lt.mpr hlength)]

theorem number?_digit (h : c.isDigit = true) : number? (c :: cs) = unsigned? false (c :: cs) := by
  rw [number?]
  rintro rest ⟨rfl, -⟩
  cases h

theorem toList_toString_of_nonneg (n : Nat) : (toString (n : Int)).toList = Nat.toDigits 10 n := by
  have htext : toString (n : Int) = toString n := rfl
  rw [htext, Nat.toString_eq_ofList_toDigits, String.toList_ofList]

theorem toList_toString_of_neg (n : Nat) :
    (toString (Int.negSucc n)).toList = '-' :: Nat.toDigits 10 (n + 1) := by
  have htext : toString (Int.negSucc n) = "-" ++ toString (n + 1) := rfl
  rw [htext, Nat.toString_eq_ofList_toDigits, String.toList_append, String.toList_ofList,
    String.toList_ofList, List.singleton_append]

theorem number?_toString {n : Int} (h : Writable n) :
    number? (toString n).toList = some (.int n) := by
  cases n with
  | ofNat n =>
      obtain ⟨c, cs, hcs⟩ := List.exists_cons_of_ne_nil (@Nat.toDigits_ne_nil n 10)
      have hc : c.isDigit = true := isDigit_of_mem (n := n) (by rw [hcs]; exact List.mem_cons_self)
      have hread := @unsigned?_toDigits n false h
      rw [hcs] at hread
      rw [Int.ofNat_eq_natCast, toList_toString_of_nonneg, hcs, number?_digit hc, hread]
      rfl
  | negSucc n =>
      rw [toList_toString_of_neg]
      exact unsigned?_toDigits true h

theorem isNumeral_of_mem_toString {n : Int} (h : c ∈ (toString n).toList) : isNumeral c = true := by
  have hdigit : ∀ m, c ∈ Nat.toDigits 10 m → isNumeral c = true := by
    intro m hm
    simp [isNumeral, isDigit_of_mem hm]
  cases n with
  | ofNat n =>
      rw [Int.ofNat_eq_natCast, toList_toString_of_nonneg] at h
      exact hdigit _ h
  | negSucc n =>
      rw [toList_toString_of_neg] at h
      rcases List.mem_cons.mp h with rfl | h
      · rfl
      · exact hdigit _ h

theorem value?_numeral {depth : Nat} (h : isNumeral c = true) :
    value? (depth + 1) (c :: cs) = (number? ((c :: cs).takeWhile isNumeral)).map
      fun v => (v, (c :: cs).dropWhile isNumeral) := by
  rw [value?]
  · cases number? ((c :: cs).takeWhile isNumeral) <;> rfl
  all_goals
    rintro rest ⟨rfl, -⟩
    cases h

theorem toString_begins {n : Int} (h : Writable n) :
    ∃ c cs, (toString n).toList = c :: cs ∧ isNumeral c = true := by
  have hread := number?_toString h
  cases htext : (toString n).toList with
  | nil =>
      rw [htext] at hread
      cases hread
  | cons c cs =>
      have hmem : c ∈ (toString n).toList := by
        rw [htext]
        exact List.mem_cons_self
      exact ⟨c, cs, rfl, isNumeral_of_mem_toString hmem⟩

theorem value?_toString {n : Int} {depth : Nat} (h : Writable n) (hrest : Closes rest) :
    value? (depth + 1) ((toString n).toList ++ rest) = some (.int n, rest) := by
  have hread := number?_toString h
  obtain ⟨c, cs, htext, hfirst⟩ := toString_begins h
  obtain ⟨hnumeral, htail⟩ := split_numeral (fun c => isNumeral_of_mem_toString (n := n)) hrest
  rw [htext, List.cons_append] at hnumeral htail ⊢
  rw [value?_numeral hfirst, hnumeral, htail, ← htext, hread]
  rfl

/-! ## Elements with commas between them -/

section Elements

variable {α : Type} {element? : List Char → Option (α × List Char)} {closing : Char} {a : α}
  {as : List α} {text : String} {texts : List String}

theorem skip_of_not_blank (h : isBlank c = false) : skip (c :: cs) = c :: cs :=
  List.dropWhile_cons_of_neg (by simp [h])

/-- Before anything that can follow it, the text is read as one element. It does not begin as
something between elements does. -/
structure ReadsAs (element? : List Char → Option (α × List Char)) (a : α) (text : String) :
    Prop where
  begins : ∃ c cs, text.toList = c :: cs ∧ isBlank c = false ∧ c ≠ ']' ∧ c ≠ '\x7d'
  reads : ∀ rest, Closes rest → element? (text.toList ++ rest) = some (a, rest)

theorem intercalate_begins (htext : text.toList = c :: cs) (texts : List String) :
    ∃ tail, (", ".intercalate (text :: texts)).toList = c :: tail := by
  cases texts with
  | nil => exact ⟨cs, by rw [String.intercalate_singleton, htext]⟩
  | cons next texts =>
      rw [String.intercalate_cons_cons, String.append_assoc, String.toList_append, htext]
      exact ⟨_, rfl⟩

theorem skip_intercalate (h : ReadsAs element? a text) (texts : List String) (rest : List Char) :
    skip ((", ".intercalate (text :: texts)).toList ++ rest)
      = (", ".intercalate (text :: texts)).toList ++ rest := by
  obtain ⟨c, cs, htext, hblank, -⟩ := h.begins
  obtain ⟨tail, htail⟩ := intercalate_begins htext texts
  rw [htail, List.cons_append, skip_of_not_blank hblank]

theorem sequence?_intercalate (hclosing : closing = ']' ∨ closing = '\x7d')
    (h : List.Forall₂ (ReadsAs element?) (a :: as) (text :: texts)) {bound : Nat}
    (hbound : as.length < bound) (rest : List Char) :
    sequence? element? closing bound
        ((", ".intercalate (text :: texts)).toList ++ closing :: rest)
      = some (a :: as, rest) := by
  induction texts generalizing a as text bound with
  | nil =>
      obtain ⟨hfirst, hrest⟩ := List.forall₂_cons.mp h
      obtain rfl := List.forall₂_nil_right_iff.mp hrest
      obtain ⟨bound, rfl⟩ := Nat.exists_eq_succ_of_ne_zero (Nat.ne_zero_of_lt hbound)
      have hblank : isBlank closing = false := by rcases hclosing with rfl | rfl <;> rfl
      rw [String.intercalate_singleton, sequence?,
        hfirst.reads _ (closes_cons (.inr hclosing))]
      simp only [Option.bind_eq_bind, Option.bind_some, skip_of_not_blank hblank, if_pos]
  | cons next texts ih =>
      obtain ⟨hfirst, hrest⟩ := List.forall₂_cons.mp h
      obtain ⟨b, bs, hsecond, hlater, rfl⟩ := List.forall₂_cons_right_iff.mp hrest
      obtain ⟨bound, rfl⟩ := Nat.exists_eq_succ_of_ne_zero (Nat.ne_zero_of_lt hbound)
      have hlater := ih hrest (Nat.lt_of_succ_lt_succ hbound)
      have hcomma : closing ≠ ',' := by rcases hclosing with rfl | rfl <;> decide
      have hblank : ∀ cs, skip (' ' :: cs) = skip cs := fun cs => rfl
      rw [String.intercalate_cons_cons, String.append_assoc, String.toList_append,
        String.toList_append, List.append_assoc, List.append_assoc,
        show ", ".toList = [',', ' '] from rfl, List.cons_append, List.singleton_append, sequence?,
        hfirst.reads _ (closes_cons (.inl rfl))]
      simp only [Option.bind_eq_bind, Option.bind_some,
        skip_of_not_blank (show isBlank ',' = false from rfl), if_neg hcomma.symm, if_true, hblank,
        skip_intercalate hsecond, hlater]
      rfl

theorem length_le_intercalate (h : text ∈ texts) :
    text.length ≤ (", ".intercalate texts).length := by
  induction texts with
  | nil => cases h
  | cons first texts ih =>
      cases texts with
      | nil =>
          obtain rfl := List.mem_singleton.mp h
          rw [String.intercalate_singleton]
      | cons next texts =>
          rw [String.intercalate_cons_cons, String.length_append, String.length_append]
          rcases List.mem_cons.mp h with rfl | h
          · omega
          · have hle := ih h
            omega

/-- There are no more elements than characters. -/
theorem count_le_intercalate (h : List.Forall₂ (ReadsAs element?) as texts) :
    as.length ≤ (", ".intercalate texts).length := by
  induction h with
  | nil => exact Nat.zero_le _
  | @cons a text as texts hfirst hrest ih =>
      obtain ⟨c, cs, htext, -⟩ := hfirst.begins
      have hlength : text.length = cs.length + 1 := by
        rw [← String.length_toList, htext, List.length_cons]
      cases hrest with
      | nil =>
          rw [String.intercalate_singleton, List.length_singleton]
          omega
      | cons hsecond hlater =>
          rw [String.intercalate_cons_cons, String.length_append, String.length_append,
            List.length_cons]
          omega

theorem group?_intercalate (hclosing : closing = ']' ∨ closing = '\x7d')
    (h : List.Forall₂ (ReadsAs element?) as texts) (rest : List Char) :
    group? element? closing ((", ".intercalate texts).toList ++ closing :: rest)
      = some (as, rest) := by
  have hblank : isBlank closing = false := by rcases hclosing with rfl | rfl <;> rfl
  cases h with
  | nil =>
      rw [String.intercalate_nil, String.toList_empty, List.nil_append, group?,
        skip_of_not_blank hblank]
      exact if_pos rfl
  | @cons a text as texts hfirst hrest =>
      have hall : List.Forall₂ (ReadsAs element?) (a :: as) (text :: texts) := .cons hfirst hrest
      have hcount := count_le_intercalate hall
      obtain ⟨c, cs, htext, -, hbracket, hbrace⟩ := hfirst.begins
      have hne : c ≠ closing := by rcases hclosing with rfl | rfl <;> assumption
      obtain ⟨tail, htail⟩ := intercalate_begins htext texts
      have hbound : as.length < (c :: (tail ++ closing :: rest)).length := by
        rw [← String.length_toList, htail, List.length_cons, List.length_cons] at hcount
        rw [List.length_cons, List.length_append]
        omega
      have hread := sequence?_intercalate hclosing hall hbound rest
      rw [group?, skip_intercalate hfirst]
      rw [htail, List.cons_append] at hread ⊢
      exact (if_neg hne).trans hread

end Elements

end Reader

end Json

end SeedNode
