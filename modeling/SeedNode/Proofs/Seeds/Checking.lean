import SeedNode.Proofs.Seeds.LongIntegers

/-!
# The rules for an entry

An entry of the seed list is held to six rules: it is a table, its three settings are there and of
the right kind, its key has the right form, and its port is in range. An entry that keeps to all of
them is accepted as it stands. Otherwise the first rule that it breaks gives the reason for which it
is skipped, whatever other rules it breaks (`validate_decides`).
-/

namespace SeedNode.Seeds

variable {τ : Type} {node : Value} {size : Int} {e : Entry}

/-! ## Rules -/

/-- The rules for an entry. -/
inductive Rule where
  | table
  | publicKey
  | port
  | address
  | keyForm
  | portRange

/-- How many rules are checked before. -/
def Rule.rank : Rule → Nat
  | table => 0
  | publicKey => 1
  | port => 2
  | address => 3
  | keyForm => 4
  | portRange => 5

/-- What a value has under a name, if it is a table. -/
def setting? (node : Value) (name : String) : Option Value :=
  match node with
  | .table settings => settings.lookup name
  | _ => none

/-- Whether a character is a digit in base sixteen, in either letter case. -/
def IsHexDigit (c : Char) : Prop :=
  '0' ≤ c ∧ c ≤ '9' ∨ 'a' ≤ c ∧ c ≤ 'f' ∨ 'A' ≤ c ∧ c ≤ 'F'

/-- What a rule asks of a value where keys have a given size. A truth value is no integer. -/
def Rule.Met (size : Int) (node : Value) : Rule → Prop
  | table => ∃ settings, node = .table settings
  | publicKey => ∃ key, setting? node "public_key" = some (.str key)
  | port => ∃ n, setting? node "port" = some (.int n)
  | address => ∃ address, setting? node "address" = some (.str address)
  | keyForm => ∃ key, setting? node "public_key" = some (.str key)
      ∧ (key.length : Int) = 2 * size ∧ ∀ c ∈ key.toList, IsHexDigit c
  | portRange => ∃ n, setting? node "port" = some (.int n) ∧ 1 ≤ n ∧ n ≤ 65535

/-- The rule is broken, and those checked before it are kept. -/
structure Rule.BrokenFirst (size : Int) (node : Value) (rule : Rule) : Prop where
  broken : ¬rule.Met size node
  earlier : ∀ other : Rule, other.rank < rule.rank → other.Met size node

/-- The reason that a broken rule gives. -/
inductive Rule.Objects (node : Value) : Rule → String → Prop
  | table : Objects node .table "entry is not a table"
  | publicKey : Objects node .publicKey "Couldn't find 'public_key' setting"
  | port : Objects node .port "Couldn't find 'port' setting"
  | address : Objects node .address "Couldn't find 'address' setting"
  | keyForm {key : String} (h : setting? node "public_key" = some (.str key)) :
      Objects node .keyForm s!"Invalid 'public_key': {key}"
  | portRange {n : Int} (h : setting? node "port" = some (.int n)) :
      Objects node .portRange s!"Invalid 'port': {n}, should be in [1, 65535]"

theorem Rule.met_or_brokenFirst (size : Int) (node : Value) :
    (∀ rule : Rule, rule.Met size node) ∨ ∃ rule, Rule.BrokenFirst size node rule := by
  have hranks : ∀ limit, (∀ rule : Rule, rule.rank < limit → rule.Met size node)
      ∨ ∃ rule, Rule.BrokenFirst size node rule := by
    intro limit
    induction limit with
    | zero => exact .inl fun rule h => absurd h (Nat.not_lt_zero _)
    | succ limit ih =>
        refine ih.elim (fun hearlier => ?_) .inr
        by_cases hbroken : ∃ rule : Rule, rule.rank = limit ∧ ¬rule.Met size node
        · obtain ⟨rule, rfl, hrule⟩ := hbroken
          exact .inr ⟨rule, hrule, hearlier⟩
        · refine .inl fun rule h => ?_
          rcases Nat.lt_succ_iff_lt_or_eq.mp h with hless | heq
          · exact hearlier rule hless
          · exact Classical.not_not.mp fun hrule => hbroken ⟨rule, heq, hrule⟩
  refine (hranks 6).imp_left fun hall rule => hall rule ?_
  cases rule <;> decide

/-! ## The check -/

theorem isDigit_iff (c : Char) : Hex.isDigit c = true ↔ IsHexDigit c := by
  rw [Hex.isDigit, Hex.digit?, IsHexDigit]
  split
  · simp_all
  split
  · simp_all
  split <;> simp_all

theorem isKey_eq_true {text : String} : isKey size text = true
    ↔ (text.length : Int) = 2 * size ∧ ∀ c ∈ text.toList, IsHexDigit c := by
  simp only [isKey, Bool.and_eq_true, beq_iff_eq, List.all_eq_true, isDigit_iff, Int.mul_comm size]

theorem validate_accepted_iff : validate node size = .ok (.accepted e)
    ↔ (∀ rule : Rule, rule.Met size node)
      ∧ setting? node "public_key" = some (.str e.publicKey)
      ∧ setting? node "port" = some (.int e.port)
      ∧ setting? node "address" = some (.str e.address) := by
  rw [validate_eq_accepted, examine_eq_ok]
  constructor
  · rintro ⟨settings, rfl, hkey, hport, haddress, hform, hrange⟩
    refine ⟨fun rule => ?_, hkey, hport, haddress⟩
    cases rule with
    | table => exact ⟨settings, rfl⟩
    | publicKey => exact ⟨_, hkey⟩
    | port => exact ⟨_, hport⟩
    | address => exact ⟨_, haddress⟩
    | keyForm => exact ⟨_, hkey, isKey_eq_true.mp hform⟩
    | portRange => exact ⟨_, hport, Port.isValid_iff.mp hrange⟩
  · rintro ⟨hall, hkey, hport, haddress⟩
    obtain ⟨settings, rfl⟩ := hall .table
    obtain ⟨key, hsame, hform⟩ := hall .keyForm
    obtain rfl := Value.str.inj (Option.some.inj (hkey.symm.trans hsame))
    obtain ⟨n, hsame, hrange⟩ := hall .portRange
    obtain rfl := Value.int.inj (Option.some.inj (hport.symm.trans hsame))
    exact ⟨settings, rfl, hkey, hport, haddress, isKey_eq_true.mpr hform,
      Port.isValid_iff.mpr hrange⟩

theorem accepted_of_kept (h : ∀ rule : Rule, rule.Met size node) :
    ∃ e, validate node size = .ok (.accepted e) := by
  obtain ⟨key, hkey⟩ := h .publicKey
  obtain ⟨port, hport⟩ := h .port
  obtain ⟨address, haddress⟩ := h .address
  exact ⟨⟨key, port, address⟩, validate_accepted_iff.mpr ⟨h, hkey, hport, haddress⟩⟩

theorem stringOf_of_missing {settings : Table} {name : String}
    (h : ¬∃ text, settings.lookup name = some (.str text)) :
    stringOf settings name = .error (.missing name) := by
  rw [stringOf]
  split
  · exact absurd ⟨_, ‹_›⟩ h
  · rfl

theorem intOf_of_missing {settings : Table} {name : String}
    (h : ¬∃ n, settings.lookup name = some (.int n)) :
    intOf settings name = .error (.missing name) := by
  rw [intOf]
  split
  · exact absurd ⟨_, ‹_›⟩ h
  · rfl

/-- The first rule broken gives the reason. -/
theorem validate_of_brokenFirst {rule : Rule} (h : rule.BrokenFirst size node)
    (hwritable : ∀ n, setting? node "port" = some (.int n) → Writable n) :
    ∃ text, rule.Objects node text ∧ validate node size = .ok (.skipped text) := by
  obtain ⟨hbroken, hearlier⟩ := h
  cases rule with
  | table =>
      have hexamine : examine node size = .error .notTable := by
        cases node with
        | table settings => exact absurd ⟨settings, rfl⟩ hbroken
        | _ => rfl
      exact ⟨_, .table, by rw [validate, hexamine]; rfl⟩
  | publicKey =>
      obtain ⟨settings, rfl⟩ := hearlier .table (by decide)
      refine ⟨_, .publicKey, ?_⟩
      rw [validate, examine, stringOf_of_missing hbroken]
      rfl
  | port =>
      obtain ⟨settings, rfl⟩ := hearlier .table (by decide)
      obtain ⟨key, hkey⟩ := hearlier .publicKey (by decide)
      refine ⟨_, .port, ?_⟩
      rw [validate, examine, stringOf_eq_ok.mpr hkey, intOf_of_missing hbroken]
      rfl
  | address =>
      obtain ⟨settings, rfl⟩ := hearlier .table (by decide)
      obtain ⟨key, hkey⟩ := hearlier .publicKey (by decide)
      obtain ⟨port, hport⟩ := hearlier .port (by decide)
      refine ⟨_, .address, ?_⟩
      rw [validate, examine, stringOf_eq_ok.mpr hkey, intOf_eq_ok.mpr hport,
        stringOf_of_missing hbroken]
      rfl
  | keyForm =>
      obtain ⟨settings, rfl⟩ := hearlier .table (by decide)
      obtain ⟨key, hkey⟩ := hearlier .publicKey (by decide)
      obtain ⟨port, hport⟩ := hearlier .port (by decide)
      obtain ⟨address, haddress⟩ := hearlier .address (by decide)
      have hform : isKey size key = false :=
        Bool.eq_false_iff.mpr fun hform => hbroken ⟨key, hkey, isKey_eq_true.mp hform⟩
      refine ⟨_, .keyForm hkey, ?_⟩
      rw [validate, examine, stringOf_eq_ok.mpr hkey, intOf_eq_ok.mpr hport,
        stringOf_eq_ok.mpr haddress]
      simp only [Bind.bind, Except.bind, hform]
      rfl
  | portRange =>
      obtain ⟨settings, rfl⟩ := hearlier .table (by decide)
      obtain ⟨port, hport⟩ := hearlier .port (by decide)
      obtain ⟨address, haddress⟩ := hearlier .address (by decide)
      obtain ⟨key, hkey, hform⟩ := hearlier .keyForm (by decide)
      have hrange : Port.isValid port = false :=
        Bool.eq_false_iff.mpr fun hrange => hbroken ⟨port, hport, Port.isValid_iff.mp hrange⟩
      have hexamine : examine (.table settings) size = .error (.badPort port) :=
        examine_eq_badPort.mpr
          ⟨settings, key, address, rfl, hkey, hport, haddress, isKey_eq_true.mpr hform, hrange⟩
      have hmessage : (Reason.badPort port).message
          = .ok s!"Invalid 'port': {port}, should be in [1, 65535]" := by
        rw [Reason.message, decimalText_of_writable (hwritable port hport)]
        exact congrArg Except.ok (String.append_assoc ..)
      refine ⟨_, .portRange hport, ?_⟩
      rw [validate, hexamine]
      simp only [hmessage]
      rfl

/-- An entry is accepted just where it keeps to every rule, and as it stands. Otherwise it is
skipped under its index, without a call or a record, for the first rule that it breaks: the port is
to be written into the reason where that is its range. -/
theorem validate_decides (node : Value) (size : Int) :
    ((∃ e, validate node size = .ok (.accepted e)) ↔ ∀ rule : Rule, rule.Met size node)
      ∧ (∀ e, validate node size = .ok (.accepted e) →
        setting? node "public_key" = some (.str e.publicKey)
          ∧ setting? node "port" = some (.int e.port)
          ∧ setting? node "address" = some (.str e.address))
      ∧ ((∀ n, setting? node "port" = some (.int n) → Writable n) →
        ¬(∀ rule : Rule, rule.Met size node) →
        ∃ rule text, Rule.BrokenFirst size node rule ∧ rule.Objects node text
          ∧ validate node size = .ok (.skipped text)
          ∧ ∀ (engine : Engine τ) (ipv6 : Bool) (index : Nat) (s : Session τ),
            engine.publicKeySize = size →
            (contact engine ipv6 index node).run s = (.ok ⟨index, some text⟩, s)) := by
  refine ⟨⟨?_, accepted_of_kept⟩, ?_, ?_⟩
  · rintro ⟨e, h⟩
    exact (validate_accepted_iff.mp h).1
  · intro e h
    exact (validate_accepted_iff.mp h).2
  · intro hwritable hbroken
    obtain ⟨rule, hrule⟩ := (Rule.met_or_brokenFirst size node).resolve_left hbroken
    obtain ⟨text, hsays, hskipped⟩ := validate_of_brokenFirst hrule hwritable
    refine ⟨rule, text, hrule, hsays, hskipped, fun engine ipv6 index s hsize => ?_⟩
    rw [run_contact, hsize, hskipped]

/-- Key, port and address are all wrong. A truth value is no port, and this is found first. -/
theorem validate_decides_several_broken :
    let node : Value :=
      .table [("public_key", .str "not a key"), ("port", .bool true), ("address", .int 7)]
    (∀ n, setting? node "port" = some (.int n) → Writable n)
      ∧ ¬(∀ rule : Rule, rule.Met 32 node)
      ∧ ∃ rule, Rule.BrokenFirst 32 node rule ∧ rule.Objects node "Couldn't find 'port' setting"
        ∧ validate node 32 = .ok (.skipped "Couldn't find 'port' setting") := by
  intro node
  have hport : ¬∃ n, setting? node "port" = some (.int n) := by
    rintro ⟨n, hn⟩
    cases hn
  have hwritable : ∀ n, setting? node "port" = some (.int n) → Writable n :=
    fun n hn => absurd ⟨n, hn⟩ hport
  have hbroken : ¬∀ rule : Rule, rule.Met 32 node := fun hall => hport (hall .port)
  obtain ⟨-, -, hskips⟩ := @validate_decides Nat node 32
  obtain ⟨rule, text, hrule, hsays, hskipped, -⟩ := hskips hwritable hbroken
  have hvalidate : validate node 32 = .ok (.skipped "Couldn't find 'port' setting") := rfl
  obtain rfl := Verdict.skipped.inj (Except.ok.inj (hskipped.symm.trans hvalidate))
  exact ⟨hwritable, hbroken, rule, hrule, hsays, hskipped⟩

end SeedNode.Seeds
