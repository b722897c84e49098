import Mathlib.Tactic.NormNum

/-! ### JSON texts -/

namespace Json

/-! ### Numbers -/

def is_number_char (c : Char) : Bool :=
  c.isDigit || c = '+' || c = '-' || c = '.' || c = 'e' || c = 'E'

def skip_sign (signs : List Char) : List Char → List Char
  | [] => []
  | c :: rest => if c ∈ signs then rest else c :: rest

def is_exponent : List Char → Bool
  | [] => true
  | c :: rest =>
    let digits := skip_sign ['+', '-'] rest
    (c = 'e' || c = 'E') && digits ≠ [] && digits.all Char.isDigit

def is_fraction : List Char → Bool
  | [] => true
  | c :: rest =>
    if c = '.' then
      rest.takeWhile Char.isDigit ≠ [] && is_exponent (rest.dropWhile Char.isDigit)
    else is_exponent (c :: rest)

def is_number (text : List Char) : Bool :=
  let body := skip_sign ['-'] text
  let whole := body.takeWhile Char.isDigit
  whole ≠ [] && (whole = ['0'] || whole.head? ≠ some '0') &&
    is_fraction (body.dropWhile Char.isDigit)

/-- The text of a number. -/
abbrev Number : Type := { text : List Char // is_number text = true }

/-- How many digits an integer has; other numbers count as none. -/
def integer_digits (number : Number) : Nat :=
  if number.val.all fun c => c.isDigit || c = '-' then number.val.countP Char.isDigit else 0

/-- A JSON value, with the three numbers that only Python writes. -/
inductive Value where
  | null
  | bool (value : Bool)
  | number (value : Number)
  | nan
  | infinity
  | negative_infinity
  | text (value : List Char)
  | array (items : List Value)
  | object (members : List (List Char × Value))

/-! ### Strings -/

def hex_digit (n : Nat) : Char := if n < 10 then Char.ofNat (48 + n) else Char.ofNat (87 + n)

def hex_value (c : Char) : Option Nat :=
  if '0' ≤ c ∧ c ≤ '9' then some (c.toNat - 48)
  else if 'a' ≤ c ∧ c ≤ 'f' then some (c.toNat - 87)
  else if 'A' ≤ c ∧ c ≤ 'F' then some (c.toNat - 55)
  else none

def unicode_escape (unit : Nat) : List Char :=
  ['\\', 'u', hex_digit (unit / 4096 % 16), hex_digit (unit / 256 % 16), hex_digit (unit / 16 % 16),
    hex_digit (unit % 16)]

/-- The code units of UTF-16. -/
def utf16 (code : Nat) : List Nat :=
  if code < 0x10000 then [code]
  else [0xD800 + (code - 0x10000) / 1024, 0xDC00 + (code - 0x10000) % 1024]

/-- The characters with an escape of their own. -/
def short_escapes : List (Char × Char) :=
  [('"', '"'), ('\\', '\\'), ('\n', 'n'), ('\r', 'r'), ('\t', 't'), ('\x0c', 'f'), ('\x08', 'b')]

def escape (ensure_ascii : Bool) (c : Char) : List Char :=
  match short_escapes.lookup c with
  | some e => ['\\', e]
  | none =>
    if c.toNat < 32 ∨ (ensure_ascii ∧ 127 ≤ c.toNat) then (utf16 c.toNat).flatMap unicode_escape
    else [c]

def quote (ensure_ascii : Bool) (text : List Char) : List Char :=
  '"' :: text.flatMap (escape ensure_ascii) ++ ['"']

/-- What a backslash and a character other than `u` stand for. -/
def unescape (e : Char) : Option Nat :=
  if e = '/' then some 47 else (short_escapes.find? fun pair => pair.2 = e).map fun pair => pair.1.toNat

def hex_unit (a b c d : Char) : Option Nat := do
  let a ← hex_value a
  let b ← hex_value b
  let c ← hex_value c
  let d ← hex_value d
  some (((a * 16 + b) * 16 + c) * 16 + d)

def prepend {α β : Type} (item : α) (read : List α × β) : List α × β := (item :: read.1, read.2)

/-- The code units of a string up to its closing quote, and what follows it. -/
def units : List Char → Option (List Nat × List Char)
  | [] => none
  | c :: rest =>
    if c = '"' then some ([], rest)
    else if c = '\\' then
      match rest with
      | [] => none
      | e :: rest =>
        if e = 'u' then
          match rest with
          | a :: b :: c :: d :: rest =>
            (hex_unit a b c d).bind fun unit => (units rest).map (prepend unit)
          | _ => none
        else (unescape e).bind fun unit => (units rest).map (prepend unit)
    else if c.toNat < 32 then none
    else (units rest).map (prepend c.toNat)

/-- The characters of some code units; `none` for a surrogate on its own. -/
def characters : List Nat → Option (List Char)
  | [] => some []
  | unit :: rest =>
    if unit.isValidChar then (characters rest).map (Char.ofNat unit :: ·)
    else
      match rest with
      | [] => none
      | low :: rest =>
        if 0xD800 ≤ unit ∧ unit < 0xDC00 ∧ 0xDC00 ≤ low ∧ low < 0xE000 then
          (characters rest).map
            (Char.ofNat (0x10000 + (unit - 0xD800) * 1024 + (low - 0xDC00)) :: ·)
        else none

/-- A string after its opening quote. -/
def string (text : List Char) : Option (List Char × List Char) :=
  (units text).bind fun (code_units, rest) => (characters code_units).map fun value => (value, rest)

theorem hex_value_hex_digit {n : Nat} (h : n < 16) : hex_value (hex_digit n) = some n := by
  revert n
  decide

theorem hex_unit_digits {unit : Nat} (h : unit < 65536) :
    hex_unit (hex_digit (unit / 4096 % 16)) (hex_digit (unit / 256 % 16))
      (hex_digit (unit / 16 % 16)) (hex_digit (unit % 16)) = some unit := by
  unfold hex_unit
  rw [hex_value_hex_digit (by omega), hex_value_hex_digit (by omega), hex_value_hex_digit (by omega),
    hex_value_hex_digit (by omega)]
  simp only [Option.bind_eq_bind, Option.bind_some, Option.some.injEq]
  omega

theorem units_quote (rest : List Char) : units ('"' :: rest) = some ([], rest) := by
  rw [units.eq_def]
  simp only [if_true]

theorem units_unicode (a b c d : Char) (rest : List Char) : units ('\\' :: 'u' :: a :: b :: c :: d :: rest) =
    (hex_unit a b c d).bind fun unit => (units rest).map (prepend unit) := by
  rw [units.eq_def]
  simp only [Char.reduceEq, if_false, if_true]

theorem units_short {e : Char} (he : e ≠ 'u') (rest : List Char) : units ('\\' :: e :: rest) =
    (unescape e).bind fun unit => (units rest).map (prepend unit) := by
  rw [units.eq_def]
  simp only [Char.reduceEq, if_false, if_true, he]

theorem units_plain {c : Char} (hquote : c ≠ '"') (hslash : c ≠ '\\') (hcontrol : ¬ c.toNat < 32)
    (rest : List Char) : units (c :: rest) = (units rest).map (prepend c.toNat) := by
  rw [units.eq_def]
  simp only [hquote, hslash, hcontrol, if_false]

theorem units_unicode_escape {unit : Nat} (h : unit < 65536) (rest : List Char) :
    units (unicode_escape unit ++ rest) = (units rest).map (prepend unit) := by
  unfold unicode_escape
  simp only [List.cons_append, List.nil_append]
  rw [units_unicode, hex_unit_digits h, Option.bind_some]

theorem toNat_lt (c : Char) : c.toNat < 0x110000 := by
  rcases c.valid with hlow | ⟨-, hhigh⟩
  · exact lt_trans hlow (by norm_num)
  · exact hhigh

theorem characters_valid {c : Char} (more : List Nat) :
    characters (c.toNat :: more) = (characters more).map (c :: ·) := by
  rw [characters.eq_def]
  simp only
  rw [if_pos (show c.toNat.isValidChar from c.valid), Char.ofNat_toNat]

/-- A character outside the basic plane is read back from its surrogates. -/
theorem characters_surrogates {c : Char} (h : 0x10000 ≤ c.toNat) (more : List Nat) :
    characters (utf16 c.toNat ++ more) = (characters more).map (c :: ·) := by
  have hlimit := toNat_lt c
  have hhigh : ¬ (0xD800 + (c.toNat - 0x10000) / 1024).isValidChar := by
    unfold Nat.isValidChar
    omega
  have hcode : 0x10000 + (0xD800 + (c.toNat - 0x10000) / 1024 - 0xD800) * 1024 +
      (0xDC00 + (c.toNat - 0x10000) % 1024 - 0xDC00) = c.toNat := by
    omega
  unfold utf16
  rw [if_neg (by omega), List.cons_append, List.cons_append, List.nil_append, characters.eq_def]
  simp only
  rw [if_neg hhigh, if_pos (by omega), hcode, Char.ofNat_toNat]

theorem short_escape_some {c e : Char} (h : short_escapes.lookup c = some e) :
    e ≠ 'u' ∧ unescape e = some c.toNat := by
  have htable : ∀ pair ∈ short_escapes, pair.2 ≠ 'u' ∧ unescape pair.2 = some pair.1.toNat := by
    decide
  obtain ⟨before, after, heq, -⟩ := List.lookup_eq_some_iff.mp h
  exact htable (c, e) (heq ▸ List.mem_append_right _ List.mem_cons_self)

theorem short_escape_none {c : Char} (h : short_escapes.lookup c = none) : c ≠ '"' ∧ c ≠ '\\' := by
  have hne := List.lookup_eq_none_iff.mp h
  constructor
  · rintro rfl
    exact absurd (hne ('"', '"') (by decide)) (by decide)
  · rintro rfl
    exact absurd (hne ('\\', '\\') (by decide)) (by decide)

/-- One character of a quoted string, as it is read back. -/
theorem units_escape (ensure_ascii : Bool) (c : Char) : ∃ code_units : List Nat,
    (∀ rest, units (escape ensure_ascii c ++ rest) =
      (units rest).map fun read => (code_units ++ read.1, read.2)) ∧
    ∀ more, characters (code_units ++ more) = (characters more).map (c :: ·) := by
  have hsingle : ∀ more, characters ([c.toNat] ++ more) = (characters more).map (c :: ·) :=
    fun more => characters_valid more
  unfold escape
  cases hshort : short_escapes.lookup c with
  | some e =>
    obtain ⟨he, hunescape⟩ := short_escape_some hshort
    refine ⟨[c.toNat], fun rest => ?_, hsingle⟩
    rw [List.cons_append, List.cons_append, List.nil_append, units_short he, hunescape]
    rfl
  | none =>
    obtain ⟨hquote, hslash⟩ := short_escape_none hshort
    by_cases hescaped : c.toNat < 32 ∨ (ensure_ascii ∧ 127 ≤ c.toNat)
    · simp only [if_pos hescaped]
      by_cases hbasic : c.toNat < 0x10000
      · refine ⟨[c.toNat], fun rest => ?_, hsingle⟩
        rw [utf16, if_pos hbasic, List.flatMap_singleton, units_unicode_escape hbasic]
        rfl
      · refine ⟨utf16 c.toNat, fun rest => ?_, characters_surrogates (not_lt.mp hbasic)⟩
        have hlimit := toNat_lt c
        rw [utf16, if_neg hbasic, List.flatMap_cons, List.flatMap_singleton, List.append_assoc,
          units_unicode_escape (by omega), units_unicode_escape (by omega), Option.map_map]
        rfl
    · simp only [if_neg hescaped]
      refine ⟨[c.toNat], fun rest => ?_, hsingle⟩
      rw [List.cons_append, List.nil_append,
        units_plain hquote hslash fun hlow => hescaped (.inl hlow)]
      rfl

/-- A quoted string is read back. -/
theorem string_quote (ensure_ascii : Bool) (text rest : List Char) :
    string (text.flatMap (escape ensure_ascii) ++ '"' :: rest) = some (text, rest) := by
  have hread : ∃ code_units, units (text.flatMap (escape ensure_ascii) ++ '"' :: rest) =
      some (code_units, rest) ∧ characters code_units = some text := by
    induction text with
    | nil =>
      exact ⟨[], units_quote rest, rfl⟩
    | cons c text ih =>
      obtain ⟨more, hmore, hcharacters⟩ := ih
      obtain ⟨own, hown, hchar⟩ := units_escape ensure_ascii c
      refine ⟨own ++ more, ?_, ?_⟩
      · rw [List.flatMap_cons, List.append_assoc, hown, hmore]
        rfl
      · rw [hchar, hcharacters]
        rfl
  obtain ⟨code_units, hunits, hcharacters⟩ := hread
  unfold string
  simp only [hunits, Option.bind_some, hcharacters, Option.map_some]

/-! ### Control characters are escaped -/

def Printable (text : List Char) : Prop := ∀ c ∈ text, 32 ≤ c.toNat

instance (text : List Char) : Decidable (Printable text) := List.decidableBAll _ text

theorem Printable.append {left right : List Char} (hleft : Printable left) (hright : Printable right) :
    Printable (left ++ right) :=
  fun c hc => (List.mem_append.mp hc).elim (hleft c) (hright c)

theorem Printable.cons {c : Char} {text : List Char} (hc : 32 ≤ c.toNat) (h : Printable text) :
    Printable (c :: text) := by
  intro d hd
  rcases List.mem_cons.mp hd with rfl | hd
  · exact hc
  · exact h d hd

theorem unicode_escape_printable (unit : Nat) : Printable (unicode_escape unit) := by
  have hdigit : ∀ n < 16, 32 ≤ (hex_digit n).toNat := by decide
  have hmod : ∀ n, 32 ≤ (hex_digit (n % 16)).toNat := fun n => hdigit _ (Nat.mod_lt _ (by decide))
  have hdigits : Printable [hex_digit (unit / 256 % 16), hex_digit (unit / 16 % 16), hex_digit (unit % 16)] :=
    .cons (hmod _) (.cons (hmod _) (.cons (hmod _) (by decide)))
  exact .cons (by decide) (.cons (by decide) (.cons (hmod _) hdigits))

theorem escape_printable (ensure_ascii : Bool) (c : Char) : Printable (escape ensure_ascii c) := by
  have hempty : Printable [] := by decide
  unfold escape
  cases hshort : short_escapes.lookup c with
  | some e =>
    have htable : ∀ pair ∈ short_escapes, 32 ≤ pair.2.toNat := by decide
    obtain ⟨before, after, heq, -⟩ := List.lookup_eq_some_iff.mp hshort
    have he := htable (c, e) (heq ▸ List.mem_append_right _ List.mem_cons_self)
    exact .cons (by decide) (.cons he hempty)
  | none =>
    by_cases hescaped : c.toNat < 32 ∨ (ensure_ascii ∧ 127 ≤ c.toNat)
    · simp only [if_pos hescaped]
      intro d hd
      obtain ⟨unit, -, hd⟩ := List.mem_flatMap.mp hd
      exact unicode_escape_printable unit d hd
    · simp only [if_neg hescaped]
      exact .cons (by omega) hempty

theorem quote_printable (ensure_ascii : Bool) (text : List Char) : Printable (quote ensure_ascii text) := by
  refine .append (.cons (by decide) ?_) (by decide)
  intro d hd
  obtain ⟨c, -, hd⟩ := List.mem_flatMap.mp hd
  exact escape_printable ensure_ascii c d hd

end Json
