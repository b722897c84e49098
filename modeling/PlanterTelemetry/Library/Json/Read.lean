import PlanterTelemetry.Library.Json.Text
import Mathlib.Data.List.DropRight

namespace Json

/-! ### Values -/

/-- The longest run of characters that numbers are made of. A reader that takes
    less of it finds no delimiter next, so that both refuse the document. -/
def number (text : List Char) : Option (Value × List Char) :=
  let run := text.takeWhile is_number_char
  if h : is_number run = true then some (.number ⟨run, h⟩, text.dropWhile is_number_char) else none

def is_space (c : Char) : Bool := c = ' ' || c = '\t' || c = '\n' || c = '\r'

def skip (text : List Char) : List Char := text.dropWhile is_space

/-- What follows a character, white space before it aside. -/
def expect (c : Char) (text : List Char) : Option (List Char) :=
  match skip text with
  | [] => none
  | d :: rest => if d = c then some rest else none

def word (letters : List Char) (v : Value) (text : List Char) : Option (Value × List Char) :=
  if letters <+: text then some (v, text.drop letters.length) else none

/-- The words that are values, by their first letters. -/
def words : List (Char × List Char × Value) :=
  [('n', ['u', 'l', 'l'], .null), ('t', ['r', 'u', 'e'], .bool true),
    ('f', ['a', 'l', 's', 'e'], .bool false), ('N', ['a', 'N'], .nan),
    ('I', ['n', 'f', 'i', 'n', 'i', 't', 'y'], .infinity)]

/-- An element of a bracketed list, with the elements after it. -/
def separated {α : Type} (elements : List Char → Option (List α × List Char)) (close : Char) (element : α)
    (text : List Char) : Option (List α × List Char) :=
  match expect ',' text with
  | some rest => (elements rest).map (prepend element)
  | none => (expect close text).map fun rest => ([element], rest)

/-- The elements of a bracketed list after its opening bracket. -/
def bracketed {α : Type} (elements : List Char → Option (List α × List Char)) (close : Char)
    (text : List Char) : Option (List α × List Char) :=
  match expect close text with
  | some rest => some ([], rest)
  | none => elements text

mutual

/-- A value at the head of a text, and what follows it. -/
def value : Nat → List Char → Option (Value × List Char)
  | 0, _ => none
  | _ + 1, [] => none
  | fuel + 1, c :: rest =>
    if c = '"' then (string rest).map fun (text, rest) => (.text text, rest)
    else if c = '{' then (bracketed (members fuel) '}' rest).map fun (own, rest) => (.object own, rest)
    else if c = '[' then (bracketed (items fuel) ']' rest).map fun (own, rest) => (.array own, rest)
    else
      match words.lookup c with
      | some (letters, v) => word letters v rest
      | none =>
        if c = '-' ∧ rest.head? = some 'I' then
          word ['I', 'n', 'f', 'i', 'n', 'i', 't', 'y'] .negative_infinity rest
        else number (c :: rest)

/-- The members of an object up to its closing bracket. -/
def members : Nat → List Char → Option (List (List Char × Value) × List Char)
  | 0, _ => none
  | fuel + 1, text => do
    let rest ← expect '"' text
    let (name, rest) ← string rest
    let rest ← expect ':' rest
    let (v, rest) ← value fuel (skip rest)
    separated (members fuel) '}' (name, v) rest

/-- The items of an array up to its closing bracket. -/
def items : Nat → List Char → Option (List Value × List Char)
  | 0, _ => none
  | fuel + 1, text => do
    let (v, rest) ← value fuel (skip text)
    separated (items fuel) ']' v rest

end

/-- A text that is one value. Every bracket is a character of its own, so the
    length is fuel enough. -/
def document (text : List Char) : Option Value :=
  match value (text.length + 1) (skip text) with
  | none => none
  | some (v, rest) => if skip rest = [] then some v else none

/-! ### Texts that go on -/

theorem map_prepend_eq_some {α β : Type} {item : α} {read : Option (List α × β)} {own : List α}
    {rest : β} : read.map (prepend item) = some (own, rest) ↔
      ∃ more, read = some (more, rest) ∧ own = item :: more := by
  constructor
  · intro h
    obtain ⟨⟨more, after⟩, hread, heq⟩ := Option.map_eq_some_iff.mp h
    obtain ⟨hitems, hrest⟩ := Prod.mk.inj heq
    subst hrest
    exact ⟨more, hread, hitems.symm⟩
  · rintro ⟨more, hread, rfl⟩
    rw [hread]
    rfl

section Append

variable {text rest : List Char} {fuel : Nat} (more : List Char)

/-- What is read of a string stays when the text goes on. -/
theorem units_append {code_units : List Nat} (h : units text = some (code_units, rest)) :
    units (text ++ more) = some (code_units, rest ++ more) := by
  induction text using units.induct generalizing code_units with
  | case1 => cases h
  | case2 tail =>
    rw [units_quote] at h
    obtain ⟨rfl, rfl⟩ := Prod.mk.inj (Option.some.inj h)
    exact units_quote _
  | case3 => cases h
  | case4 a b c d tail _ ih =>
    rw [units_unicode] at h
    obtain ⟨unit, hunit, hread⟩ := Option.bind_eq_some_iff.mp h
    obtain ⟨others, hothers, rfl⟩ := map_prepend_eq_some.mp hread
    simp only [List.cons_append]
    rw [units_unicode, hunit, Option.bind_some, ih hothers]
    rfl
  | case5 tail hshort _ =>
    rw [units.eq_def] at h
    simp only [Char.reduceEq, if_false, if_true] at h
    cases h
  | case6 e tail he _ ih =>
    rw [units_short he] at h
    obtain ⟨unit, hunit, hread⟩ := Option.bind_eq_some_iff.mp h
    obtain ⟨others, hothers, rfl⟩ := map_prepend_eq_some.mp hread
    simp only [List.cons_append]
    rw [units_short he, hunit, Option.bind_some, ih hothers]
    rfl
  | case7 c tail hquote hslash hcontrol =>
    rw [units.eq_def] at h
    simp [hquote, hslash, hcontrol] at h
  | case8 c tail hquote hslash hcontrol ih =>
    rw [units_plain hquote hslash hcontrol] at h
    obtain ⟨others, hothers, rfl⟩ := map_prepend_eq_some.mp h
    rw [List.cons_append, units_plain hquote hslash hcontrol, ih hothers]
    rfl

theorem string_append {own : List Char} (h : string text = some (own, rest)) :
    string (text ++ more) = some (own, rest ++ more) := by
  obtain ⟨⟨code_units, after⟩, hunits, hread⟩ := Option.bind_eq_some_iff.mp h
  obtain ⟨characters, hcharacters, heq⟩ := Option.map_eq_some_iff.mp hread
  obtain ⟨rfl, rfl⟩ := Prod.mk.inj heq
  unfold string
  simp only [units_append more hunits, Option.bind_some, hcharacters, Option.map_some]

theorem skip_cons {c : Char} (h : is_space c = false) (rest : List Char) : skip (c :: rest) = c :: rest :=
  List.dropWhile_cons_of_neg (by simp [h])

theorem skip_append (h : skip text ≠ []) : skip (text ++ more) = skip text ++ more := by
  unfold skip at h ⊢
  rw [List.dropWhile_append, if_neg (by simpa using h)]

theorem expect_eq_some_iff {c : Char} : expect c text = some rest ↔ skip text = c :: rest := by
  unfold expect
  split
  · next h => simp [h]
  · next d tail h =>
    rw [h]
    by_cases hc : d = c
    · simp [hc]
    · simp [hc]

theorem expect_append {c : Char} (h : expect c text = some rest) :
    expect c (text ++ more) = some (rest ++ more) :=
  have hskip := expect_eq_some_iff.mp h
  expect_eq_some_iff.mpr (by rw [skip_append more (by simp [hskip]), hskip, List.cons_append])

theorem expect_none_append {c : Char} (hskip : skip text ≠ []) (h : expect c text = none) :
    expect c (text ++ more) = none := by
  unfold expect at h ⊢
  rw [skip_append more hskip]
  cases hhead : skip text with
  | nil => exact absurd hhead hskip
  | cons d tail =>
    rw [hhead] at h
    simp only [List.cons_append] at h ⊢
    by_cases hd : d = c
    · rw [if_pos hd] at h
      cases h
    · exact if_neg hd

/-- A text that goes on with one character does not go on with another. -/
theorem expect_other {c d : Char} (hcd : c ≠ d) (h : expect d text = some rest) : expect c text = none := by
  unfold expect
  rw [expect_eq_some_iff.mp h]
  exact if_neg fun heq => hcd heq.symm

theorem word_append {letters : List Char} {v own : Value} (h : word letters v text = some (own, rest)) :
    word letters v (text ++ more) = some (own, rest ++ more) := by
  unfold word at h ⊢
  by_cases hletters : letters <+: text
  · rw [if_pos hletters] at h
    obtain ⟨rfl, rfl⟩ := Prod.mk.inj (Option.some.inj h)
    rw [if_pos (hletters.trans (List.prefix_append _ _)), List.drop_append_of_le_length hletters.length_le]
  · rw [if_neg hletters] at h
    cases h

/-- Nothing that a number could go on with. -/
def Delimited (rest : List Char) : Prop := ∃ c tail, rest = c :: tail ∧ is_number_char c = false

theorem number_eq_some {v : Value} (h : number text = some (v, rest)) : ∃ own, v = .number own := by
  unfold number at h
  dsimp only at h
  split at h
  · exact ⟨_, (Prod.mk.inj (Option.some.inj h)).1.symm⟩
  · cases h

theorem number_append {own : Value} (h : number text = some (own, rest)) (hrest : Delimited rest) :
    number (text ++ more) = some (own, rest ++ more) := by
  obtain ⟨c, tail, rfl, hc⟩ := hrest
  unfold number at h ⊢
  dsimp only at h ⊢
  split at h
  · next hnumber =>
    obtain ⟨rfl, hafter⟩ := Prod.mk.inj (Option.some.inj h)
    have hsplit : text = text.takeWhile is_number_char ++ c :: tail := by
      rw [← hafter, List.takeWhile_append_dropWhile]
    have hall := List.all_eq_true.mp (List.all_takeWhile (p := is_number_char) (l := text))
    have htake : (text ++ more).takeWhile is_number_char = text.takeWhile is_number_char := by
      conv_lhs => rw [hsplit, List.append_assoc]
      rw [List.takeWhile_append_of_pos hall, List.cons_append, List.takeWhile_cons_of_neg (by simp [hc]),
        List.append_nil]
    have hdrop : (text ++ more).dropWhile is_number_char = c :: tail ++ more := by
      conv_lhs => rw [hsplit, List.append_assoc]
      rw [List.dropWhile_append_of_pos hall, List.cons_append, List.dropWhile_cons_of_neg (by simp [hc])]
    simp only [htake, hdrop, hnumber, dif_pos]
  · cases h

theorem delimited_of_expect {c : Char} (hc : is_number_char c = false) (h : expect c text = some rest) :
    Delimited text := by
  have hskip := expect_eq_some_iff.mp h
  cases text with
  | nil => cases hskip
  | cons d tail =>
    refine ⟨d, tail, rfl, ?_⟩
    by_cases hspace : is_space d = true
    · revert hspace
      unfold is_space is_number_char
      simp only [Bool.or_eq_true, decide_eq_true_eq]
      rintro (((rfl | rfl) | rfl) | rfl) <;> decide
    · rw [skip_cons (Bool.not_eq_true _ ▸ hspace)] at hskip
      rw [(List.cons.inj hskip).1, hc]

/-- A value that more text cannot change: anything but a number at the end. -/
def Ended (v : Value) (rest : List Char) : Prop := (∃ own, v = .number own) → Delimited rest

theorem separated_append {α : Type} {elements elements' : List Char → Option (List α × List Char)}
    {close : Char} (hclose : is_number_char close = false) (hcomma : ',' ≠ close) {element : α} {own : List α}
    (helements : ∀ tail others after, elements tail = some (others, after) →
      elements' (tail ++ more) = some (others, after ++ more))
    (h : separated elements close element text = some (own, rest)) :
    Delimited text ∧ separated elements' close element (text ++ more) = some (own, rest ++ more) := by
  unfold separated at h ⊢
  cases hnext : expect ',' text with
  | some tail =>
    rw [hnext] at h
    obtain ⟨others, hothers, rfl⟩ := map_prepend_eq_some.mp h
    refine ⟨delimited_of_expect (by decide) hnext, ?_⟩
    simp only [expect_append more hnext]
    exact map_prepend_eq_some.mpr ⟨others, helements tail others rest hothers, rfl⟩
  | none =>
    rw [hnext] at h
    obtain ⟨tail, htail, heq⟩ := Option.map_eq_some_iff.mp h
    obtain ⟨rfl, rfl⟩ := Prod.mk.inj heq
    have hend := expect_append more htail
    refine ⟨delimited_of_expect hclose htail, ?_⟩
    simp only [expect_other hcomma hend, hend, Option.map_some]

theorem bracketed_append {α : Type} {elements elements' : List Char → Option (List α × List Char)}
    {close : Char} {own : List α} (hskip : elements text = some (own, rest) → skip text ≠ [])
    (helements : elements text = some (own, rest) → elements' (text ++ more) = some (own, rest ++ more))
    (h : bracketed elements close text = some (own, rest)) :
    bracketed elements' close (text ++ more) = some (own, rest ++ more) := by
  unfold bracketed at h ⊢
  cases hclose : expect close text with
  | some tail =>
    rw [hclose] at h
    obtain ⟨rfl, rfl⟩ := Prod.mk.inj (Option.some.inj h)
    simp only [expect_append more hclose]
  | none =>
    rw [hclose] at h
    simp only [expect_none_append more (hskip h) hclose]
    exact helements h

theorem ne_nil_of_value {read : Value × List Char} (h : value fuel text = some read) : text ≠ [] := by
  rintro rfl
  cases fuel with
  | zero => cases h
  | succ fuel =>
    rw [value] at h
    cases h

theorem expect_quote_of_members {read : List (List Char × Value) × List Char}
    (h : members fuel text = some read) : ∃ tail, expect '"' text = some tail := by
  cases fuel with
  | zero =>
    rw [members] at h
    cases h
  | succ fuel =>
    rw [members] at h
    obtain ⟨tail, hquote, -⟩ := Option.bind_eq_some_iff.mp h
    exact ⟨tail, hquote⟩

theorem skip_ne_nil_of_members {read : List (List Char × Value) × List Char}
    (h : members fuel text = some read) : skip text ≠ [] := by
  obtain ⟨tail, hquote⟩ := expect_quote_of_members h
  rw [expect_eq_some_iff.mp hquote]
  exact List.cons_ne_nil _ _

theorem value_of_items {read : List Value × List Char} (h : items fuel text = some read) :
    ∃ fewer first, value fewer (skip text) = some first := by
  cases fuel with
  | zero =>
    rw [items] at h
    cases h
  | succ fuel =>
    rw [items] at h
    obtain ⟨first, hv, -⟩ := Option.bind_eq_some_iff.mp h
    exact ⟨fuel, first, hv⟩

theorem skip_ne_nil_of_items {read : List Value × List Char} (h : items fuel text = some read) :
    skip text ≠ [] := by
  obtain ⟨fewer, first, hv⟩ := value_of_items h
  exact ne_nil_of_value hv

/-- No value starts with a closing bracket. -/
theorem expect_close_of_items {read : List Value × List Char} (h : items fuel text = some read) :
    expect ']' text = none := by
  obtain ⟨fewer, first, hv⟩ := value_of_items h
  cases hclose : expect ']' text with
  | none => rfl
  | some tail =>
    rw [expect_eq_some_iff.mp hclose] at hv
    cases fewer with
    | zero =>
      rw [value] at hv
      cases hv
    | succ fewer =>
      rw [value] at hv
      cases hv

/-- What is read of a value stays when the text goes on, and with more fuel. -/
theorem read_append {fuel enough : Nat} (hfuel : fuel ≤ enough) :
    (∀ text v rest, value fuel text = some (v, rest) → Ended v rest ∨ more = [] →
      value enough (text ++ more) = some (v, rest ++ more)) ∧
    (∀ text own rest, members fuel text = some (own, rest) →
      members enough (text ++ more) = some (own, rest ++ more)) ∧
    ∀ text own rest, items fuel text = some (own, rest) →
      items enough (text ++ more) = some (own, rest ++ more) := by
  induction fuel generalizing enough with
  | zero => simp [value, members, items]
  | succ fuel ih =>
    obtain ⟨enough, rfl⟩ : ∃ less, enough = less + 1 := ⟨enough - 1, by omega⟩
    obtain ⟨hvalue, hmembers, hitems⟩ := ih (by omega : fuel ≤ enough)
    refine ⟨?_, ?_, ?_⟩
    · intro text v rest h hended
      cases text with
      | nil =>
        rw [value] at h
        cases h
      | cons c tail =>
        rw [value] at h
        rw [List.cons_append, value]
        by_cases hquote : c = '"'
        · rw [if_pos hquote] at h ⊢
          obtain ⟨⟨own, after⟩, hstring, heq⟩ := Option.map_eq_some_iff.mp h
          obtain ⟨rfl, rfl⟩ := Prod.mk.inj heq
          rw [string_append more hstring]
          rfl
        rw [if_neg hquote] at h ⊢
        by_cases hobject : c = '{'
        · rw [if_pos hobject] at h ⊢
          obtain ⟨⟨own, after⟩, hread, heq⟩ := Option.map_eq_some_iff.mp h
          obtain ⟨rfl, rfl⟩ := Prod.mk.inj heq
          rw [bracketed_append more (fun helements => skip_ne_nil_of_members helements)
            (hmembers tail _ _) hread]
          rfl
        rw [if_neg hobject] at h ⊢
        by_cases harray : c = '['
        · rw [if_pos harray] at h ⊢
          obtain ⟨⟨own, after⟩, hread, heq⟩ := Option.map_eq_some_iff.mp h
          obtain ⟨rfl, rfl⟩ := Prod.mk.inj heq
          rw [bracketed_append more (fun helements => skip_ne_nil_of_items helements)
            (hitems tail _ _) hread]
          rfl
        rw [if_neg harray] at h ⊢
        cases hword : words.lookup c with
        | some entry =>
          rw [hword] at h
          exact word_append more h
        | none =>
          rw [hword] at h
          simp only at h ⊢
          by_cases hinfinity : c = '-' ∧ tail.head? = some 'I'
          · rw [if_pos hinfinity] at h
            rw [if_pos ⟨hinfinity.1, by rw [List.head?_append, hinfinity.2]; rfl⟩]
            exact word_append more h
          · rw [if_neg hinfinity] at h
            have hnot : ¬ (c = '-' ∧ (tail ++ more).head? = some 'I') := by
              rintro ⟨rfl, hhead⟩
              cases tail with
              | nil => cases h
              | cons d tail => exact hinfinity ⟨rfl, hhead⟩
            rw [if_neg hnot, ← List.cons_append]
            rcases hended with hended | rfl
            · exact number_append more h (hended (number_eq_some h))
            · rw [List.append_nil, List.append_nil, h]
    · intro text own rest h
      rw [members] at h ⊢
      obtain ⟨tail, hquote, h⟩ := Option.bind_eq_some_iff.mp h
      obtain ⟨⟨name, tail⟩, hname, h⟩ := Option.bind_eq_some_iff.mp h
      obtain ⟨tail, hcolon, h⟩ := Option.bind_eq_some_iff.mp h
      obtain ⟨⟨v, after⟩, hv, h⟩ := Option.bind_eq_some_iff.mp h
      obtain ⟨hdelimited, hseparated⟩ := separated_append more (by decide) (by decide) hmembers h
      refine Option.bind_eq_some_iff.mpr ⟨_, expect_append more hquote, ?_⟩
      refine Option.bind_eq_some_iff.mpr ⟨_, string_append more hname, ?_⟩
      refine Option.bind_eq_some_iff.mpr ⟨_, expect_append more hcolon, ?_⟩
      refine Option.bind_eq_some_iff.mpr ⟨(v, after ++ more), ?_, hseparated⟩
      rw [skip_append more (ne_nil_of_value hv)]
      exact hvalue _ _ _ hv (.inl fun _ => hdelimited)
    · intro text own rest h
      rw [items] at h ⊢
      obtain ⟨⟨v, after⟩, hv, h⟩ := Option.bind_eq_some_iff.mp h
      obtain ⟨hdelimited, hseparated⟩ := separated_append more (by decide) (by decide) hitems h
      refine Option.bind_eq_some_iff.mpr ⟨(v, after ++ more), ?_, hseparated⟩
      rw [skip_append more (ne_nil_of_value hv)]
      exact hvalue _ _ _ hv (.inl fun _ => hdelimited)

end Append

/-- No part of an object is a document of its own. -/
theorem document_part_eq_none {part rest : List Char} {fuel : Nat} {read : Value} (hrest : rest ≠ [])
    (hopen : (part ++ rest).head? = some '{') (h : value fuel (part ++ rest) = some (read, [])) :
    document part = none := by
  cases part with
  | nil => rfl
  | cons c tail =>
    obtain rfl : c = '{' := Option.some.inj hopen
    unfold document
    rw [skip_cons (by decide)]
    cases hpart : value (('{' :: tail).length + 1) ('{' :: tail) with
    | none => rfl
    | some found =>
      -- the part is an object, so that it stays when the text goes on
      obtain ⟨v, after⟩ := found
      have hended : Ended v after := by
        rw [value, if_neg (by decide), if_pos rfl] at hpart
        obtain ⟨own, -, heq⟩ := Option.map_eq_some_iff.mp hpart
        rintro ⟨number, rfl⟩
        cases (Prod.mk.inj heq).1
      have hlonger := (read_append rest (Nat.le_max_left _ fuel)).1 _ _ _ hpart (.inl hended)
      have hwhole := (read_append [] (Nat.le_max_right (('{' :: tail).length + 1) fuel)).1 _ _ _ h (.inr rfl)
      rw [List.append_nil, hlonger] at hwhole
      have hnil := (Prod.mk.inj (Option.some.inj hwhole)).2
      exact absurd (List.append_eq_nil_iff.mp hnil).2 hrest

end Json
