import PlanterTelemetry.Library.Json.Read

namespace Json

/-! ### Writing -/

/-- How a document is laid out: `spaced` has a space after each comma and colon. -/
structure Style where
  ensure_ascii : Bool
  spaced : Bool

def Style.mark (style : Style) (c : Char) : List Char := if style.spaced then [c, ' '] else [c]

/-- A value without elements. -/
def write_atom (style : Style) : Value → List Char
  | .null => ['n', 'u', 'l', 'l']
  | .bool value => if value then ['t', 'r', 'u', 'e'] else ['f', 'a', 'l', 's', 'e']
  | .number value => value.val
  | .nan => ['N', 'a', 'N']
  | .infinity => ['I', 'n', 'f', 'i', 'n', 'i', 't', 'y']
  | .negative_infinity => ['-', 'I', 'n', 'f', 'i', 'n', 'i', 't', 'y']
  | .text value => quote style.ensure_ascii value
  | .array _ => []
  | .object _ => []

mutual

def write (style : Style) : Value → List Char
  | .array items => '[' :: (style.mark ',').intercalate (write_items style items) ++ [']']
  | .object members => '{' :: (style.mark ',').intercalate (write_members style members) ++ ['}']
  | v => write_atom style v

def write_items (style : Style) : List Value → List (List Char)
  | [] => []
  | v :: more => write style v :: write_items style more

def write_members (style : Style) : List (List Char × Value) → List (List Char)
  | [] => []
  | (name, v) :: more =>
    (quote style.ensure_ascii name ++ style.mark ':' ++ write style v) :: write_members style more

end

/-! ### Reading back what is written -/

theorem skip_sign_chars (signs : List Char) {text : List Char} {p : Char → Prop} (hsigns : ∀ c ∈ signs, p c)
    (h : ∀ c ∈ skip_sign signs text, p c) : ∀ c ∈ text, p c := by
  cases text with
  | nil => exact h
  | cons d rest =>
    rw [skip_sign] at h
    by_cases hd : d ∈ signs
    · rw [if_pos hd] at h
      exact List.forall_mem_cons.mpr ⟨hsigns d hd, h⟩
    · rwa [if_neg hd] at h

theorem digit_is_number_char {c : Char} (h : c.isDigit = true) : is_number_char c = true := by
  simp [is_number_char, h]

theorem is_exponent_chars {text : List Char} (h : is_exponent text = true) :
    ∀ c ∈ text, is_number_char c = true := by
  cases text with
  | nil => exact fun c hc => nomatch hc
  | cons d rest =>
    simp only [is_exponent, Bool.and_eq_true, Bool.or_eq_true, decide_eq_true_eq] at h
    obtain ⟨⟨hmark, -⟩, hdigits⟩ := h
    refine List.forall_mem_cons.mpr ⟨?_, ?_⟩
    · rcases hmark with rfl | rfl <;> decide
    · refine skip_sign_chars ['+', '-'] (by simp [is_number_char]) fun c hc => ?_
      exact digit_is_number_char (List.all_eq_true.mp hdigits c hc)

/-- Digits and what follows them are made of the characters of numbers. -/
theorem digits_chars {text : List Char}
    (h : ∀ c ∈ text.dropWhile Char.isDigit, is_number_char c = true) :
    ∀ c ∈ text, is_number_char c = true := by
  intro c hc
  rw [← List.takeWhile_append_dropWhile (p := Char.isDigit) (l := text)] at hc
  cases List.mem_append.mp hc with
  | inl hdigit => exact digit_is_number_char (List.all_eq_true.mp List.all_takeWhile c hdigit)
  | inr hafter => exact h c hafter

theorem is_fraction_chars {text : List Char} (h : is_fraction text = true) :
    ∀ c ∈ text, is_number_char c = true := by
  cases text with
  | nil => exact fun c hc => nomatch hc
  | cons d rest =>
    rw [is_fraction] at h
    by_cases hd : d = '.'
    · rw [if_pos hd, Bool.and_eq_true] at h
      refine List.forall_mem_cons.mpr ⟨by rw [hd]; decide, ?_⟩
      exact digits_chars (is_exponent_chars h.2)
    · rw [if_neg hd] at h
      exact is_exponent_chars h

theorem is_number_chars {text : List Char} (h : is_number text = true) :
    ∀ c ∈ text, is_number_char c = true := by
  unfold is_number at h
  exact skip_sign_chars ['-'] (by simp [is_number_char]) (digits_chars (is_fraction_chars (Bool.and_eq_true_iff.mp h).2))

/-- Where a written value may end. -/
def Follows (rest : List Char) : Prop := rest = [] ∨ Delimited rest

theorem number_write {text rest : List Char} (h : is_number text = true) (hrest : Follows rest) :
    number (text ++ rest) = some (.number ⟨text, h⟩, rest) := by
  have hall := is_number_chars h
  have htake : (text ++ rest).takeWhile is_number_char = text := by
    rw [List.takeWhile_append_of_pos hall]
    rcases hrest with rfl | ⟨c, tail, rfl, hc⟩
    · exact List.append_nil _
    · rw [List.takeWhile_cons_of_neg (by simp [hc]), List.append_nil]
  have hdrop : (text ++ rest).dropWhile is_number_char = rest := by
    rw [List.dropWhile_append_of_pos hall]
    rcases hrest with rfl | ⟨c, tail, rfl, hc⟩
    · rfl
    · rw [List.dropWhile_cons_of_neg (by simp [hc])]
  unfold number
  simp only [htake, hdrop, h, dif_pos]

/-- A written number is read as a number, by its first character. -/
theorem value_number {text rest : List Char} {fuel : Nat} (h : is_number text = true)
    (hrest : Follows rest) : value (fuel + 1) (text ++ rest) = some (.number ⟨text, h⟩, rest) := by
  have hread := number_write h hrest
  cases text with
  | nil => cases h
  | cons c tail =>
    have hc := is_number_chars h c List.mem_cons_self
    have hother : ∀ d, is_number_char d = false → c ≠ d := by
      rintro d hd rfl
      rw [hc] at hd
      cases hd
    rw [List.cons_append] at hread ⊢
    rw [value, if_neg (hother _ (by decide)), if_neg (hother _ (by decide)),
      if_neg (hother _ (by decide))]
    have hword : words.lookup c = none :=
      List.lookup_eq_none_iff.mpr fun entry hentry => bne_iff_ne.mpr <|
        hother _ ((by decide : ∀ entry ∈ words, is_number_char entry.1 = false) entry hentry)
    rw [hword]
    simp only
    rw [if_neg ?_, hread]
    rintro ⟨rfl, hhead⟩
    cases tail with
    | nil => cases h
    | cons d tail =>
      obtain rfl : d = 'I' := Option.some.inj hhead
      have hd := is_number_chars h 'I' (by simp)
      cases hd

theorem word_write (letters rest : List Char) (v : Value) :
    word letters v (letters ++ rest) = some (v, rest) := by
  unfold word
  rw [if_pos (List.prefix_append _ _), List.drop_left]

/-- A comma or colon, with the space after it if there is one. -/
theorem expect_mark (style : Style) {c : Char} (hc : is_space c = false) (rest : List Char) :
    ∃ after, expect c (style.mark c ++ rest) = some after ∧ skip after = skip rest := by
  unfold Style.mark
  by_cases hspaced : style.spaced = true
  · rw [if_pos hspaced]
    exact ⟨' ' :: rest, expect_eq_some_iff.mpr (skip_cons hc _), rfl⟩
  · rw [if_neg hspaced]
    exact ⟨rest, expect_eq_some_iff.mpr (skip_cons hc _), rfl⟩

theorem mark_delimited (style : Style) {c : Char} (hc : is_number_char c = false) (rest : List Char) :
    Delimited (style.mark c ++ rest) := by
  unfold Style.mark
  by_cases hspaced : style.spaced = true
  · rw [if_pos hspaced]
    exact ⟨c, _, rfl, hc⟩
  · rw [if_neg hspaced]
    exact ⟨c, _, rfl, hc⟩

theorem not_space_of_number_char {c : Char} (h : is_number_char c = true) : is_space c = false := by
  by_contra hspace
  rw [Bool.not_eq_false] at hspace
  simp only [is_space, Bool.or_eq_true, decide_eq_true_eq] at hspace
  rcases hspace with ((rfl | rfl) | rfl) | rfl <;> cases h

/-- A written value starts with no white space. -/
theorem write_head (style : Style) (v : Value) :
    ∃ c tail, write style v = c :: tail ∧ is_space c = false := by
  cases v with
  | number own =>
    obtain ⟨text, h⟩ := own
    cases text with
    | nil => cases h
    | cons c tail =>
      exact ⟨c, tail, rfl, not_space_of_number_char (is_number_chars h c List.mem_cons_self)⟩
  | bool own =>
    cases own with
    | true => exact ⟨_, _, rfl, by decide⟩
    | false => exact ⟨_, _, rfl, by decide⟩
  | null | nan | infinity | negative_infinity | text | array | object =>
    exact ⟨_, _, rfl, by decide⟩

theorem skip_write (style : Style) (v : Value) (rest : List Char) :
    skip (write style v ++ rest) = write style v ++ rest := by
  obtain ⟨c, tail, heq, hc⟩ := write_head style v
  rw [heq, List.cons_append, skip_cons hc]

/-- A value without elements is read back. -/
theorem value_write_atom (style : Style) {v : Value} (harray : ∀ own, v ≠ .array own)
    (hobject : ∀ own, v ≠ .object own) {fuel : Nat} {rest : List Char} (hfuel : 0 < fuel)
    (hrest : Follows rest) : value fuel (write style v ++ rest) = some (v, rest) := by
  obtain ⟨fuel, rfl⟩ : ∃ less, fuel = less + 1 := ⟨fuel - 1, by omega⟩
  rw [write.eq_3 style v (fun own h => harray own h) (fun own h => hobject own h)]
  cases v with
  | array own => exact absurd rfl (harray own)
  | object own => exact absurd rfl (hobject own)
  | number own => exact value_number own.property hrest
  | text own =>
    unfold write_atom quote
    simp only [List.cons_append, List.append_assoc, List.nil_append]
    rw [value, if_pos rfl, string_quote]
    rfl
  | bool own =>
    cases own with
    | true => exact word_write ['r', 'u', 'e'] rest _
    | false => exact word_write ['a', 'l', 's', 'e'] rest _
  | null => exact word_write ['u', 'l', 'l'] rest _
  | nan => exact word_write ['a', 'N'] rest _
  | infinity => exact word_write ['n', 'f', 'i', 'n', 'i', 't', 'y'] rest _
  | negative_infinity => exact word_write ['I', 'n', 'f', 'i', 'n', 'i', 't', 'y'] rest _

theorem separated_last {α : Type} (elements : List Char → Option (List α × List Char)) {close : Char}
    (hclose : is_space close = false) (hcomma : ',' ≠ close) (element : α) (rest : List Char) :
    separated elements close element (close :: rest) = some ([element], rest) := by
  have hend : expect close (close :: rest) = some rest := expect_eq_some_iff.mpr (skip_cons hclose _)
  unfold separated
  rw [expect_other hcomma hend, hend]
  rfl

theorem separated_next {α : Type} {elements : List Char → Option (List α × List Char)} {close : Char}
    {element : α} {text after rest : List Char} {others : List α} (hcomma : expect ',' text = some after)
    (hothers : elements after = some (others, rest)) :
    separated elements close element text = some (element :: others, rest) := by
  unfold separated
  rw [hcomma]
  simp only [hothers, Option.map_some]
  rfl

theorem mark_length (style : Style) (c : Char) : 0 < (style.mark c).length := by
  unfold Style.mark
  split
  · exact Nat.two_pos
  · exact Nat.one_pos

theorem skip_skip (text : List Char) : skip (skip text) = skip text := List.dropWhile_idempotent ..

/-- White space before the elements of a list means nothing. -/
theorem items_skip (fuel : Nat) (text : List Char) : items fuel text = items fuel (skip text) := by
  cases fuel with
  | zero => rw [items, items]
  | succ fuel => rw [items, items, skip_skip]

theorem members_skip (fuel : Nat) (text : List Char) : members fuel text = members fuel (skip text) := by
  cases fuel with
  | zero => rw [members, members]
  | succ fuel => rw [members, members, expect, expect, skip_skip]

/-- A written member, up to what follows its value. -/
theorem members_member (style : Style) (name : List Char) {v : Value} {fuel : Nat} {tail : List Char}
    (hv : value fuel (write style v ++ tail) = some (v, tail)) :
    members (fuel + 1) (quote style.ensure_ascii name ++ style.mark ':' ++ write style v ++ tail) =
      separated (members fuel) '}' (name, v) tail := by
  have hopen : expect '"' (quote style.ensure_ascii name ++ style.mark ':' ++ write style v ++ tail) =
      some (name.flatMap (escape style.ensure_ascii) ++
        '"' :: (style.mark ':' ++ (write style v ++ tail))) := by
    apply expect_eq_some_iff.mpr
    unfold quote
    simp only [List.cons_append, List.append_assoc, List.nil_append]
    exact skip_cons (by decide) _
  obtain ⟨after, hcolon, hskip⟩ := expect_mark style (by decide : is_space ':' = false)
    (write style v ++ tail)
  rw [members, hopen, Option.bind_eq_bind, Option.bind_some, string_quote, Option.bind_eq_bind,
    Option.bind_some, Option.bind_eq_bind]
  simp only [hcolon, Option.bind_some, hskip, skip_write, hv]

theorem fuel_pos {style : Style} {v : Value} {fuel : Nat} (h : (write style v).length ≤ fuel) : 0 < fuel := by
  obtain ⟨c, tail, heq, -⟩ := write_head style v
  rw [heq, List.length_cons] at h
  omega

mutual

/-- A written value is read back. -/
theorem value_write (style : Style) : ∀ (v : Value) {fuel : Nat} {rest : List Char},
    (write style v).length ≤ fuel → Follows rest →
      value fuel (write style v ++ rest) = some (v, rest)
  | .array own, fuel, rest, hfuel, _ => by
    rw [write] at hfuel ⊢
    rw [List.length_append, List.length_cons, List.length_singleton] at hfuel
    obtain ⟨fuel, rfl⟩ : ∃ less, fuel = less + 1 := ⟨fuel - 1, by omega⟩
    rw [List.cons_append, List.cons_append, List.append_assoc, List.singleton_append, value,
      if_neg (by decide), if_neg (by decide), if_pos rfl]
    cases own with
    | nil => rfl
    | cons first more =>
      have hlength : ((style.mark ',').intercalate (write_items style (first :: more))).length < fuel := by
        omega
      have hread := items_write style first more hlength rest
      rw [bracketed, expect_close_of_items hread]
      simp only [hread, Option.map_some]
  | .object own, fuel, rest, hfuel, _ => by
    rw [write] at hfuel ⊢
    rw [List.length_append, List.length_cons, List.length_singleton] at hfuel
    obtain ⟨fuel, rfl⟩ : ∃ less, fuel = less + 1 := ⟨fuel - 1, by omega⟩
    rw [List.cons_append, List.cons_append, List.append_assoc, List.singleton_append, value,
      if_neg (by decide), if_pos rfl]
    cases own with
    | nil => rfl
    | cons first more =>
      have hlength : ((style.mark ',').intercalate (write_members style (first :: more))).length < fuel := by
        omega
      have hread := members_write style first more hlength rest
      obtain ⟨tail, hquote⟩ := expect_quote_of_members hread
      rw [bracketed, expect_other (by decide) hquote]
      simp only [hread, Option.map_some]
  | .null, _, _, hfuel, hrest => value_write_atom style (by simp) (by simp) (fuel_pos hfuel) hrest
  | .bool _, _, _, hfuel, hrest => value_write_atom style (by simp) (by simp) (fuel_pos hfuel) hrest
  | .number _, _, _, hfuel, hrest => value_write_atom style (by simp) (by simp) (fuel_pos hfuel) hrest
  | .nan, _, _, hfuel, hrest => value_write_atom style (by simp) (by simp) (fuel_pos hfuel) hrest
  | .infinity, _, _, hfuel, hrest => value_write_atom style (by simp) (by simp) (fuel_pos hfuel) hrest
  | .negative_infinity, _, _, hfuel, hrest => value_write_atom style (by simp) (by simp) (fuel_pos hfuel) hrest
  | .text _, _, _, hfuel, hrest => value_write_atom style (by simp) (by simp) (fuel_pos hfuel) hrest

theorem items_write (style : Style) : ∀ (v : Value) (more : List Value) {fuel : Nat},
    ((style.mark ',').intercalate (write_items style (v :: more))).length < fuel → ∀ rest,
      items fuel ((style.mark ',').intercalate (write_items style (v :: more)) ++ ']' :: rest) =
        some (v :: more, rest)
  | v, [], fuel, hfuel, rest => by
    rw [write_items, write_items, List.intercalate_singleton] at hfuel ⊢
    obtain ⟨fuel, rfl⟩ : ∃ less, fuel = less + 1 := ⟨fuel - 1, by omega⟩
    have hv := value_write style v (show (write style v).length ≤ fuel by omega)
      (.inr ⟨']', rest, rfl, by decide⟩)
    rw [items, skip_write, hv]
    exact separated_last (items fuel) (by decide : is_space ']' = false) (by decide) v rest
  | v, next :: more, fuel, hfuel, rest => by
    rw [write_items, write_items, List.intercalate_cons_cons, ← write_items] at hfuel ⊢
    obtain ⟨fuel, rfl⟩ : ∃ less, fuel = less + 1 := ⟨fuel - 1, by omega⟩
    have hmark : 0 < (style.mark ',').length := mark_length style ','
    rw [List.length_append, List.length_append] at hfuel
    have hv := value_write style v (show (write style v).length ≤ fuel by omega)
      (.inr (mark_delimited style (by decide : is_number_char ',' = false)
        ((style.mark ',').intercalate (write_items style (next :: more)) ++ ']' :: rest)))
    obtain ⟨after, hcomma, hskip⟩ := expect_mark style (by decide : is_space ',' = false)
      ((style.mark ',').intercalate (write_items style (next :: more)) ++ ']' :: rest)
    rw [List.append_assoc, List.append_assoc, items, skip_write, hv]
    apply separated_next hcomma
    rw [items_skip, hskip, ← items_skip]
    exact items_write style next more (by omega) rest

theorem members_write (style : Style) : ∀ (own : List Char × Value) (more : List (List Char × Value))
    {fuel : Nat}, ((style.mark ',').intercalate (write_members style (own :: more))).length < fuel →
      ∀ rest, members fuel
        ((style.mark ',').intercalate (write_members style (own :: more)) ++ '}' :: rest) =
          some (own :: more, rest)
  | (name, v), [], fuel, hfuel, rest => by
    rw [write_members, write_members, List.intercalate_singleton] at hfuel ⊢
    obtain ⟨fuel, rfl⟩ : ∃ less, fuel = less + 1 := ⟨fuel - 1, by omega⟩
    rw [List.length_append] at hfuel
    have hv := value_write style v (show (write style v).length ≤ fuel by omega)
      (.inr ⟨'}', rest, rfl, by decide⟩)
    rw [members_member style name hv, separated_last (members fuel) (by decide) (by decide)]
  | (name, v), (other, w) :: more, fuel, hfuel, rest => by
    rw [write_members, write_members, List.intercalate_cons_cons, ← write_members] at hfuel ⊢
    obtain ⟨fuel, rfl⟩ : ∃ less, fuel = less + 1 := ⟨fuel - 1, by omega⟩
    have hmark : 0 < (style.mark ',').length := mark_length style ','
    rw [List.length_append, List.length_append, List.length_append] at hfuel
    have hv := value_write style v (show (write style v).length ≤ fuel by omega)
      (.inr (mark_delimited style (by decide : is_number_char ',' = false)
        ((style.mark ',').intercalate (write_members style ((other, w) :: more)) ++ '}' :: rest)))
    obtain ⟨after, hcomma, hskip⟩ := expect_mark style (by decide : is_space ',' = false)
      ((style.mark ',').intercalate (write_members style ((other, w) :: more)) ++ '}' :: rest)
    rw [List.append_assoc, List.append_assoc, members_member style name hv]
    apply separated_next hcomma
    rw [members_skip, hskip, ← members_skip]
    exact members_write style (other, w) more (by omega) rest

end

/-- Writing loses nothing, and white space may follow. -/
theorem document_write_space (style : Style) (v : Value) {space : List Char}
    (hspace : ∀ c ∈ space, is_space c = true) : document (write style v ++ space) = some v := by
  have hfollows : Follows space := by
    cases space with
    | nil => exact .inl rfl
    | cons c rest =>
      refine .inr ⟨c, rest, rfl, ?_⟩
      by_contra hnumber
      rw [Bool.not_eq_false] at hnumber
      have hc := not_space_of_number_char hnumber
      rw [hspace c List.mem_cons_self] at hc
      cases hc
  have hlength : (write style v).length ≤ (write style v ++ space).length + 1 := by
    rw [List.length_append]
    omega
  have hread := value_write style v hlength hfollows
  have hskip : skip space = [] := List.dropWhile_eq_nil_iff.mpr hspace
  unfold document
  rw [skip_write, hread]
  exact if_pos hskip

theorem document_write (style : Style) (v : Value) : document (write style v) = some v := by
  have hnone : ∀ c ∈ ([] : List Char), is_space c = true := fun c hc => nomatch hc
  have hread := document_write_space style v hnone
  rwa [List.append_nil] at hread

/-- No part of a written object is a document of its own. -/
theorem document_part_of_write (style : Style) (own : List (List Char × Value)) {size : Nat}
    (h : size < (write style (.object own)).length) :
    document ((write style (.object own)).take size) = none := by
  have hsplit := List.take_append_drop size (write style (.object own))
  have hread := value_write style (.object own) le_rfl (.inl rfl)
  have hopen : (write style (.object own)).head? = some '{' := by
    rw [write]
    rfl
  rw [← hsplit] at hopen
  rw [List.append_nil, ← hsplit] at hread
  refine document_part_eq_none ?_ hopen hread
  rw [ne_eq, List.drop_eq_nil_iff]
  omega

/-! ### A written document is one line -/

theorem mark_printable (style : Style) {c : Char} (hc : 32 ≤ c.toNat) : Printable (style.mark c) := by
  have hempty : Printable [] := by decide
  unfold Style.mark
  split
  · exact .cons hc (.cons (by decide) hempty)
  · exact .cons hc hempty

theorem write_atom_printable (style : Style) (v : Value) : Printable (write_atom style v) := by
  cases v with
  | number own =>
    intro c hc
    by_contra hlow
    have hchar := is_number_chars own.property c hc
    have hcontrol : ∀ n < 32, is_number_char (Char.ofNat n) = false := by decide
    have hnot := hcontrol c.toNat (by omega)
    rw [Char.ofNat_toNat, hchar] at hnot
    cases hnot
  | text own => exact quote_printable style.ensure_ascii own
  | bool own =>
    rw [write_atom]
    cases own <;> decide
  | null | nan | infinity | negative_infinity | array | object =>
    rw [write_atom]
    decide

/-- What holds of the characters of some parts and of a mark holds of them all. -/
theorem forall_mem_intercalate {p : Char → Prop} {mark : List Char} (hmark : ∀ c ∈ mark, p c) :
    ∀ {parts : List (List Char)}, (∀ part ∈ parts, ∀ c ∈ part, p c) → ∀ c ∈ mark.intercalate parts, p c
  | [], _, c, hc => nomatch hc
  | [part], h, c, hc => by
    rw [List.intercalate_singleton] at hc
    exact h part List.mem_cons_self c hc
  | part :: next :: more, h, c, hc => by
    rw [List.intercalate_cons_cons, List.mem_append, List.mem_append] at hc
    rcases hc with (hc | hc) | hc
    · exact h part List.mem_cons_self c hc
    · exact hmark c hc
    · exact forall_mem_intercalate hmark (fun own hown => h own (List.mem_cons_of_mem _ hown)) c hc

theorem intercalate_printable {mark : List Char} (hmark : Printable mark) {parts : List (List Char)}
    (h : ∀ part ∈ parts, Printable part) : Printable (mark.intercalate parts) :=
  forall_mem_intercalate hmark h

mutual

theorem write_printable (style : Style) : ∀ v : Value, Printable (write style v)
  | .array own => by
    rw [write]
    have hparts := intercalate_printable (mark_printable style (by decide : 32 ≤ ','.toNat))
      (write_items_printable style own)
    exact .append (.cons (by decide) hparts) (by decide)
  | .object own => by
    rw [write]
    have hparts := intercalate_printable (mark_printable style (by decide : 32 ≤ ','.toNat))
      (write_members_printable style own)
    exact .append (.cons (by decide) hparts) (by decide)
  | .null => write_atom_printable style .null
  | .bool own => write_atom_printable style (.bool own)
  | .number own => write_atom_printable style (.number own)
  | .nan => write_atom_printable style .nan
  | .infinity => write_atom_printable style .infinity
  | .negative_infinity => write_atom_printable style .negative_infinity
  | .text own => write_atom_printable style (.text own)

theorem write_items_printable (style : Style) : ∀ own : List Value, ∀ part ∈ write_items style own, Printable part
  | [], _, hpart => nomatch hpart
  | v :: more, part, hpart => by
    rw [write_items] at hpart
    rcases List.mem_cons.mp hpart with rfl | hmore
    · exact write_printable style v
    · exact write_items_printable style more part hmore

theorem write_members_printable (style : Style) :
    ∀ own : List (List Char × Value), ∀ part ∈ write_members style own, Printable part
  | [], _, hpart => nomatch hpart
  | (name, v) :: more, part, hpart => by
    rw [write_members] at hpart
    rcases List.mem_cons.mp hpart with rfl | hmore
    · exact .append (.append (quote_printable style.ensure_ascii name) (mark_printable style (by decide)))
        (write_printable style v)
    · exact write_members_printable style more part hmore

end

end Json
