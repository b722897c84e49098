import PlanterTelemetry.Library.Json.Write
import PlanterTelemetry.Library.Utf8

namespace Json

/-! ### Documents of ASCII texts -/

/-- A value without elements. -/
def Value.Atom : Value → Prop
  | .array _ | .object _ => False
  | _ => True

theorem write_of_atom (style : Style) {v : Value} (h : v.Atom) : write style v = write_atom style v := by
  cases v with
  | array own | object own => exact h.elim
  | null | bool | number | nan | infinity | negative_infinity | text =>
    rw [write]
    · exact fun own heq => nomatch heq
    · exact fun own heq => nomatch heq

theorem unicode_escape_ascii (unit : Nat) : Utf8.Ascii (unicode_escape unit) := by
  have hdigit : ∀ n < 16, (hex_digit n).toNat < 128 := by decide
  have hmod : ∀ n, (hex_digit (n % 16)).toNat < 128 := fun n => hdigit _ (Nat.mod_lt _ (by decide))
  intro c hc
  simp only [unicode_escape, List.mem_cons, List.not_mem_nil, or_false] at hc
  obtain rfl | rfl | rfl | rfl | rfl | rfl := hc
  · decide
  · decide
  · exact hmod _
  · exact hmod _
  · exact hmod _
  · exact hmod _

theorem escape_ascii (ensure_ascii : Bool) {c : Char} (h : c.toNat < 128) : Utf8.Ascii (escape ensure_ascii c) := by
  intro d hd
  unfold escape at hd
  cases hshort : short_escapes.lookup c with
  | some e =>
    have htable : ∀ pair ∈ short_escapes, pair.2.toNat < 128 := by decide
    obtain ⟨before, after, heq, -⟩ := List.lookup_eq_some_iff.mp hshort
    have he := htable (c, e) (heq ▸ List.mem_append_right _ List.mem_cons_self)
    simp only [hshort, List.mem_cons, List.not_mem_nil, or_false] at hd
    obtain rfl | rfl := hd
    · decide
    · exact he
  | none =>
    simp only [hshort] at hd
    split at hd
    · obtain ⟨unit, -, hd⟩ := List.mem_flatMap.mp hd
      exact unicode_escape_ascii unit d hd
    · rw [List.mem_singleton.mp hd]
      exact h

theorem quote_ascii (ensure_ascii : Bool) {text : List Char} (h : Utf8.Ascii text) :
    Utf8.Ascii (quote ensure_ascii text) := by
  intro d hd
  simp only [quote, List.cons_append, List.mem_cons, List.mem_append, List.not_mem_nil, or_false] at hd
  rcases hd with rfl | hd | rfl
  · decide
  · obtain ⟨c, hc, hd⟩ := List.mem_flatMap.mp hd
    exact escape_ascii ensure_ascii (h c hc) d hd
  · decide

theorem number_ascii {c : Char} (h : is_number_char c = true) : c.toNat < 128 := by
  simp only [is_number_char, Bool.or_eq_true, decide_eq_true_eq] at h
  rcases h with ((((hdigit | rfl) | rfl) | rfl) | rfl) | rfl
  · have hnine : c.toNat ≤ 57 := (Char.isDigit_iff_toNat.mp hdigit).2
    omega
  · decide
  · decide
  · decide
  · decide
  · decide

theorem write_atom_ascii (style : Style) {v : Value} (h : ∀ own, v = .text own → Utf8.Ascii own) :
    Utf8.Ascii (write_atom style v) := by
  cases v with
  | number own => exact fun c hc => number_ascii (is_number_chars own.property c hc)
  | text own => exact quote_ascii style.ensure_ascii (h own rfl)
  | bool own =>
    rw [write_atom]
    cases own <;> decide
  | null | nan | infinity | negative_infinity | array | object =>
    rw [write_atom]
    decide

theorem mem_write_members (style : Style) {own : List (List Char × Value)} {part : List Char}
    (h : part ∈ write_members style own) :
    ∃ member ∈ own, part = quote style.ensure_ascii member.1 ++ style.mark ':' ++ write style member.2 := by
  induction own with
  | nil => cases h
  | cons member own ih =>
    rw [write_members] at h
    rcases List.mem_cons.mp h with rfl | hmore
    · exact ⟨member, List.mem_cons_self, rfl⟩
    · obtain ⟨other, hother, hpart⟩ := ih hmore
      exact ⟨other, List.mem_cons_of_mem _ hother, hpart⟩

/-- An object of ASCII names and atoms is written in ASCII. -/
theorem write_object_ascii (style : Style) {own : List (List Char × Value)}
    (h : ∀ member ∈ own, Utf8.Ascii member.1 ∧ member.2.Atom ∧ ∀ text, member.2 = .text text → Utf8.Ascii text) :
    Utf8.Ascii (write style (.object own)) := by
  have hmark : ∀ c, c.toNat < 128 → Utf8.Ascii (style.mark c) := by
    intro c hc d hd
    unfold Style.mark at hd
    split at hd
    · simp only [List.mem_cons, List.not_mem_nil, or_false] at hd
      obtain rfl | rfl := hd
      · exact hc
      · decide
    · rw [List.mem_singleton.mp hd]
      exact hc
  have hpart : ∀ part ∈ write_members style own, Utf8.Ascii part := by
    intro part hpart
    obtain ⟨member, hmember, rfl⟩ := mem_write_members style hpart
    obtain ⟨hname, hatom, htext⟩ := h member hmember
    rw [write_of_atom style hatom]
    intro c hc
    cases List.mem_append.mp hc with
    | inl hc =>
      cases List.mem_append.mp hc with
      | inl hc => exact quote_ascii style.ensure_ascii hname c hc
      | inr hc => exact hmark ':' (by decide) c hc
    | inr hc => exact write_atom_ascii style htext c hc
  intro c hc
  rw [write, List.cons_append] at hc
  rcases List.mem_cons.mp hc with rfl | hc
  · decide
  · cases List.mem_append.mp hc with
    | inl hc => exact forall_mem_intercalate (hmark ',' (by decide)) hpart c hc
    | inr hc =>
      rw [List.mem_singleton.mp hc]
      decide

end Json
