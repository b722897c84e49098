import PlanterTelemetry.Python
import Mathlib.Data.List.TakeWhile

open planter_telemetry.python

namespace planter_telemetry.configparser

/-! ### `configparser.BasicInterpolation` -/

inductive Error where
  | value_error (value : List Char)
  | interpolation_syntax_error (rest : List Char)
  | interpolation_missing_option_error (name : List Char)
  | interpolation_depth_error
  deriving DecidableEq, Repr

def MAX_INTERPOLATION_DEPTH : Nat := 10

/-- What `_KEYCRE` matches behind its `%(`: a name up to the first `)`, then
    `)s`. -/
def reference (text : List Char) : Option (List Char × List Char) :=
  match text.takeWhile (· ≠ ')'), text.dropWhile (· ≠ ')') with
  | first :: name, ')' :: 's' :: rest => some (first :: name, rest)
  | _, _ => none

theorem reference_eq {text name rest : List Char} (h : reference text = some (name, rest)) :
    text = name ++ ')' :: 's' :: rest := by
  unfold reference at h
  split at h
  · next first taken after htaken hdropped =>
    cases h
    have hwhole : text.takeWhile (· ≠ ')') ++ text.dropWhile (· ≠ ')') = text :=
      List.takeWhile_append_dropWhile
    rw [htaken, hdropped] at hwhole
    exact hwhole.symm
  · cases h

theorem reference_length {text name rest : List Char} (h : reference text = some (name, rest)) :
    rest.length < text.length := by
  rw [reference_eq h, List.length_append, List.length_cons, List.length_cons]
  omega

/-- `value.replace("%%", "")`. -/
def remove_pairs : List Char → List Char
  | '%' :: '%' :: text => remove_pairs text
  | c :: text => c :: remove_pairs text
  | [] => []

/-- `_KEYCRE.sub("", value)`. -/
def remove_references : List Char → List Char
  | '%' :: '(' :: text =>
    match _h : reference text with
    | some (_, rest) => remove_references rest
    | none => '%' :: remove_references ('(' :: text)
  | c :: text => c :: remove_references text
  | [] => []
termination_by text => text.length
decreasing_by
  all_goals simp only [List.length_cons]
  · have hshorter := reference_length _h
    omega
  · omega
  · omega

/-- `BasicInterpolation.before_set`. -/
def before_set (value : List Char) : Except Error (List Char) :=
  if '%' ∈ remove_references (remove_pairs value) then .error (.value_error value)
  else .ok value

/-- The loop of `_interpolate_some` over the rest of a value, where `expand` gives
    the text for a name. -/
def scan (expand : List Char → Except Error (List Char)) : List Char → Except Error (List Char)
  | '%' :: '%' :: rest => do
    let after ← scan expand rest
    .ok ('%' :: after)
  | '%' :: '(' :: rest =>
    match _h : reference rest with
    | none => .error (.interpolation_syntax_error ('%' :: '(' :: rest))
    | some (name, rest) => do
      let value ← expand name
      let after ← scan expand rest
      .ok (value ++ after)
  | '%' :: rest => .error (.interpolation_syntax_error ('%' :: rest))
  | c :: rest => do
    let after ← scan expand rest
    .ok (c :: after)
  | [] => .ok []
termination_by text => text.length
decreasing_by
  all_goals simp only [List.length_cons]
  · omega
  · have hshorter := reference_length _h
    omega
  · omega

/-- The text for a name, whose value goes to `nested` if there is a percent sign in it. -/
def expand_option (options : List Char → Option (List Char)) (optionxform : List Char → List Char)
    (nested : List Char → Except Error (List Char)) (name : List Char) : Except Error (List Char) :=
  match options (optionxform name) with
  | none => .error (.interpolation_missing_option_error (optionxform name))
  | some value => if '%' ∈ value then nested value else .ok value

/-- `_interpolate_some`, with what is left of the depth. -/
def interpolate_some (options : List Char → Option (List Char)) (optionxform : List Char → List Char) :
    Nat → List Char → Except Error (List Char)
  | 0, _ => .error .interpolation_depth_error
  | depth + 1, text => scan (expand_option options optionxform (interpolate_some options optionxform depth)) text

/-! ### Texts without a percent sign -/

section Plain

variable {text before after : List Char}

/-- A filter that only takes percent signs away keeps a text without one. -/
theorem append_of_plain {remove : List Char → List Char}
    (hkeeps : ∀ c rest, c ≠ '%' → remove (c :: rest) = c :: remove rest) (h : '%' ∉ before) (after : List Char) :
    remove (before ++ after) = before ++ remove after := by
  induction before with
  | nil => rfl
  | cons c before ih =>
    obtain ⟨hc, hbefore⟩ := List.ne_and_not_mem_of_not_mem_cons h
    rw [List.cons_append, hkeeps c _ hc.symm, ih hbefore, List.cons_append]

theorem remove_pairs_append (h : '%' ∉ before) (after : List Char) :
    remove_pairs (before ++ after) = before ++ remove_pairs after := by
  refine append_of_plain (fun c rest hc => ?_) h after
  rw [remove_pairs]
  rintro _ rfl
  exact absurd rfl hc

theorem remove_references_append (h : '%' ∉ before) (after : List Char) :
    remove_references (before ++ after) = before ++ remove_references after := by
  refine append_of_plain (fun c rest hc => ?_) h after
  rw [remove_references]
  rintro _ rfl
  exact absurd rfl hc

theorem scan_append (expand : List Char → Except Error (List Char)) (h : '%' ∉ before) (after : List Char) :
    scan expand (before ++ after) = (scan expand after).map (before ++ ·) := by
  induction before with
  | nil => cases hscan : scan expand after <;> simp [hscan, Except.map]
  | cons c before ih =>
    obtain ⟨hc, hbefore⟩ := List.ne_and_not_mem_of_not_mem_cons h
    rw [List.cons_append, scan, ih hbefore]
    · cases scan expand after <;> rfl
    · rintro rest rfl
      exact absurd rfl hc
    · rintro rest rfl
      exact absurd rfl hc
    · rintro rfl
      exact absurd rfl hc

theorem exists_scan_of_append {expand : List Char → Except Error (List Char)} {result : List Char}
    (h : '%' ∉ before) (hscan : scan expand (before ++ after) = .ok result) :
    ∃ rest, scan expand after = .ok rest := by
  rw [scan_append expand h] at hscan
  cases hrest : scan expand after with
  | error e => rw [hrest] at hscan; cases hscan
  | ok rest => exact ⟨rest, rfl⟩

theorem before_set_of_plain (h : '%' ∉ text) : before_set text = .ok text := by
  have hpairs : remove_pairs text = text := by simpa [remove_pairs] using remove_pairs_append h []
  have hreferences : remove_references text = text := by
    simpa [remove_references] using remove_references_append h []
  rw [before_set, hpairs, hreferences, if_neg h]

theorem scan_of_plain {expand : List Char → Except Error (List Char)} (h : '%' ∉ text) :
    scan expand text = .ok text := by
  simpa [scan, Except.map] using scan_append expand h []

end Plain

/-! ### What the loop does with its first character -/

section Steps

variable {expand less more : List Char → Except Error (List Char)} {c : Char} {rest result : List Char}

theorem scan_cons (h : scan expand (c :: rest) = .ok result) :
    (c ≠ '%' ∧ ∃ after, scan expand rest = .ok after ∧ result = c :: after) ∨
    (c = '%' ∧ ∃ text after, rest = '%' :: text ∧ scan expand text = .ok after ∧ result = '%' :: after) ∨
    (c = '%' ∧ ∃ spelled name text value after, rest = '(' :: spelled ∧
      reference spelled = some (name, text) ∧ expand name = .ok value ∧ scan expand text = .ok after ∧
      result = value ++ after) := by
  unfold scan at h
  split at h
  · next text heq =>
    cases heq
    obtain ⟨after, hafter, hresult⟩ := bind_eq_ok_iff.mp h
    exact .inr (.inl ⟨rfl, text, after, rfl, hafter, (Except.ok.inj hresult).symm⟩)
  · next spelled heq =>
    cases heq
    split at h
    · cases h
    · next name text hreference =>
      obtain ⟨value, hvalue, h⟩ := bind_eq_ok_iff.mp h
      obtain ⟨after, hafter, hresult⟩ := bind_eq_ok_iff.mp h
      exact .inr (.inr ⟨rfl, spelled, name, text, value, after, rfl, hreference, hvalue, hafter,
        (Except.ok.inj hresult).symm⟩)
  · cases h
  · next d text hpairs hreferences hstray heq =>
    cases heq
    obtain ⟨after, hafter, hresult⟩ := bind_eq_ok_iff.mp h
    exact .inl ⟨hstray, after, hafter, (Except.ok.inj hresult).symm⟩
  · next heq => cases heq

theorem scan_percent_pair {text after : List Char}
    (h : scan expand text = .ok after) : scan expand ('%' :: '%' :: text) = .ok ('%' :: after) := by
  rw [scan, h]
  rfl

theorem scan_reference {spelled name text value after : List Char}
    (hreference : reference spelled = some (name, text)) (hvalue : expand name = .ok value)
    (hafter : scan expand text = .ok after) :
    scan expand ('%' :: '(' :: spelled) = .ok (value ++ after) := by
  rw [scan]
  split
  · next hnone => rw [hreference] at hnone; cases hnone
  · next name' text' hsome =>
    rw [hreference] at hsome
    cases hsome
    rw [hvalue, hafter]
    rfl

theorem scan_other {text after : List Char}
    (hc : c ≠ '%') (h : scan expand text = .ok after) : scan expand (c :: text) = .ok (c :: after) := by
  have hplain : '%' ∉ [c] := by simpa using hc.symm
  have happend := scan_append expand hplain text
  rw [h] at happend
  exact happend

/-- More names expanded, the same text for a value that was accepted. -/
theorem scan_mono (hexpand : ∀ name value, less name = .ok value → more name = .ok value) :
    ∀ text result, scan less text = .ok result → scan more text = .ok result := by
  intro text
  induction hlength : text.length using Nat.strong_induction_on generalizing text with
  | _ length ih =>
    subst hlength
    intro result h
    cases text with
    | nil => simpa only [scan] using h
    | cons c text =>
      obtain ⟨hc, after, hafter, rfl⟩ | ⟨rfl, text, after, rfl, hafter, rfl⟩ |
        ⟨rfl, spelled, name, text, value, after, rfl, hreference, hvalue, hafter, rfl⟩ := scan_cons h
      · exact scan_other hc (ih _ (by simp) _ rfl _ hafter)
      · exact scan_percent_pair (ih _ (by simp only [List.length_cons]; omega) _ rfl _ hafter)
      · have hshorter := reference_length hreference
        have hafter := ih _ (by simp only [List.length_cons]; omega) _ rfl _ hafter
        exact scan_reference hreference (hexpand _ _ hvalue) hafter

end Steps

/-! ### Percent signs that interpolation rejects -/

/-- Each percent sign is followed by a character, which neither is another one
    nor opens a reference. -/
def StrayPercents (text : List Char) : Prop :=
  ∀ before after, text = before ++ '%' :: after → ∃ c rest, after = c :: rest ∧ c ≠ '%' ∧ c ≠ '('

section Stray

variable {expand : List Char → Except Error (List Char)} {before text tail result : List Char}

theorem StrayPercents.suffix (h : StrayPercents (before ++ text)) : StrayPercents text := by
  intro front after heq
  exact h (before ++ front) after (by rw [heq, List.append_assoc])

theorem strayPercents_nil : StrayPercents [] := by
  intro before after heq
  simp at heq

theorem StrayPercents.cons {c : Char} (hc : c ≠ '%') (h : StrayPercents text) : StrayPercents (c :: text) := by
  intro before after heq
  cases before with
  | nil => exact absurd (List.cons.inj heq).1 hc
  | cons _ before => exact h before after (List.cons.inj heq).2

theorem StrayPercents.percent_cons {c : Char} (hpercent : c ≠ '%') (hopen : c ≠ '(')
    (h : StrayPercents (c :: text)) : StrayPercents ('%' :: c :: text) := by
  intro before after heq
  cases before with
  | nil => exact ⟨c, text, (List.cons.inj heq).2.symm, hpercent, hopen⟩
  | cons _ before => exact h before after (List.cons.inj heq).2

/-- The first percent sign of a text is rejected if it is stray. -/
theorem before_set_stray (hbefore : '%' ∉ before) (hstray : StrayPercents text) (hmem : '%' ∈ text)
    (tail : List Char) :
    before_set (before ++ text ++ tail) = .error (.value_error (before ++ text ++ tail)) := by
  obtain ⟨front, after, rfl, hfront⟩ := List.eq_append_cons_of_mem hmem
  obtain ⟨c, rest, rfl, hpercent, hopen⟩ := hstray front after rfl
  have hplain : '%' ∉ before ++ front := fun h => (List.mem_append.mp h).elim hbefore hfront
  have hpairs : remove_pairs ('%' :: c :: (rest ++ tail)) = '%' :: c :: remove_pairs (rest ++ tail) := by
    rw [remove_pairs, remove_pairs]
    · rintro _ rfl
      exact absurd rfl hpercent
    · rintro _ _ heq
      exact absurd (List.cons.inj heq).1 hpercent
  have hreferences (more : List Char) :
      remove_references ('%' :: c :: more) = '%' :: remove_references (c :: more) := by
    rw [remove_references]
    rintro _ _ heq
    exact absurd (List.cons.inj heq).1 hopen
  have hwhole : before ++ (front ++ '%' :: c :: rest) ++ tail =
      (before ++ front) ++ '%' :: c :: (rest ++ tail) := by simp
  rw [before_set, hwhole, remove_pairs_append hplain, hpairs, remove_references_append hplain,
    hreferences, if_pos (by simp)]

theorem scan_stray (hstray : StrayPercents text) (h : scan expand text = .ok result) : '%' ∉ text := by
  intro hmem
  obtain ⟨front, after, rfl, hfront⟩ := List.eq_append_cons_of_mem hmem
  obtain ⟨c, rest, rfl, hpercent, hopen⟩ := hstray front after rfl
  obtain ⟨stopped, hstopped⟩ := exists_scan_of_append hfront h
  obtain ⟨hc, -⟩ | ⟨-, text, _, hpair, -⟩ | ⟨-, spelled, _, _, _, _, hspelled, -⟩ := scan_cons hstopped
  · exact hc rfl
  · exact hpercent (List.cons.inj hpair).1
  · exact hopen (List.cons.inj hspelled).1

theorem count_of_scan_stray (hstray : StrayPercents text) (h : scan expand text = .ok result) :
    result.count '%' = 0 := by
  have hplain := scan_stray hstray h
  rw [scan_of_plain hplain] at h
  cases h
  exact List.count_eq_zero.mpr hplain

/-- Interpolation at least halves the percent signs of a text, whatever it does
    with the stray ones behind it. -/
theorem count_of_scan (hexpand : ∀ name value, expand name = .ok value → '%' ∉ value)
    (htail : StrayPercents tail) (hhead : tail.head? ≠ some '%' ∧ tail.head? ≠ some '(') :
    ∀ text result, scan expand (text ++ tail) = .ok result → 2 * result.count '%' ≤ text.count '%' := by
  intro text
  induction hlength : text.length using Nat.strong_induction_on generalizing text with
  | _ length ih =>
    subst hlength
    intro result h
    cases text with
    | nil =>
      rw [List.nil_append] at h
      rw [count_of_scan_stray htail h]
      exact Nat.zero_le _
    | cons c text =>
      obtain ⟨hc, after, hafter, rfl⟩ | ⟨rfl, more, after, hmore, hafter, rfl⟩ |
        ⟨rfl, spelled, name, more, value, after, hspelled, hreference, hvalue, hafter, rfl⟩ := scan_cons h
      · have hcount := ih _ (by simp) text rfl after hafter
        rwa [List.count_cons_of_ne hc, List.count_cons_of_ne hc]
      · cases text with
        | nil => exact absurd (by rw [show tail = '%' :: more from hmore]; rfl) hhead.1
        | cons d text =>
          obtain ⟨rfl, rfl⟩ := List.cons.inj hmore
          have hcount := ih _ (by simp only [List.length_cons]; omega) text rfl after hafter
          simp only [List.count_cons_self]
          omega
      · have hvalue : value.count '%' = 0 := List.count_eq_zero.mpr (hexpand name value hvalue)
        cases text with
        | nil => exact absurd (by rw [show tail = '(' :: spelled from hspelled]; rfl) hhead.2
        | cons d text =>
          obtain ⟨rfl, hbehind⟩ := List.cons.inj hspelled
          have hsplit : text ++ tail = (name ++ [')', 's']) ++ more := by
            rw [List.append_assoc]
            exact hbehind.trans (reference_eq hreference)
          obtain ⟨inside, -, htail_eq⟩ | ⟨inside, rfl, rfl⟩ := List.append_eq_append_iff.mp hsplit
          · -- the reference ends behind the text
            have hafter := count_of_scan_stray (htail_eq ▸ htail).suffix hafter
            simp [hvalue, hafter]
          · have hshorter : inside.length < ('%' :: '(' :: (name ++ [')', 's'] ++ inside)).length := by
              simp only [List.length_cons, List.length_append]
              omega
            have hcount := ih _ hshorter inside rfl after hafter
            simp only [List.count_cons_self, List.count_append, List.count_cons_of_ne (by decide : '(' ≠ '%'), hvalue]
            omega

end Stray

/-! ### Values that refer to themselves -/

section Depth

variable {options : List Char → Option (List Char)} {optionxform : List Char → List Char}
  {value : List Char}

/-- Accepts the names that stand for a value without a percent sign. -/
def expand_plain (options : List Char → Option (List Char)) (optionxform : List Char → List Char) :
    List Char → Except Error (List Char) :=
  expand_option options optionxform fun _ => .error .interpolation_depth_error

theorem plain_of_expand_plain {name text : List Char} (h : expand_plain options optionxform name = .ok text) :
    '%' ∉ text := by
  unfold expand_plain expand_option at h
  split at h
  · cases h
  · split at h
    · cases h
    · next hplain =>
      cases h
      exact hplain

theorem expand_option_mono {less more : List Char → Except Error (List Char)}
    (hnested : ∀ name value text, options name = some value → '%' ∈ value → less value = .ok text →
      more value = .ok text) :
    ∀ name text, expand_option options optionxform less name = .ok text →
      expand_option options optionxform more name = .ok text := by
  intro name text h
  cases hvalue : options (optionxform name) with
  | none => simp only [expand_option, hvalue, reduceCtorEq] at h
  | some value =>
    simp only [expand_option, hvalue] at h ⊢
    by_cases hpercent : '%' ∈ value
    · rw [if_pos hpercent] at h ⊢
      exact hnested _ _ _ hvalue hpercent h
    · rwa [if_neg hpercent] at h ⊢

/-- A reference to the value itself never ends, so a value that is read has none. -/
theorem scan_of_interpolate_some
    (honly : ∀ name other, options name = some other → '%' ∈ other → other = value) (depth : Nat) :
    ∀ result, interpolate_some options optionxform depth value = .ok result →
      scan (expand_plain options optionxform) value = .ok result := by
  induction depth with
  | zero => intro result h; cases h
  | succ depth ih =>
    intro result h
    rw [interpolate_some] at h
    cases hself : interpolate_some options optionxform depth value with
    | error e =>
      refine scan_mono (expand_option_mono ?_) value result h
      intro name other text hother hpercent htext
      rw [honly name other hother hpercent, hself] at htext
      cases htext
    | ok expanded =>
      have hexpanded := ih expanded hself
      have hmore : ∀ name text, expand_plain options optionxform name = .ok text →
          expand_option options optionxform (interpolate_some options optionxform depth) name = .ok text := by
        apply expand_option_mono
        intro _ _ _ _ _ herror
        cases herror
      have hagain := scan_mono hmore value expanded hexpanded
      rw [h] at hagain
      cases hagain
      exact hexpanded

end Depth

end planter_telemetry.configparser
