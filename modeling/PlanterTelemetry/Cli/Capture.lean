import PlanterTelemetry.Cli.Replay

open Iterator
open planter_telemetry.python

namespace planter_telemetry.cli

/-! ### A capture file is read back -/

/-- What is written of some lines: each with a newline. -/
def written (lines : List (List Char)) : List Char := lines.flatMap fun line => line ++ ['\n']

theorem universal_newlines_of_plain {text : List Char} (h : '\r' ∉ text) : universal_newlines text = text := by
  induction text with
  | nil => rfl
  | cons c rest ih =>
    obtain ⟨hc, hrest⟩ := not_or.mp (fun hmem => h (List.mem_cons.mpr hmem))
    rw [universal_newlines.eq_def]
    simp only [if_neg (Ne.symm hc), ih hrest]

theorem split_lines_line {line : List Char} (h : '\n' ∉ line) (rest : List Char) :
    split_lines (line ++ '\n' :: rest) = (line ++ ['\n']) :: split_lines rest := by
  induction line with
  | nil => exact if_pos rfl
  | cons c line ih =>
    obtain ⟨hc, hline⟩ := not_or.mp (fun hmem => h (List.mem_cons.mpr hmem))
    rw [List.cons_append, split_lines, if_neg (Ne.symm hc), ih hline]
    rfl

theorem split_lines_written {lines : List (List Char)} (h : ∀ line ∈ lines, '\n' ∉ line) :
    split_lines (written lines) = lines.map fun line => line ++ ['\n'] := by
  unfold written
  induction lines with
  | nil => rfl
  | cons line lines ih =>
    obtain ⟨hline, hlines⟩ := List.forall_mem_cons.mp h
    rw [List.flatMap_cons, List.append_assoc, List.singleton_append, split_lines_line hline, ih hlines,
      List.map_cons]

/-- Lines that hold no end of a line are read as they were written. -/
theorem lines_written {lines : List (List Char)} (h : ∀ line ∈ lines, '\n' ∉ line ∧ '\r' ∉ line) :
    split_lines (universal_newlines (written lines)) = lines.map fun line => line ++ ['\n'] := by
  have hnewlines : '\r' ∉ written lines := by
    intro hmem
    obtain ⟨line, hline, hmem⟩ := List.mem_flatMap.mp hmem
    cases List.mem_append.mp hmem with
    | inl hmem => exact (h line hline).2 hmem
    | inr hmem => exact absurd hmem (by decide)
  rw [universal_newlines_of_plain hnewlines, split_lines_written fun line hline => (h line hline).1]

/-- A printable line holds no end of a line. -/
theorem plain_of_printable {line : List Char} (h : Json.Printable line) : '\n' ∉ line ∧ '\r' ∉ line :=
  ⟨fun hmem => absurd (h _ hmem) (by decide), fun hmem => absurd (h _ hmem) (by decide)⟩

/-- A record starts with a brace, so that its line is not blank. -/
theorem encode_record_not_blank {message : CapturedMessage} {line : List Char}
    (hline : encode_record message = .ok line) : is_blank (line ++ ['\n']) = false := by
  have hbrace : ∃ rest, line = '{' :: rest := by
    unfold encode_record at hline
    split at hline
    · cases hline
    · cases hline
      exact ⟨_, rfl⟩
  obtain ⟨rest, rfl⟩ := hbrace
  rw [is_blank, List.cons_append, List.all_cons]
  rfl

theorem newline_space : ∀ c ∈ ['\n'], Json.is_space c = true := by simp [Json.is_space]

/-- Reading the lines of some records yields the records. -/
theorem run_written {messages : List CapturedMessage} {lines : List (List Char)}
    (htopic : ∀ message ∈ messages, message.topic ≠ [])
    (hlines : List.Forall₂ (fun message line => encode_record message = .ok line) messages lines)
    {fuel : Nat} (hfuel : lines.length < fuel) (number : Nat) :
    (run (Source.next decode_line) fuel ⟨number, lines.map fun line => line ++ ['\n']⟩).1.map Prod.fst = messages ∧
      (run (Source.next decode_line) fuel ⟨number, lines.map fun line => line ++ ['\n']⟩).2 = .stopped := by
  induction hlines generalizing fuel number with
  | nil =>
    obtain ⟨fuel, rfl⟩ := Nat.exists_eq_succ_of_ne_zero (Nat.ne_of_gt hfuel)
    exact ⟨rfl, rfl⟩
  | @cons message line messages lines hline hlines ih =>
    obtain ⟨hmessage, hmessages⟩ := List.forall_mem_cons.mp htopic
    obtain ⟨fuel, rfl⟩ := Nat.exists_eq_succ_of_ne_zero (Nat.ne_of_gt (Nat.zero_lt_of_lt hfuel))
    have hread := decode_line_eq_ok_iff.mpr (decode_encode_record hmessage hline newline_space)
    have hnext := next_record (encode_record_not_blank hline) hread number
      (lines.map fun line => line ++ ['\n'])
    obtain ⟨hitems, hending⟩ := ih hmessages (Nat.lt_of_succ_lt_succ hfuel) (number + 1)
    rw [List.map_cons, run, hnext]
    dsimp only
    rw [List.map_cons, hitems]
    exact ⟨rfl, hending⟩

/-- Messages with an aware time are written, each on a line of its own. -/
theorem lines_of_aware {messages : List CapturedMessage}
    (haware : ∀ message ∈ messages, message.captured_at.utcoffset ≠ none) :
    ∃ lines, List.Forall₂ (fun message line => encode_record message = .ok line) messages lines ∧
      ∀ line ∈ lines, '\n' ∉ line ∧ '\r' ∉ line := by
  refine ⟨messages.map fun message => Json.write compact (.object (record_members message)), ?_, ?_⟩
  · rw [List.forall₂_map_right_iff]
    exact List.forall₂_same.mpr fun message hmessage => encode_record_eq_ok (haware message hmessage)
  · intro line hline
    obtain ⟨message, hmessage, rfl⟩ := List.mem_map.mp hline
    exact plain_of_printable (encode_record_line (encode_record_eq_ok (haware message hmessage)))

/-- A payload of text, captured two hours ahead of UTC. -/
def text_message : CapturedMessage where
  topic := ['t']
  payload := [123, 10, 34, 125]
  captured_at := { wall := 45000000, utcoffset := some ⟨7200000000, by decide⟩, wall_range := by decide }

/-- A payload that is no text. -/
def bytes_message : CapturedMessage where
  topic := ['t']
  payload := [255, 13]
  captured_at := { wall := 45000001, utcoffset := some ⟨0, utc_offset_range⟩, wall_range := by decide }

end planter_telemetry.cli
